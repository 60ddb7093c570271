/-
  The command that shows the status of the required packages.

  * `Packages.Settings`, `Packages.parse`: the arguments;
  * `Packages.main`: the command; without a request for checks it gives help.
-/
import CompileCommands.Cli.Exit

namespace CompileCommands.Cli.Packages

/-- The settings of the command. -/
structure Settings where
  /-- All packages are checked. -/
  checkAll : Bool := false
  deriving DecidableEq, Repr

/-- What a switch stands for. -/
inductive Meaning where
  | help
  | checkAll
  deriving DecidableEq, Repr

/-- The arguments that the command knows. -/
def grammar : Grammar Meaning where
  switches :=
    [{ names := ["-h", "--help"], meaning := .help },
      { names := ["--check-all"], meaning := .checkAll }]

/-- Uses a switch. -/
def use (settings : Settings) (meaning : Meaning) (_value : Option String) :
    Except Ending Settings :=
  match meaning with
  | .help => .error .help
  | .checkAll => .ok { settings with checkAll := true }

/-- The settings that arguments make. -/
def parse (arguments : List String) : Except Ending Settings :=
  Cli.parse grammar ⟨use, fun settings _ => settings⟩ {} arguments

/-- How a run of the command ends. -/
inductive Result where
  /-- The arguments end it at once. -/
  | ended (ending : Ending)
  /-- It gives help, for want of anything to do. -/
  | idle
  /-- The packages were checked. -/
  | checked (isGood : Bool)
  deriving DecidableEq, Repr

/-- The command. -/
def main (p : Palette) (requirements : Requirements) (arguments : List String) :
    Action Session Result := do
  match parse arguments with
  | .error e => return .ended e
  | .ok settings =>
    if settings.checkAll then return .checked (← Package.checkAll .standard p requirements)
    else return .idle

end CompileCommands.Cli.Packages
