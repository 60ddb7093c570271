/-
  The command that captures the environment of a toolchain.

  * `Capture.Settings`, `Capture.parse`: the arguments;
  * `Capture.capture`: the environment, from disk if a stored one still serves;
  * `Capture.selected`: the variables that were asked for;
  * `Capture.main`: the command.
-/
import CompileCommands.Cli.Exit
import CompileCommands.Decimal.Reader
import CompileCommands.Json.Writer
import CompileCommands.Snapshot.Store
import CompileCommands.Text.Case
import CompileCommands.Toolchain.Bootstrap

namespace CompileCommands.Cli.Capture

/-! ## Arguments -/

/-- The settings of the command. -/
structure Settings where
  /-- The installation. -/
  installation : Option String := none
  /-- The parameters of the bootstrap script. -/
  params : Option String := none
  /-- The time limit in seconds, unless it is withheld. -/
  timeout : Option Binary64 := some (.ofInt 30)
  /-- Where snapshots are kept. -/
  cache : Option String := none
  /-- The variables to print, each with its name unless that is withheld; all variables, if the
      list is empty. -/
  only : List (Option String) := []
  /-- How to print. -/
  format : Format := .text
  /-- Without colour. -/
  noColor : Bool := false
  /-- With more reports. -/
  verbose : Bool := false
  deriving DecidableEq

/-- What a switch stands for. -/
inductive Meaning where
  | help
  | installation
  | params
  | timeout
  | cache
  | only
  | format
  | noColor
  | verbose
  | version
  deriving DecidableEq, Repr

/-- The arguments that the command knows. -/
def grammar : Grammar Meaning where
  switches :=
    [{ names := ["-h", "--help"], meaning := .help },
      { names := ["--install-root"], meaning := .installation, takesValue := true },
      { names := ["--params"], meaning := .params, takesValue := true },
      { names := ["--timeout"], meaning := .timeout, takesValue := true },
      { names := ["--cache-dir"], meaning := .cache, takesValue := true },
      { names := ["--only"], meaning := .only, takesValue := true },
      { names := ["--format"], meaning := .format, takesValue := true },
      { names := ["--no-color"], meaning := .noColor },
      { names := ["--verbose", "-v"], meaning := .verbose },
      { names := ["--version"], meaning := .version }]

/-- The number of seconds that a text writes, unless it is withheld. -/
def secondsOf : Option String → Except Ending (Option Binary64)
  | none => .ok none
  | some text =>
    match Decimal.read? text with
    | some seconds => .ok (some seconds)
    | none => .error .usage

/-- Uses a switch. -/
def use (settings : Settings) (meaning : Meaning) (value : Option String) :
    Except Ending Settings :=
  match meaning with
  | .help => .error .help
  | .version => .error .version
  | .installation => .ok { settings with installation := value }
  | .params => .ok { settings with params := value }
  | .timeout => (secondsOf value).map fun seconds => { settings with timeout := seconds }
  | .cache => .ok { settings with cache := value }
  | .only => .ok { settings with only := settings.only ++ [value] }
  | .format => (Format.ofName value).map fun format => { settings with format := format }
  | .noColor => .ok { settings with noColor := true }
  | .verbose => .ok { settings with verbose := true }

/-- The variable that names the installation if no argument does. -/
def installationVariable : String := "VSINSTALLDIR"

/-- The settings that arguments make, in an environment. -/
def parse (environment : Environment) (arguments : List String) : Except Ending Settings :=
  Cli.parse grammar ⟨use, fun settings _ => settings⟩
    { installation := environment.get? installationVariable } arguments

/-! ## Capture -/

/-- How old a stored snapshot may be, in hours. -/
def maximumAge : Rat := 168

/-- Reads the stored snapshot, if one still serves. Parameters without a name are refused. -/
def stored (p : Palette) (b : Bootstrap) (params : Option String) (cache : String) :
    Action Session (Option Environment) := do
  Action.lift (Snapshot.requireName params)
  match ← Session.files (Snapshot.load cache params b.scriptPath (some maximumAge)) with
  | none => return none
  | some environment =>
    Session.complain (p.info "📦 Loading toolchain environment from cache")
    return some environment

/-- Stores a captured environment, and removes snapshots that are too old. -/
def keep (b : Bootstrap) (params : Option String) (cache : String) (environment : Environment) :
    Action Session Unit := do
  let _ ← Session.files (Snapshot.save cache params environment b.scriptPath)
  let _ ← Session.files (Snapshot.cleanup cache maximumAge)

/-- Captures an environment and stores it. -/
def fresh (b : Bootstrap) (launcher : Launcher) (params : Option String) (cache : String) :
    Action Session (Option Environment) := do
  match ← b.fetch launcher params with
  | none => return none
  | some environment =>
    keep b params cache environment
    return some environment

/-- The environment: a stored one if a directory for them is given and it still serves, else a
    captured one. -/
def capture (p : Palette) (b : Bootstrap) (launcher : Launcher) (params : Option String)
    (cache : Option String) : Action Session (Option Environment) := do
  match cache with
  | none | some "" => b.fetch launcher params
  | some cache =>
    match ← stored p b params cache with
    | some environment => return some environment
    | none => fresh b launcher params cache

/-! ## Print -/

/-- The variables of some names; case does not matter. Without names, all variables. -/
def selected (only : List String) (environment : Environment) : Environment :=
  if only.isEmpty then environment
  else environment.filter fun entry => (only.map Text.upper).contains (Text.upper entry.1)

/-- The names of the variables that were asked for. None may be withheld. -/
def namesOf (only : List (Option String)) : Except Failure (List String) :=
  match only.mapM id with
  | some names => .ok names
  | none => .error (.withheld .variableName)

/-- The variables by name. -/
def sorted (environment : Environment) : Environment :=
  environment.mergeSort fun a b => decide (a.1 ≤ b.1)

/-- The environment in print. -/
def printed (p : Palette) (format : Format) (environment : Environment) : String :=
  match format with
  | .json => (Json.obj (environment.map fun entry => (entry.1, .str entry.2))).pretty ++ "\n"
  | .text | .bare => p.fields (environment.map fun entry => (entry.1, some entry.2))

/-! ## The command -/

/-- Says that arguments are wrong. -/
def refuse (p : Palette) (text : String) : Action Session ExitCode := do
  Session.complain (p.error text true)
  return .invalidArguments

/-- What is said if no installation is named. -/
def noInstallation : String :=
  "No install root given (use --install-root or set " ++ installationVariable ++ ")"

/-- The time limit, which must not be withheld. -/
def timeLimitOf (settings : Settings) : Except Failure Binary64 :=
  match settings.timeout with
  | some seconds => .ok seconds
  | none => .error (.withheld .timeLimit)

/-- The bootstrap of an installation with a time limit. -/
def bootstrapOf (installation : String) (seconds : Binary64) : Except Failure Bootstrap :=
  match (seconds.timesNat 1000).truncate? with
  | some milliseconds => .ok { installation, milliseconds }
  | none => .error (.notFinite (seconds.timesNat 1000))

/-- Captures and prints. -/
def captureAndPrint (p : Palette) (launcher : Launcher) (settings : Settings) (b : Bootstrap) :
    Action Session ExitCode := do
  match ← capture p b launcher settings.params settings.cache with
  | none =>
    Session.complain (p.error
      "Unable to capture the toolchain environment (run with --verbose for details)" true)
    return .runtimeError
  | some environment =>
    let names ← Action.lift (namesOf settings.only)
    Session.print (printed p settings.format (sorted (selected names environment)))
    return .success

/-- Runs with settings. -/
def run (p : Palette) (launcher : Launcher) (settings : Settings) : Action Session ExitCode :=
  requiring p "toolchain environment capture" do
    match settings.installation with
    | none | some "" => refuse p noInstallation
    | some installation =>
      let seconds ← Action.lift (timeLimitOf settings)
      if seconds.nonPositive then refuse p "--timeout must be positive"
      else
        let b ← Action.lift (bootstrapOf installation seconds)
        captureAndPrint p launcher settings b

/-- The command. -/
def main (program : String) (launcher : Launcher) (arguments : List String) :
    Action Session Exit := fun s =>
  command program (parse s.world.environment arguments)
    (fun settings => do
      let p ← Action.view fun s => paletteFor settings.noColor s.world
      guarded p (run p launcher settings)) s

end CompileCommands.Cli.Capture
