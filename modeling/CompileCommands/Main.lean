/-
  The command line.

  The surroundings and the process are read from standard input, as an object with the members
  `world` and `process`. The first argument names the command: `locate`, `environment` or
  `packages`; the others are its arguments.
-/
import CompileCommands.Cli.Capture
import CompileCommands.Cli.Locate
import CompileCommands.Cli.Packages
import CompileCommands.World.Description

namespace CompileCommands.CommandLine

/-- What is printed for help, and for wrong arguments. -/
def usageText : String :=
  "usage: compile-commands locate|environment|packages [ARGUMENTS]\n"

/-- The line of a report. -/
def logLine (event : Log.Event) : String :=
  let level := match event.level with
    | .info => "INFO"
    | .warning => "WARNING"
  level ++ ": " ++ event.text Failure.message ++ "\n"

/-- The end of the packages command. -/
def packagesExit : Cli.Packages.Result → Cli.Exit
  | .ended .usage => .usage
  | .ended _ | .idle => .help
  | .checked isGood => .code (if isGood then 0 else 1)

/-- The command of a name. -/
def commandOf (process : ProcessBehaviour) (name : String) (arguments : List String) :
    Action Session Cli.Exit :=
  match name with
  | "locate" => Cli.Locate.main name arguments
  | "environment" => Cli.Capture.main name (Launcher.ofProcess .utf16 process) arguments
  | "packages" => packagesExit <$> Cli.Packages.main Palette.ansi Requirements.standard arguments
  | _ => return .usage

/-- Prints what a command left on the console, and its reports. -/
def finish (outcome : Outcome Cli.Exit) (s : Session) : IO UInt32 := do
  IO.print s.console.output
  IO.eprint (String.join (outcome.log.map logLine))
  IO.eprint s.console.errors
  match outcome.result with
  | .error failure =>
    IO.eprintln failure.message
    return 2
  | .ok exit =>
    if exit = .help then IO.print usageText
    if exit = .usage then IO.eprint usageText
    return exit.toNat.toUInt32

end CompileCommands.CommandLine

open CompileCommands CommandLine in
/-- Runs the command that the arguments name, in the surroundings on standard input. -/
def main (arguments : List String) : IO UInt32 := do
  let text ← (← IO.getStdin).readToEnd
  match Json.read text.toList with
  | .error _ =>
    IO.eprintln "the description of the surroundings is not JSON"
    return 2
  | .ok document =>
    let world := World.ofJson (Description.member document "world")
    let process := ProcessBehaviour.ofJson (Description.member document "process")
    let (outcome, s) := commandOf process (arguments.headD "") arguments.tail { world := world }
    finish outcome s
