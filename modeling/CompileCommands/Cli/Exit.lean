/-
  How commands end.

  * `Cli.Exit`: with an exit code, or with help or a usage error instead of a run;
  * `Cli.exitCodeOf`: the exit code for a failure, which is explained first; a request to end has
    its own, and an abandoned computation has none;
  * `Cli.command`: a command from its arguments to its end, without tools found before.
-/
import CompileCommands.Cli.Arguments
import CompileCommands.Package.Requirement
import CompileCommands.Session
import CompileCommands.Terminal.Style

namespace CompileCommands.Cli

/-! ## Ends -/

/-- The end of a command. -/
inductive Exit where
  /-- Help was asked for. -/
  | help
  /-- The arguments are wrong. -/
  | usage
  /-- The command ran. -/
  | code (number : Nat)
  deriving DecidableEq, Repr

/-- The exit code of an end. -/
def Exit.toNat : Exit → Nat
  | help => 0
  | usage => 2
  | code number => number

/-! ## Failures -/

/-- What is said of a failure that ends a command. A request to end passes without a word. -/
def explanation (p : Palette) : Failure → String
  | .incident (.exit _) _ => ""
  | .incident .interrupt _ => p.warning "Interrupted." false
  | .incident .signal _ => p.warning "\nInterrupted by user. Exiting..." false
  | .tool error => p.error error.message true
  | failure => p.error ("Fatal error: " ++ failure.message) true

/-- The exit code for a failure that ends a command. -/
def exitCodeOf : Failure → Nat
  | .incident (.exit code) _ => code
  | .incident .interrupt _ | .incident .signal _ => ExitCode.interrupted.toNat
  | .tool error => error.exitCode
  | _ => ExitCode.runtimeError.toNat

/-- The failure is that of an abandoned computation, which no command handles. -/
def isAbandoned : Failure → Bool
  | .incident .abandoned _ => true
  | _ => false

/-- Runs to an exit code; a failure is explained and has an exit code as well, unless it is that of
    an abandoned computation. -/
def guarded (p : Palette) (run : Action Session ExitCode) : Action Session Nat :=
  Action.recover
    (do return (← run).toNat)
    fun failure =>
      if isAbandoned failure then Action.fail failure
      else do
        Session.complain (explanation p failure)
        return exitCodeOf failure

/-! ## Commands -/

/-- The version of the commands. -/
def version : String := "1.0.0"

/-- How a command prints. -/
inductive Format where
  /-- In columns, with a remark at the end. -/
  | text
  /-- As an object. -/
  | json
  /-- In columns, without a remark at the end. -/
  | bare
  deriving DecidableEq, Repr

/-- The format of a name. If the name is withheld, the remark at the end is as well. -/
def Format.ofName : Option String → Except Ending Format
  | some "text" => .ok .text
  | some "json" => .ok .json
  | some _ => .error .usage
  | none => .ok .bare

/-- The palette for a run: colour may be refused, needs a terminal, and obeys a variable. -/
def paletteFor (noColor : Bool) (w : World) : Palette :=
  Palette.of (usesColor false noColor w.terminal (w.environment.get? "NO_COLOR"))

/-- Runs if a check turns out well; otherwise something is missing, and the command ends. -/
def provided (check : Action Session Bool) (run : Action Session ExitCode) :
    Action Session ExitCode := do
  if ← check then run
  else return .runtimeError

/-- Runs unless a required package is missing. -/
def requiring (p : Palette) (purpose : String) (run : Action Session ExitCode) :
    Action Session ExitCode :=
  provided (Package.requireAll .standard p Requirements.standard purpose) run

/-- Ends a command before it begins. -/
def ending (program : String) : Ending → Action Session Exit
  | .help => return .help
  | .usage => return .usage
  | .version => do
    Session.print (program ++ " " ++ version ++ "\n")
    return .code ExitCode.success.toNat

/-- Begins a command, unless its arguments end it. -/
def begun {σ : Type} (program : String) (settings : Except Ending σ)
    (run : σ → Action Session Nat) : Action Session Exit :=
  match settings with
  | .error e => ending program e
  | .ok settings => Exit.code <$> run settings

/-- A command with parsed arguments. Tools found before do not count, and none are remembered. -/
def command {σ : Type} (program : String) (settings : Except Ending σ)
    (run : σ → Action Session Nat) : Action Session Exit := do
  Session.forgetTools
  let exit ← begun program settings run
  Session.forgetTools
  return exit

end CompileCommands.Cli
