/-
  Starting a process and waiting for its output.

  * `Launch.Request`: a program, its arguments and a time limit;
  * `Captured`: the lines that a process printed, or that it was stopped;
  * `Launcher`: what answers a request, with a record of the processes it started;
  * `ProcessBehaviour`: how a started process behaves;
  * `Launcher.ofProcess`: a launcher over such a process: past the limit it is killed, and
    waited for once more.
-/
import CompileCommands.Computation
import CompileCommands.Decimal.Shortest
import CompileCommands.Text.Word
import CompileCommands.Toolchain.Capture
import CompileCommands.World.Basic

namespace CompileCommands

open Text

/-! ## Requests and answers -/

/-- A process to be started. -/
structure Launch.Request where
  /-- The program. -/
  executable : String
  /-- Its arguments, as one text. -/
  arguments : String
  /-- The time limit in seconds. -/
  seconds : Binary64
  deriving DecidableEq

/-- What came of a process. -/
structure Captured where
  /-- The lines it printed. -/
  lines : List String := []
  /-- It was stopped at the time limit. -/
  timedOut : Bool := false
  deriving DecidableEq, Repr

/-- How a process is started: by words, or by a command line. -/
inductive CommandLine where
  /-- The program and its arguments. -/
  | words (words : List String)
  /-- One text. -/
  | line (line : String)
  deriving DecidableEq, Repr

/-- What is done to a process. -/
inductive ProcessEvent where
  /-- Waiting for its end, at most so many seconds. -/
  | wait (seconds : Binary64)
  /-- Waiting for its end after it was killed, at most so many seconds. -/
  | waitAfterKill (seconds : Nat)
  /-- Asking whether it has ended. -/
  | poll
  /-- Killing it. -/
  | kill
  deriving DecidableEq

/-- A process that was to be started, and what was done to it. -/
structure Launch.Trace where
  commandLine : CommandLine
  events : List ProcessEvent
  deriving DecidableEq

/-- What answers a request on a host. -/
def Launcher := Host → Launch.Request → Outcome Captured × List Launch.Trace

/-! ## Processes -/

/-- How a started process behaves. -/
structure ProcessBehaviour where
  /-- Why it does not start, if it does not. -/
  startFailure : Option Failure := none
  /-- What it prints. -/
  output : Option Bytes := none
  /-- It does not end within the time limit. -/
  overruns : Bool := false
  /-- It has ended when it is asked, after the time limit. -/
  endsLate : Bool := false
  /-- It does not end when it is killed. -/
  lingers : Bool := false
  /-- Its number. -/
  pid : Nat := 0

namespace Launch

/-- Seconds that a killed process has to end. -/
def graceSeconds : Nat := 5

/-- The program in quotes, and its arguments. -/
def Request.line (request : Request) : String :=
  "\"" ++ request.executable ++ "\" " ++ request.arguments

/-- How a request is put to a host. -/
def Request.commandLine (request : Request) : Host → Except Failure CommandLine
  | .windows => .ok (.line request.line)
  | .posix => ((splitWords request.line).mapError Failure.quoting).map .words

/-- What is done to a process that overruns: it is asked, killed if it has not ended, and
    waited for. -/
def stopEvents (behaviour : ProcessBehaviour) : List ProcessEvent :=
  .poll :: (if behaviour.endsLate then [] else [.kill]) ++ [.waitAfterKill graceSeconds]

/-- What is done to a started process. -/
def eventsOf (behaviour : ProcessBehaviour) (seconds : Binary64) : List ProcessEvent :=
  .wait seconds :: if behaviour.overruns then stopEvents behaviour else []

/-- What comes of a started process. -/
def captureOf (encoding : Encoding) (behaviour : ProcessBehaviour) : Outcome Captured :=
  if behaviour.overruns then
    ⟨.ok { timedOut := true }, if behaviour.lingers then [.processLingers behaviour.pid] else []⟩
  else .ok { lines := Capture.linesOf encoding (behaviour.output.getD []) }

/-- The failure of a process that does not start: an error of file access becomes one with an
    exit code. -/
def startError (executable : String) : Failure → Failure
  | .file error => .tool (.cannotStart executable error.message)
  | failure => failure

end Launch

/-- A launcher over a process that behaves in a given way. -/
def Launcher.ofProcess (encoding : Encoding) (behaviour : ProcessBehaviour) : Launcher :=
  fun host request =>
    match request.commandLine host with
    | .error failure => (.fail failure, [])
    | .ok commandLine =>
      match behaviour.startFailure with
      | some failure => (.fail (Launch.startError request.executable failure), [⟨commandLine, []⟩])
      | none =>
        (Launch.captureOf encoding behaviour,
          [⟨commandLine, Launch.eventsOf behaviour request.seconds⟩])

end CompileCommands
