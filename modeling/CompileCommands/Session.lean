/-
  A session: the surroundings with what commands leave in them.

  * `Console`: what was printed on the two output streams;
  * `Session`: a world, the tools detected in it, the processes asked for and started, and the
    console;
  * `Session.asks`, `Session.files`: queries and file actions within a session;
  * `Session.print`, `Session.complain`: output.
-/
import CompileCommands.Computation
import CompileCommands.Toolchain.Detection
import CompileCommands.Toolchain.Launch
import CompileCommands.World.Basic

namespace CompileCommands

/-- What was printed, as a text: whether the stream has an encoding for it is not asked. -/
structure Console where
  /-- On standard output. -/
  output : String := ""
  /-- On standard error. -/
  errors : String := ""
  deriving DecidableEq, Repr

/-- A world, and what commands leave in it. -/
structure Session where
  /-- The surroundings. -/
  world : World := {}
  /-- What is remembered of searches for tools. -/
  detected : Detected := {}
  /-- The processes asked for. -/
  requests : List Launch.Request := []
  /-- The processes that were to be started. -/
  traces : List Launch.Trace := []
  /-- What was printed. -/
  console : Console := {}

namespace Session

/-- A query of the world. -/
def asks {α : Type} (q : Query World α) : Action Session α :=
  Action.ask Session.world q

/-- An action on the world. -/
def files {α : Type} (x : Action World α) : Action Session α :=
  Action.onPart Session.world (fun w s => { s with world := w }) x

/-- Prints on standard output. -/
def print (text : String) : Action Session Unit :=
  Action.modify fun s =>
    { s with console := { s.console with output := s.console.output ++ text } }

/-- Prints on standard error. -/
def complain (text : String) : Action Session Unit :=
  Action.modify fun s =>
    { s with console := { s.console with errors := s.console.errors ++ text } }

/-- Looks for the command shell. -/
def shell : Action Session (Option Tool) := fun s =>
  let (found, detected) := Tools.shell s.world s.detected
  (.ok found, { s with detected := detected })

/-- Looks for the bootstrap script of an installation. -/
def script (installation : String) : Action Session (Option Tool) := fun s =>
  let (found, detected) := Tools.script s.world s.detected installation
  (.ok found, { s with detected := detected })

/-- Forgets the tools that were found. -/
def forgetTools : Action Session Unit :=
  Action.modify fun s => { s with detected := {} }

/-- Puts a request to a launcher. -/
def launch (launcher : Launcher) (request : Launch.Request) : Action Session Captured := fun s =>
  let (outcome, traces) := launcher s.world.host request
  (outcome, { s with requests := s.requests ++ [request], traces := s.traces ++ traces })

end Session
end CompileCommands
