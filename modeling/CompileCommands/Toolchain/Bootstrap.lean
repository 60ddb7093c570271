/-
  Capture of the environment that a bootstrap script sets up.

  * `Bootstrap`: the installation, the time limit and, if it is given, the shell;
  * `Bootstrap.capture`: one run of the script;
  * `Bootstrap.fetch`: the same; what fails without being critical gives no environment, with a
    report.
-/
import CompileCommands.Session
import CompileCommands.Snapshot.Stored

namespace CompileCommands

/-- How an environment is captured. -/
structure Bootstrap where
  /-- The installation that holds the script. -/
  installation : String
  /-- The time limit. -/
  milliseconds : Int := 30000
  /-- The command shell, if it is given. -/
  shell : Option String := none

namespace Bootstrap

/-- The bootstrap script. -/
def scriptPath (b : Bootstrap) : String :=
  Tools.scriptPath b.installation

/-- The time limit in seconds. -/
def seconds (b : Bootstrap) : Binary64 :=
  (Binary64.ofInt b.milliseconds).divNat 1000

/-- The shell to use. -/
def findShell (b : Bootstrap) : Action Session String := do
  match b.shell with
  | some command => return command
  | none =>
    match ← Session.shell with
    | some tool => return tool.command
    | none => Action.fail (.tool .noCommandShell)

/-- The environment in what a process printed; a process that was stopped gives none. -/
def environmentOf (b : Bootstrap) (id : String) (captured : Captured) :
    Outcome (Option Environment) :=
  if captured.timedOut then ⟨.ok none, [.captureTimedOut b.milliseconds]⟩
  else
    match Capture.settings captured.lines id with
    | [] => ⟨.ok none, [.captureEmpty]⟩
    | settings => .ok (some settings)

/-- Runs the script and reads the environment that it leaves. -/
def capture (b : Bootstrap) (launcher : Launcher) (params : Option String) :
    Action Session (Option Environment) := do
  let script := b.scriptPath
  if ← Action.view (·.world.isFile script) then
    let shell ← b.findShell
    let id ← Action.view (·.world.freshId)
    let captured ← Session.launch launcher
      ⟨shell, Capture.arguments script params id, b.seconds⟩
    fun s => (b.environmentOf id captured, s)
  else
    Action.report (.scriptMissing script)
    return none

/-- Captures an environment, if that succeeds. -/
def fetch (b : Bootstrap) (launcher : Launcher) (params : Option String) :
    Action Session (Option Environment) :=
  Action.recover (b.capture launcher params) fun failure =>
    if failure.isCritical then Action.fail failure
    else do
      Action.report (.captureFailed failure)
      return none

end Bootstrap
end CompileCommands
