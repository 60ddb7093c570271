/-
  The active configuration of a workspace.

  * `ActiveConfiguration.path`: the file in which an editor keeps the choice;
  * `ActiveConfiguration.chosen`: the choice in such a file, if it can be read;
  * `ActiveConfiguration.name`: the choice, or a default name.
-/
import CompileCommands.World.Files

namespace CompileCommands.ActiveConfiguration

/-- The name used when no choice can be read. -/
def defaultName : String := "x64-Debug"

/-- The member that holds the choice. -/
def member : String := "CurrentProjectSetting"

/-- The path of the file that keeps the choice for a workspace. -/
def path (root : String) : String :=
  Path.joinAll root [".vs", "ProjectSettings.json"]

/-- The choice in a document. -/
def ofJson (file : String) : Json → Query World (Option String)
  | document@(.obj _) => return document.text? member
  | other => do
    Query.report (.activeMalformed file other.kind)
    return none

/-- The choice in a file, which the system finds at `place`. A file that cannot be read holds none,
    with a report, unless the failure is critical. -/
def chosen (file place : String) : Query World (Option String) := do
  let document ← Query.recover (some <$> Files.readJson place) fun failure =>
    if failure.isCritical then Query.fail failure
    else do
      Query.report (.activeUnreadable file failure)
      return none
  match document with
  | some document => ofJson file document
  | none => return none

/-- The active configuration of a workspace: the choice, unless it is missing or empty. The file is
    opened by the path as it is, which is not put in lowest terms first. -/
def name (root : Option String) (default : String) : Query World String := do
  let root ← Query.lift (requireArgument root "root_directory")
  let file := path root
  let place ← Query.view (·.wayTo file)
  if ← Query.view (·.isFile place) then
    match ← chosen file place with
    | some "" | none => return default
    | some choice => return choice
  else return default

end CompileCommands.ActiveConfiguration
