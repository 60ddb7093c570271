/-
  The build settings of a workspace.

  * `Configuration`: a named configuration with the template of its build root;
  * `Settings.ofJson`: the configurations of a settings document; items that are no objects
    are passed over;
  * `Settings.find?`: the first configuration of a name;
  * `Settings.load`: the settings in the file at a workspace root, if it is there and readable.
-/
import CompileCommands.World.Files

namespace CompileCommands

/-- A build configuration. -/
structure Configuration where
  /-- Its name. -/
  name : String
  /-- The template of its build root. -/
  buildRoot : Option String := none
  /-- The generator it is built with. -/
  generator : Option String := none
  deriving DecidableEq, Repr

namespace Configuration

/-- A configuration from an item of a settings document. -/
def ofJson (item : Json) : Configuration where
  name := (item.text? "name").getD ""
  buildRoot := item.text? "buildRoot"
  generator := item.text? "generator"

end Configuration

/-- The build configurations of a workspace, in order. -/
abbrev Settings := List Configuration

namespace Settings

/-- The name of the file of build settings. -/
def fileName : String := "CMakeSettings.json"

/-- The name of the root descriptor of a project. -/
def descriptorName : String := "CMakeLists.txt"

/-- The first configuration of a name; case matters. -/
def find? (settings : Settings) (name : String) : Option Configuration :=
  List.find? (fun c => c.name = name) settings

/-- The configurations of an item that is an object. -/
def ofItem : Json → Option Configuration
  | item@(.obj _) => some (Configuration.ofJson item)
  | _ => none

/-- The configurations of a settings document. -/
def ofJson (document : Json) : Except Failure Settings :=
  match document with
  | .obj members =>
    match Bindings.get? members "configurations" with
    | none | some .null => .ok []
    | some (.arr items) => .ok (items.filterMap ofItem)
    | some other => .error (.shape (.configurations other.kind))
  | other => .error (.shape (.settings other.kind))

/-- Settings with the files they belong to. -/
structure Found where
  /-- The configurations. -/
  settings : Settings
  /-- The path of the file they were read from. -/
  settingsFile : String
  /-- The path of the root descriptor beside it. -/
  descriptor : String
  deriving DecidableEq, Repr

/-- The path of the build settings of a workspace. -/
def path (w : World) (root : String) : String :=
  w.absolute (Path.join root fileName)

/-- Reads the build settings of a workspace. A file that cannot be read counts as none, with a
    report, unless the failure is critical. -/
def load (root : Option String) : Query World (Option Found) := do
  let root ← Query.lift (requireArgument root "root_directory")
  let file ← Query.view (path · root)
  if ← Query.view (·.isFile file) then
    Query.recover
      (do
        let document ← Files.readJson file
        let settings ← Query.lift (ofJson document)
        let descriptor ← Query.view (·.absolute (Path.join root descriptorName))
        return some ⟨settings, file, descriptor⟩)
      fun failure =>
        if failure.isCritical then Query.fail failure
        else do
          Query.report (.settingsUnreadable file failure)
          return none
  else return none

end Settings
end CompileCommands
