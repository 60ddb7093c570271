/-
  Where the compilation database of a workspace lies.

  * `RootSource`: how the workspace root is found;
  * `DatabaseLocator`: a root source with a default configuration and a source of variables;
  * `DatabaseLocator.buildRoot`: the build root by the settings of the workspace, if it has
    any, else the default layout; with settings there is no fall-back to the default layout;
  * `DatabaseLocator.locate`: the path of the database, if a file is there.
-/
import CompileCommands.Macro.Expansion
import CompileCommands.Path.Comparison
import CompileCommands.Workspace.ActiveConfiguration
import CompileCommands.Workspace.Root
import CompileCommands.Workspace.Settings

namespace CompileCommands

/-- How the workspace root is found. -/
inductive RootSource where
  /-- It is given, or known to be missing. -/
  | fixed (root : Option String)
  /-- It is the root around a path in a repository. -/
  | repository (start : String)
  deriving DecidableEq, Repr

/-- The workspace root. -/
def RootSource.find : RootSource → Query World (Option String)
  | fixed root => return root
  | repository start => return (← WorkspaceRoot.find? start).map Path.Lexical.text

/-- What the location of a database depends on. -/
structure DatabaseLocator where
  /-- How the workspace root is found. -/
  root : RootSource
  /-- The name of the configuration if none is chosen. -/
  defaultConfiguration : String := ActiveConfiguration.defaultName
  /-- The variables of templates; without them, those of the process. -/
  given : Option Macro.Source := none

/-- The name of the file of a compilation database. -/
def Database.fileName : String := "compile_commands.json"

/-- The build root of a configuration in the default layout. -/
def defaultBuildRoot (root configuration : String) : String :=
  Path.joinAll root ["out", "build", configuration]

namespace DatabaseLocator

/-- The variables that templates refer to. -/
def source (locator : DatabaseLocator) (w : World) : Macro.Source :=
  locator.given.getD (Bindings.get? w.environment)

/-- Templates refer to the variables of the process. -/
def usesProcess (locator : DatabaseLocator) : Bool :=
  locator.given.isNone

/-- What builtin macros stand for in the build root of a configuration. -/
def context (root : String) (found : Settings.Found) (configuration : Configuration) :
    Macro.Context where
  configuration := some configuration.name
  root := some root
  generator := configuration.generator
  settingsFile := some found.settingsFile
  descriptor := some found.descriptor

/-- The build root that the settings give for a configuration. -/
def configuredBuildRoot (locator : DatabaseLocator) (root active : String)
    (found : Settings.Found) : Query World (Option String) := do
  match found.settings.find? active with
  | none =>
    Query.report (.configurationMissing active)
    return none
  | some configuration =>
    match configuration.buildRoot with
    | none | some "" =>
      Query.report (.buildRootMissing active)
      return none
    | some template =>
      let ctx := context root found configuration
      match ← (fun w => Macro.evaluate locator.usesProcess (locator.source w) ctx template) with
      | none | some "" =>
        Query.report (.buildRootUnresolved template active)
        return none
      | some expanded => Query.view fun w => some (w.absolute (Path.withSlashes expanded))

/-- The build root of the active configuration. -/
def buildRoot (locator : DatabaseLocator) (root : String) : Query World (Option String) := do
  let found ← Settings.load (some root)
  let active ← ActiveConfiguration.name (some root) locator.defaultConfiguration
  match found with
  | some found => configuredBuildRoot locator root active found
  | none => return some (defaultBuildRoot root active)

/-- The database in a build root, if a file is there. -/
def databaseIn (buildRoot : String) : Query World (Option String) := do
  let path ← Query.view (·.absolute (Path.join buildRoot Database.fileName))
  if ← Query.view (·.isFile path) then
    Query.report (.databaseFound path)
    return some path
  else
    Query.report (.databaseMissing path)
    return none

/-- The path of the compilation database. -/
def locate (locator : DatabaseLocator) : Query World (Option String) := do
  match ← locator.root.find with
  | none | some "" =>
    Query.report .rootMissing
    return none
  | some root =>
    match ← locator.buildRoot root with
    | none => return none
    | some buildRoot => databaseIn buildRoot

end DatabaseLocator
end CompileCommands
