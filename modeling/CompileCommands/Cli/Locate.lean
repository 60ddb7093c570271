/-
  The command that locates the compilation database of a workspace, and the entry for a file.

  * `Locate.Settings`, `Locate.parse`: the arguments;
  * `Locate.Report`, `Locate.report`: what was found;
  * `Locate.Report.toJson`, `Locate.Report.text`: the report in print;
  * `Locate.Report.exitCode`: success only if all that was asked for was found;
  * `Locate.main`: the command.
-/
import CompileCommands.Cli.Exit
import CompileCommands.Database.Resolution
import CompileCommands.Json.Writer

namespace CompileCommands.Cli.Locate

/-! ## Arguments -/

/-- The settings of the command. -/
structure Settings where
  /-- The workspace root. -/
  root : Option String := none
  /-- The file to look up. -/
  file : Option String := none
  /-- How to print. -/
  format : Format := .text
  /-- Without colour. -/
  noColor : Bool := false
  /-- With more reports. -/
  verbose : Bool := false
  deriving DecidableEq, Repr

/-- What a switch stands for. -/
inductive Meaning where
  | help
  | file
  | format
  | noColor
  | verbose
  | version
  deriving DecidableEq, Repr

/-- The arguments that the command knows. -/
def grammar : Grammar Meaning where
  switches :=
    [{ names := ["-h", "--help"], meaning := .help },
      { names := ["--file", "-f"], meaning := .file, takesValue := true },
      { names := ["--format"], meaning := .format, takesValue := true },
      { names := ["--no-color"], meaning := .noColor },
      { names := ["--verbose", "-v"], meaning := .verbose },
      { names := ["--version"], meaning := .version }]
  takesOperand := true

/-- Uses a switch. -/
def use (settings : Settings) (meaning : Meaning) (value : Option String) :
    Except Ending Settings :=
  match meaning with
  | .help => .error .help
  | .version => .error .version
  | .file => .ok { settings with file := value }
  | .format => (Format.ofName value).map fun format => { settings with format := format }
  | .noColor => .ok { settings with noColor := true }
  | .verbose => .ok { settings with verbose := true }

/-- The settings that arguments make. -/
def parse (arguments : List String) : Except Ending Settings :=
  Cli.parse grammar ⟨use, fun settings root => { settings with root := some root }⟩ {} arguments

/-! ## Reports -/

/-- What was found for a file. -/
structure Lookup where
  /-- The file. -/
  file : String
  /-- The entry to use. -/
  entry : Option Entry
  deriving DecidableEq, Repr

/-- What was found. -/
structure Report where
  /-- The workspace root. -/
  root : Option String
  /-- The active configuration. -/
  configuration : Option String
  /-- The database. -/
  database : Option String
  /-- What was found for the file, if one was given. -/
  lookup : Option Lookup
  deriving DecidableEq, Repr

/-- The active configuration of the root, if there is one. -/
def configurationOf : Option String → Query World (Option String)
  | none | some "" => return none
  | some root => some <$> ActiveConfiguration.name (some root) ActiveConfiguration.defaultName

/-- What is found for a file. -/
def lookupOf (locator : DatabaseLocator) : Option String → Query World (Option Lookup)
  | none => return none
  | some file => do
    let entry ← Database.entryFor locator.locate (some file)
    return some ⟨file, entry⟩

/-- Finds all that the command reports. -/
def report (source : RootSource) (file : Option String) : Query World Report := do
  let locator : DatabaseLocator := { root := source }
  let root ← source.find
  let configuration ← configurationOf root
  let database ← locator.locate
  let lookup ← lookupOf locator file
  return ⟨root, configuration, database, lookup⟩

/-- A text that may be missing. -/
def optionalText (text : Option String) : Json :=
  (text.map Json.str).getD .null

/-- The members of a lookup's object. -/
def Lookup.members (l : Lookup) : List (String × Json) :=
  [("file", .str l.file), ("kind", .str (SourceKind.ofPath l.file).name),
    ("entry", (l.entry.map Entry.toJson).getD .null)]

/-- The report as an object. -/
def Report.toJson (r : Report) : Json :=
  .obj ([("version", .str version), ("root", optionalText r.root),
    ("configuration", optionalText r.configuration), ("database", optionalText r.database)] ++
    (r.lookup.map Lookup.members).getD [])

/-- The entry in columns. -/
def entryText (p : Palette) (e : Entry) : String :=
  p.fields ([("File", some e.file), ("Directory", some e.directory)] ++
    (e.arguments.map fun words => ("Arguments", some (String.intercalate " " words))).toList ++
    (e.command.map fun text => ("Command", some text)).toList)

/-- Prints what was found for a file. -/
def Lookup.print (p : Palette) (l : Lookup) : Action Session Unit := do
  let kind := (SourceKind.ofPath l.file).name
  Session.print ("\n" ++ p.heading ("Entry for " ++ kind ++ " file"))
  match l.entry with
  | none => Session.complain (p.warning ("No entry found for " ++ l.file) true)
  | some e => Session.print (entryText p e)

/-- Prints the report in columns. -/
def Report.printText (p : Palette) (r : Report) : Action Session Unit := do
  Session.print (p.heading "Compilation Database")
  Session.print (p.fields [("Workspace root", r.root), ("Configuration", r.configuration),
    ("Database", r.database)])
  match r.lookup with
  | none => return ()
  | some l => l.print p

/-- Prints the report. -/
def Report.print (p : Palette) (format : Format) (r : Report) : Action Session Unit :=
  match format with
  | .json => Session.print (r.toJson.pretty ++ "\n")
  | .text | .bare => r.printText p

/-- All that was asked for was found. -/
def Report.isComplete (r : Report) : Bool :=
  r.database.isSome && r.lookup.all (·.entry.isSome)

/-- The exit code of a report. -/
def Report.exitCode (r : Report) : ExitCode :=
  if r.root.isNone then .invalidArguments
  else if r.isComplete then .success
  else .runtimeError

/-- What is said after the report in columns. -/
def Report.conclude (p : Palette) (r : Report) : Action Session Unit :=
  match r.exitCode with
  | .invalidArguments => Session.complain
      (p.error "Unable to determine the workspace root (pass ROOT explicitly)" true)
  | .success => Session.print (p.success "\nDone.")
  | .runtimeError | .interrupted => return ()

/-! ## The command -/

/-- A text, unless it is missing or empty. -/
def nonempty (text : Option String) : Option String :=
  text.filter (· ≠ "")

/-- How the workspace root is found: it is given, or lies around the file or the working
    directory. -/
def sourceOf (w : World) (root file : Option String) : RootSource :=
  match nonempty root with
  | some root => .fixed (some (w.absolute root))
  | none => .repository (file.getD w.workingDirectory)

/-- The root given is not a directory. -/
def isBadRoot (w : World) (root : Option String) : Bool :=
  (nonempty root).any fun root => !w.isDirectory root

/-- Locates and prints. -/
def locate (p : Palette) (settings : Settings) : Action Session ExitCode := do
  let file ← Action.view fun s => (nonempty settings.file).map s.world.absolute
  let source ← Action.view fun s => sourceOf s.world settings.root file
  let found ← Session.asks (report source file)
  found.print p settings.format
  if settings.format = .text then found.conclude p
  return found.exitCode

/-- Runs with settings. -/
def run (p : Palette) (settings : Settings) : Action Session ExitCode :=
  requiring p "compilation database lookup" do
    if ← Action.view fun s => isBadRoot s.world settings.root then
      Session.complain
        (p.error ("Workspace root '" ++ settings.root.getD "" ++ "' is not a directory") true)
      return .invalidArguments
    else locate p settings

/-- The command. -/
def main (program : String) (arguments : List String) : Action Session Exit :=
  command program (parse arguments) fun settings => do
    let p ← Action.view fun s => paletteFor settings.noColor s.world
    guarded p (run p settings)

end CompileCommands.Cli.Locate
