/-
  Entries of a compilation database.

  * `Entry`: a source file with its directory and its command line, as a text or in words;
  * `Entry.ofJson`, `Entry.toJson`: reading is lenient about the members of an object, writing
    leaves out what is missing;
  * `Database.ofJson`: the entries of a document;
  * `Database.read`: the entries in the file at a path.
-/
import CompileCommands.Json.Display
import CompileCommands.Path.Comparison
import CompileCommands.Text.Blank
import CompileCommands.World.Files

namespace CompileCommands

/-- An entry of a compilation database. -/
structure Entry where
  /-- The source file, as written. -/
  file : String := ""
  /-- The working directory of the compiler. -/
  directory : String := ""
  /-- The command line as one text. -/
  command : Option String := none
  /-- The command line in words. -/
  arguments : Option (List String) := none
  deriving DecidableEq, Repr

namespace Entry

/-- The source file, seen from the directory. -/
def resolvedFile (e : Entry) : String :=
  Path.resolve e.file e.directory

/-- Words from a list of any values, each as plain text. -/
def words : Json → Option (List String)
  | .arr items => some (items.map Json.display)
  | _ => none

/-- An entry from a value; members of an unexpected kind count as missing. -/
def ofJson : Json → Except Failure Entry
  | document@(.obj _) => .ok
      { file := (document.text? "file").getD ""
        directory := (document.text? "directory").getD ""
        command := document.text? "command"
        arguments := (document.member? "arguments").bind words }
  | other => .error (.shape (.entry other.kind))

/-- The members of an entry's object. -/
def members (e : Entry) : List (String × Json) :=
  [("directory", .str e.directory), ("file", .str e.file)] ++
    (e.arguments.map fun words => ("arguments", Json.arr (words.map .str))).toList ++
    (e.command.map fun text => ("command", Json.str text)).toList

/-- An entry as an object. -/
def toJson (e : Entry) : Json :=
  .obj e.members

end Entry

namespace Database

/-- The entries of a document; an absent document has none. -/
def ofJson : Json → Except Failure (List Entry)
  | .null => .ok []
  | .arr items => items.mapM Entry.ofJson
  | other => .error (.shape (.database other.kind))

/-- The entries of a text; a text of white space has none. -/
def ofText (s : List Char) : Except Failure (List Entry) :=
  if s.all Text.isBlank then .ok [] else Files.document s >>= ofJson

/-- Reads the entries in a file. -/
def read (path : String) : Query World (List Entry) := fun w =>
  ⟨Files.text w path >>= ofText, []⟩

end Database
end CompileCommands
