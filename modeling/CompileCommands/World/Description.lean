/-
  Descriptions of surroundings, as JSON objects.

  * `World.ofJson`: a world with the described files, directories, links, variables and so on;
    whatever is not described has a default;
  * `ProcessBehaviour.ofJson`: how a described process behaves.
-/
import CompileCommands.Text.Hex
import CompileCommands.Toolchain.Launch

namespace CompileCommands

namespace Description

/-! ## Parts -/

/-- The members of an object; anything else has none. -/
def members : Json → List (String × Json)
  | .obj members => members
  | _ => []

/-- The members of an object that are texts. -/
def texts (document : Json) : Bindings String :=
  (members document).filterMap fun entry => entry.2.str?.map (entry.1, ·)

/-- The items of a list; anything else has none. -/
def items : Json → List Json
  | .arr items => items
  | _ => []

/-- A member of an object; null if it is missing. -/
def member (document : Json) (name : String) : Json :=
  (document.member? name).getD .null

/-- The truth value of a value; anything but true is false. -/
def isTrue : Json → Bool
  | .bool value => value
  | _ => false

/-- The number of a value, if it is a finite one. -/
def number? : Json → Option Rat
  | .int value => some value
  | .float value => value.toRat?
  | _ => none

/-- Octets in hexadecimal. -/
def octets (hex : String) : Text.Bytes :=
  (Text.bytesOfHex? hex.toList).getD []

/-- What a file holds: a text, or octets in the member `hex` of an object. -/
def content : Json → Content
  | .str text => .bytes (Text.utf8Bytes text)
  | other => .bytes (octets ((other.text? "hex").getD ""))

end Description

open Description

namespace World

/-- The same world with a file, changed at a time, and with the directories around it. -/
def placing (w : World) (path : String) (file : File) : World :=
  let place := w.locate path
  (w.withDirectory place.dropLast).withFile place file

/-- The same world with a directory. -/
def making (w : World) (path : String) : World :=
  w.withDirectory (w.locate path)

/-- The same world with a link. -/
def linking (w : World) (path target : String) : World :=
  let place := (w.lexical path).names
  { w with links := (place, target) :: w.links.filter (·.1 ≠ place) }

/-- The kind of host of a name. -/
def hostOf : Option String → Host
  | some "windows" => .windows
  | _ => .posix

/-- A world without files, as described. -/
def bare (document : Json) (workingDirectory : String) : World :=
  { workingDirectory := workingDirectory
    environment := texts (member document "environment")
    programs := texts (member document "programs")
    clock := (number? (member document "clock")).getD 0
    terminal := isTrue (member document "terminal")
    host := hostOf (document.text? "host")
    packages := texts (member document "packages")
    freshId := (document.text? "freshId").getD "" }

/-- The described world. -/
def ofJson (document : Json) : World :=
  let w := bare document ((document.text? "workingDirectory").getD "/")
  let w := (texts (member document "links")).foldl (fun w entry => w.linking entry.1 entry.2) w
  let w := w.making w.workingDirectory
  let directories := (items (member document "directories")).filterMap Json.str?
  let w := directories.foldl making w
  let files := members (member document "files")
  files.foldl (fun w entry => w.placing entry.1 ⟨content entry.2, w.clock⟩) w

end World

/-- What a described process prints: lines, or octets. -/
def Description.output (document : Json) : Option Text.Bytes :=
  match member document "lines", document.text? "hex" with
  | .arr lines, _ => some (Capture.printed (lines.filterMap Json.str?))
  | _, some hex => some (octets hex)
  | _, none => none

/-- How the described process behaves. -/
def ProcessBehaviour.ofJson (document : Json) : ProcessBehaviour where
  output := Description.output document
  overruns := isTrue (member document "overruns")
  endsLate := isTrue (member document "endsLate")
  lingers := isTrue (member document "lingers")

end CompileCommands
