/-
  Writing JSON.

  * `Json.Writer.escapeChar`: everything outside printable ASCII is escaped, by UTF-16 units;
  * `Json.compact`: on one line;
  * `Json.pretty`: a line for each item and member, indented by two spaces a level.
-/
import CompileCommands.Json.Value
import CompileCommands.Decimal.Shortest
import CompileCommands.Text.Encoding
import CompileCommands.Text.Hex
import CompileCommands.Text.Surrogate

namespace CompileCommands.Json

open Text

namespace Writer

/-- The UTF-16 units of a character, or the surrogate that it is kept for. -/
def unitsOf (c : Char) : List Nat :=
  match surrogate? c with
  | some unit => [unit]
  | none => Utf16.units c

/-- A character inside a JSON text. -/
def escapeChar (c : Char) : List Char :=
  if c = '"' ∨ c = '\\' then ['\\', c]
  else if c = '\n' then ['\\', 'n']
  else if c = '\r' then ['\\', 'r']
  else if c = '\t' then ['\\', 't']
  else if c = '\x0C' then ['\\', 'f']
  else if c = '\x08' then ['\\', 'b']
  else if ' ' ≤ c ∧ c ≤ '~' then [c]
  else (unitsOf c).flatMap fun unit => '\\' :: 'u' :: hexPadded 4 unit

/-- A text with its quotes. -/
def text (s : String) : String :=
  String.ofList ('"' :: s.toList.flatMap escapeChar ++ ['"'])

/-- A number outside the integers. -/
def float : Binary64 → String
  | .nan => "NaN"
  | .infinite negative => if negative then "-Infinity" else "Infinity"
  | x => Decimal.render Decimal.plain x

/-- How the parts of a list or an object are put together at a depth. -/
structure Layout where
  /-- What stands before the first part, at the depth of the parts. -/
  opening : Nat → String
  /-- What stands between two parts. -/
  between : Nat → String
  /-- What stands after the last part, at the depth of the whole. -/
  closing : Nat → String

/-- All on one line. -/
def oneLine : Layout where
  opening _ := ""
  between _ := ", "
  closing _ := ""

/-- A line end and the indentation of a depth. -/
def newLine (depth : Nat) : String :=
  String.ofList ('\n' :: List.replicate (2 * depth) ' ')

/-- One line for each part. -/
def indented : Layout where
  opening := newLine
  between depth := "," ++ newLine depth
  closing := newLine

/-- Parts in brackets; no layout without parts. -/
def enclose (layout : Layout) (depth : Nat) (left right : String) : List String → String
  | [] => left ++ right
  | parts =>
    left ++ layout.opening (depth + 1) ++ String.intercalate (layout.between (depth + 1)) parts ++
      layout.closing depth ++ right

mutual

/-- A value that stands at a depth. -/
def write (layout : Layout) (depth : Nat) : Json → String
  | .null => "null"
  | .bool true => "true"
  | .bool false => "false"
  | .int n => toString n
  | .float x => float x
  | .str s => text s
  | .arr items => enclose layout depth "[" "]" (writeItems layout (depth + 1) items)
  | .obj members => enclose layout depth "\x7b" "\x7d" (writeMembers layout (depth + 1) members)

/-- The items of a list. -/
def writeItems (layout : Layout) (depth : Nat) : List Json → List String
  | [] => []
  | item :: rest => write layout depth item :: writeItems layout depth rest

/-- The members of an object. -/
def writeMembers (layout : Layout) (depth : Nat) : List (String × Json) → List String
  | [] => []
  | (name, value) :: rest =>
    (text name ++ ": " ++ write layout depth value) :: writeMembers layout depth rest

end

end Writer

/-- A value on one line. -/
def compact (value : Json) : String :=
  Writer.write Writer.oneLine 0 value

/-- A value over several lines. -/
def pretty (value : Json) : String :=
  Writer.write Writer.indented 0 value

end CompileCommands.Json
