/-
  Values as plain text.

  * `Json.display`: a text as it is, everything else as inside a list;
  * `Json.displayNested`: texts quoted, lists in brackets, objects in braces, members in
    document order.
-/
import CompileCommands.Json.Value
import CompileCommands.Decimal.Shortest
import CompileCommands.Text.Quoted

namespace CompileCommands.Json

open Text

mutual

/-- A value as it stands inside a list or an object. -/
def displayNested : Json → String
  | null => "None"
  | bool true => "True"
  | bool false => "False"
  | int n => toString n
  | float x => Decimal.render Decimal.plain x
  | str s => quoted s
  | arr items => "[" ++ String.intercalate ", " (displayItems items) ++ "]"
  | obj members => "\x7b" ++ String.intercalate ", " (displayMembers members) ++ "\x7d"

/-- The items of a list. -/
def displayItems : List Json → List String
  | [] => []
  | item :: rest => displayNested item :: displayItems rest

/-- The members of an object. -/
def displayMembers : List (String × Json) → List String
  | [] => []
  | (name, value) :: rest => (quoted name ++ ": " ++ displayNested value) :: displayMembers rest

end

/-- A value as plain text. -/
def display : Json → String
  | str s => s
  | value => displayNested value

end CompileCommands.Json
