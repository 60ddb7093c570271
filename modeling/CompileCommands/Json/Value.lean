/-
  JSON documents as values.

  * `Json`: integers and other numbers are kept apart, and an object is the list of its members
    in document order, each name once;
  * `Bindings`: such lists, with `insert` (a name keeps its first place and takes its last
    value) and `get?`;
  * `Json.kind`: the name of a value's kind, as error texts give it.
-/
import CompileCommands.Decimal.Binary64

namespace CompileCommands

/-! ## Ordered bindings -/

/-- Names with values, in order of first appearance. -/
abbrev Bindings (α : Type) := List (String × α)

namespace Bindings

variable {α : Type}

/-- The value of a name. -/
def get? (b : Bindings α) (name : String) : Option α :=
  List.lookup name b

/-- Binds a name: in its old place, or at the end. -/
def insert (b : Bindings α) (name : String) (value : α) : Bindings α :=
  match b with
  | [] => [(name, value)]
  | (n, v) :: rest => if n = name then (name, value) :: rest else (n, v) :: insert rest name value

/-- Drops a name. -/
def erase (b : Bindings α) (name : String) : Bindings α :=
  b.filter fun entry => entry.1 ≠ name

/-- The bindings made one after the other. -/
def ofPairs (pairs : List (String × α)) : Bindings α :=
  pairs.foldl (fun b entry => insert b entry.1 entry.2) []

@[simp] theorem get?_nil (name : String) : get? ([] : Bindings α) name = none := rfl

theorem get?_cons (n : String) (v : α) (rest : Bindings α) (name : String) :
    get? ((n, v) :: rest) name = if name = n then some v else get? rest name := by
  by_cases h : name = n
  · simp [get?, h]
  · simp [get?, List.lookup_cons, h, beq_eq_false_iff_ne.2 h]

/-- A name that was just bound has its new value, and no other name is touched. -/
theorem get?_insert (b : Bindings α) (name : String) (value : α) (other : String) :
    get? (insert b name value) other = if other = name then some value else get? b other := by
  induction b with
  | nil => simp [insert, get?_cons]
  | cons entry rest ih =>
    obtain ⟨n, v⟩ := entry
    by_cases h : n = name
    · subst h
      by_cases ho : other = n <;> simp [insert, get?_cons, ho]
    · by_cases ho : other = n
      · subst ho
        simp [insert, get?_cons, h]
      · simp [insert, get?_cons, h, ho, ih]

end Bindings

/-! ## Documents -/

/-- A JSON document. -/
inductive Json where
  /-- The null value. -/
  | null
  /-- A truth value. -/
  | bool (value : Bool)
  /-- A number without point and exponent. -/
  | int (value : Int)
  /-- Any other number. -/
  | float (value : Binary64)
  /-- A text. -/
  | str (value : String)
  /-- A list. -/
  | arr (items : List Json)
  /-- An object: its members in document order. -/
  | obj (members : List (String × Json))
  deriving Inhabited, Repr

namespace Json

/-- The kind of a value. -/
def kind : Json → String
  | null => "NoneType"
  | bool _ => "bool"
  | int _ => "int"
  | float _ => "float"
  | str _ => "str"
  | arr _ => "list"
  | obj _ => "dict"

/-- The text of a text value. -/
def str? : Json → Option String
  | str value => some value
  | _ => none

/-- A member of an object. -/
def member? (name : String) : Json → Option Json
  | obj members => Bindings.get? members name
  | _ => none

/-- The text of a member that is a text. -/
def text? (name : String) (document : Json) : Option String :=
  (document.member? name).bind str?

end Json
end CompileCommands
