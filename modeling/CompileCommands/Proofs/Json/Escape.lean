/-
  Documents without escape characters.

  * `Json.IsEscapeFree`: no text value of a document has an escape character;
  * `Json.escapeFree_pretty`: a document in print has none, whatever its texts are;
  * `Json.escapeFree_displayNested`, `Json.escapeFree_display`: as plain text a document has none,
    unless it is a text that has one.
-/
import CompileCommands.Json.Display
import CompileCommands.Json.Writer
import CompileCommands.Proofs.Text.Escape

namespace CompileCommands

open Text

/-! ## Bindings -/

theorem mem_of_lookup {α β : Type} [BEq α] [LawfulBEq α] {l : List (α × β)} {a : α} {b : β}
    (h : l.lookup a = some b) : (a, b) ∈ l := by
  obtain ⟨front, rest, rfl, -⟩ := List.lookup_eq_some_iff.1 h
  exact List.mem_append_right front List.mem_cons_self

theorem EscapeFree.get? {α : Type} [Textual α] {b : Bindings α} (h : EscapeFree b)
    (name : String) : EscapeFree (b.get? name) :=
  fun _ ha => (h _ (mem_of_lookup ha)).2

namespace Json

/-! ## Documents -/

/-- No text value of the document has an escape character. -/
inductive IsEscapeFree : Json → Prop
  | null : IsEscapeFree null
  | bool (value : Bool) : IsEscapeFree (bool value)
  | int (value : Int) : IsEscapeFree (int value)
  | float (value : Binary64) : IsEscapeFree (float value)
  | str {value : String} : EscapeFree value → IsEscapeFree (str value)
  | arr {items : List Json} : (∀ item ∈ items, IsEscapeFree item) → IsEscapeFree (arr items)
  | obj {members : List (String × Json)} :
      (∀ member ∈ members, IsEscapeFree member.2) → IsEscapeFree (obj members)

instance : Textual Json := ⟨IsEscapeFree⟩

variable {document : Json}

theorem escapeFree_member? (h : EscapeFree document) (name : String) :
    EscapeFree (document.member? name) := by
  intro value hvalue
  cases h with
  | obj hmembers => exact hmembers _ (mem_of_lookup hvalue)
  | _ => cases hvalue

theorem escapeFree_str? (h : EscapeFree document) : EscapeFree document.str? := by
  cases h with
  | str h => exact .some h
  | _ => exact .none

theorem escapeFree_text? (h : EscapeFree document) (name : String) :
    EscapeFree (document.text? name) := by
  intro text htext
  obtain ⟨value, hvalue, htext⟩ := Option.bind_eq_some_iff.1 htext
  exact escapeFree_str? (escapeFree_member? h name value hvalue) text htext

theorem escapeFree_kind (document : Json) : EscapeFree document.kind := by
  cases document <;>
  · rw [kind]
    decide

/-! ## In print -/

namespace Writer

theorem escapeFree_escapeChar (c : Char) : EscapeFree (escapeChar c) := by
  unfold escapeChar
  split
  · next hc => rcases hc with rfl | rfl <;> decide
  · repeat' split
    · decide
    · decide
    · decide
    · decide
    · decide
    · next hprintable =>
      refine .singleton fun hescape => ?_
      rw [hescape] at hprintable
      exact absurd hprintable (by decide)
    · intro d hd
      obtain ⟨unit, -, hd⟩ := List.mem_flatMap.1 hd
      exact EscapeFree.cons (by decide) (.cons (by decide) (escapeFree_hexPadded 4 unit)) d hd

theorem escapeFree_text (s : String) : EscapeFree (text s) := by
  refine .ofList (.cons (by decide) (.append (fun c hc => ?_) (by decide)))
  obtain ⟨d, -, hd⟩ := List.mem_flatMap.1 hc
  exact escapeFree_escapeChar d c hd

theorem escapeFree_newLine (depth : Nat) : EscapeFree (newLine depth) :=
  .ofList (.cons (by decide) (.replicate (by decide) _))

theorem escapeFree_float (x : Binary64) : EscapeFree (float x) := by
  unfold float
  split
  · decide
  · split
    · decide
    · decide
  · exact Decimal.escapeFree_render x

theorem escapeFree_enclose (depth : Nat) {left right : String} (hleft : EscapeFree left)
    (hright : EscapeFree right) {parts : List String} (h : EscapeFree parts) :
    EscapeFree (enclose indented depth left right parts) := by
  unfold enclose
  split
  · exact hleft.string_append hright
  · have hbetween : EscapeFree (indented.between (depth + 1)) :=
      .string_append (by decide) (escapeFree_newLine _)
    exact (((hleft.string_append (escapeFree_newLine _)).string_append
      (.intercalate hbetween h)).string_append (escapeFree_newLine _)).string_append hright

mutual

theorem escapeFree_write (depth : Nat) : (value : Json) → EscapeFree (write indented depth value)
  | .null => by rw [write]; decide
  | .bool true => by rw [write]; decide
  | .bool false => by rw [write]; decide
  | .int n => by rw [write]; exact escapeFree_toString_int n
  | .float x => by rw [write]; exact escapeFree_float x
  | .str s => by rw [write]; exact escapeFree_text s
  | .arr items => by
    rw [write]
    exact escapeFree_enclose _ (by decide) (by decide) (escapeFree_writeItems _ items)
  | .obj members => by
    rw [write]
    exact escapeFree_enclose _ (by decide) (by decide) (escapeFree_writeMembers _ members)

theorem escapeFree_writeItems (depth : Nat) :
    (items : List Json) → EscapeFree (writeItems indented depth items)
  | [] => .nil
  | item :: rest => by
    rw [writeItems]
    exact .cons (escapeFree_write depth item) (escapeFree_writeItems depth rest)

theorem escapeFree_writeMembers (depth : Nat) :
    (members : List (String × Json)) → EscapeFree (writeMembers indented depth members)
  | [] => .nil
  | (name, value) :: rest => by
    rw [writeMembers]
    exact .cons (((escapeFree_text name).string_append (by decide)).string_append
      (escapeFree_write depth value)) (escapeFree_writeMembers depth rest)

end

end Writer

theorem escapeFree_pretty (value : Json) : EscapeFree value.pretty :=
  Writer.escapeFree_write 0 value

/-! ## As plain text -/

mutual

theorem escapeFree_displayNested : (value : Json) → EscapeFree value.displayNested
  | .null => by rw [displayNested]; decide
  | .bool true => by rw [displayNested]; decide
  | .bool false => by rw [displayNested]; decide
  | .int n => by rw [displayNested]; exact escapeFree_toString_int n
  | .float x => by rw [displayNested]; exact Decimal.escapeFree_render x
  | .str s => by rw [displayNested]; exact escapeFree_quoted s
  | .arr items => by
    rw [displayNested]
    exact .string_append (.string_append (by decide)
      (.intercalate (by decide) (escapeFree_displayItems items))) (by decide)
  | .obj members => by
    rw [displayNested]
    exact .string_append (.string_append (by decide)
      (.intercalate (by decide) (escapeFree_displayMembers members))) (by decide)

theorem escapeFree_displayItems : (items : List Json) → EscapeFree (displayItems items)
  | [] => .nil
  | item :: rest => by
    rw [displayItems]
    exact .cons (escapeFree_displayNested item) (escapeFree_displayItems rest)

theorem escapeFree_displayMembers :
    (members : List (String × Json)) → EscapeFree (displayMembers members)
  | [] => .nil
  | (name, value) :: rest => by
    rw [displayMembers]
    exact .cons (((escapeFree_quoted name).string_append (by decide)).string_append
      (escapeFree_displayNested value)) (escapeFree_displayMembers rest)

end

theorem escapeFree_display (h : EscapeFree document) : EscapeFree document.display := by
  cases h with
  | str h => exact h
  | _ => exact escapeFree_displayNested _

end Json
end CompileCommands
