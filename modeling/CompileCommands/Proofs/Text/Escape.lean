/-
  Text without escape characters.

  * `Textual`, `EscapeFree`: data that holds text, and that no text in it has an escape character;
  * `EscapeFree.append`, `EscapeFree.intercalate` and so on: one rule for each way to put texts
    together;
  * `escapeFree_quoted`, `escapeFree_toString_int` and so on: quotations and numbers never have
    one;
  * `escapeFree_render`: nor have decimal numbers.
-/
import CompileCommands.Decimal.Shortest
import CompileCommands.Proofs.Text.Hex
import CompileCommands.Proofs.Text.Intercalate
import CompileCommands.Text.Quoted

namespace CompileCommands

/-- The character that the codes of terminals begin with. -/
def Text.escape : Char := '\x1b'

open Text

/-! ## Data with text -/

/-- Data that holds text. -/
class Textual (α : Type) where
  /-- No text in the data has an escape character. -/
  IsFree : α → Prop

/-- No text in the data has an escape character. -/
def EscapeFree {α : Type} [Textual α] (a : α) : Prop :=
  Textual.IsFree a

section Instances

variable {α β : Type} [Textual α] [Textual β]

instance : Textual Char := ⟨fun c => c ≠ escape⟩

instance : Textual (List α) := ⟨fun l => ∀ a ∈ l, EscapeFree a⟩

instance : Textual (Option α) := ⟨fun o => ∀ a ∈ o, EscapeFree a⟩

instance : Textual (α × β) := ⟨fun a => EscapeFree a.1 ∧ EscapeFree a.2⟩

instance : Textual String := ⟨fun s => EscapeFree s.toList⟩

instance : Textual Unit := ⟨fun _ => True⟩

instance : Textual Bool := ⟨fun _ => True⟩

instance : Textual Nat := ⟨fun _ => True⟩

instance : Textual Rat := ⟨fun _ => True⟩

instance (c : Char) : Decidable (EscapeFree c) :=
  inferInstanceAs (Decidable (c ≠ escape))

-- The instance is named, since a search could also end at one that goes through all characters.
instance (s : List Char) : Decidable (EscapeFree s) :=
  List.decidableBAll (fun c => c ≠ escape) s

instance (s : String) : Decidable (EscapeFree s) :=
  List.decidableBAll (fun c => c ≠ escape) s.toList

end Instances

namespace EscapeFree

variable {α : Type} [Textual α] {a : α} {l l' : List α}

theorem ite {c : Prop} [Decidable c] {b : α} (ha : EscapeFree a) (hb : EscapeFree b) :
    EscapeFree (if c then a else b) := by
  split
  · exact ha
  · exact hb

theorem nil : EscapeFree ([] : List α) :=
  fun _ h => absurd h List.not_mem_nil

theorem cons (ha : EscapeFree a) (hl : EscapeFree l) : EscapeFree (a :: l) :=
  List.forall_mem_cons.2 ⟨ha, hl⟩

theorem of_cons (h : EscapeFree (a :: l)) : EscapeFree a ∧ EscapeFree l :=
  List.forall_mem_cons.1 h

theorem singleton (ha : EscapeFree a) : EscapeFree [a] :=
  ha.cons nil

theorem append (h : EscapeFree l) (h' : EscapeFree l') : EscapeFree (l ++ l') :=
  List.forall_mem_append.2 ⟨h, h'⟩

theorem subset (h : EscapeFree l) (hsub : l' ⊆ l) : EscapeFree l' :=
  fun a ha => h a (hsub ha)

theorem map {β : Type} [Textual β] {f : β → α} (l : List β) (h : ∀ b ∈ l, EscapeFree (f b)) :
    EscapeFree (l.map f) := by
  rintro a ha
  obtain ⟨b, hb, rfl⟩ := List.mem_map.1 ha
  exact h b hb

theorem find? (h : EscapeFree l) (p : α → Bool) : EscapeFree (l.find? p) :=
  fun a ha => h a (List.mem_of_find?_eq_some ha)

theorem none : EscapeFree (none : Option α) :=
  fun _ h => by cases h

theorem some (ha : EscapeFree a) : EscapeFree (some a) := by
  rintro b hb
  cases hb
  exact ha

theorem of_some (h : EscapeFree (Option.some a)) : EscapeFree a :=
  h a rfl

theorem or {o o' : Option α} (h : EscapeFree o) (h' : EscapeFree o') : EscapeFree (o <|> o') := by
  cases o with
  | none => exact h'
  | some a => exact h

theorem findSome? {β : Type} {f : β → Option α} {l : List β} (h : ∀ b ∈ l, EscapeFree (f b)) :
    EscapeFree (l.findSome? f) := by
  intro a ha
  obtain ⟨b, hb, ha⟩ := List.exists_of_findSome?_eq_some ha
  exact h b hb a ha

theorem option_map {β : Type} [Textual β] {f : α → β} {o : Option α} (h : EscapeFree o)
    (hf : ∀ a, EscapeFree a → EscapeFree (f a)) : EscapeFree (o.map f) := by
  cases o with
  | none => exact none
  | some a => exact (hf a h.of_some).some

theorem toList {o : Option α} (h : EscapeFree o) : EscapeFree o.toList :=
  fun a ha => h a (Option.mem_toList.1 ha)

theorem filter {o : Option α} (h : EscapeFree o) (p : α → Bool) : EscapeFree (o.filter p) :=
  fun a ha => h a (Option.filter_eq_some_iff.1 ha).1

theorem getD {o : Option α} (h : EscapeFree o) (ha : EscapeFree a) : EscapeFree (o.getD a) := by
  cases o with
  | none => exact ha
  | some b => exact h.of_some

end EscapeFree

/-! ## Texts -/

namespace EscapeFree

variable {s t : String} {chars : List Char}

theorem ofList (h : EscapeFree chars) : EscapeFree (String.ofList chars) := by
  change EscapeFree (String.ofList chars).toList
  rwa [String.toList_ofList]

/-- A literal is a list of characters, which is compared one by one. -/
theorem literal (h : chars.all fun c => c ≠ escape) : EscapeFree (String.ofList chars) :=
  ofList fun c hc => of_decide_eq_true (List.all_eq_true.1 h c hc)

theorem string_append (hs : EscapeFree s) (ht : EscapeFree t) : EscapeFree (s ++ t) := by
  change EscapeFree (s ++ t).toList
  rw [String.toList_append]
  exact append hs ht

theorem string_append_iff : EscapeFree (s ++ t) ↔ EscapeFree s ∧ EscapeFree t := by
  change EscapeFree (s ++ t).toList ↔ _
  rw [String.toList_append]
  exact List.forall_mem_append

theorem intercalate {texts : List String} (hs : EscapeFree s) (h : EscapeFree texts) :
    EscapeFree (s.intercalate texts) := by
  change EscapeFree (s.intercalate texts).toList
  rw [String.toList_intercalate]
  intro c hc
  obtain hc | ⟨part, hpart, hc⟩ := mem_of_mem_intercalate hc
  · exact hs c hc
  · obtain ⟨text, htext, rfl⟩ := List.mem_map.1 hpart
    exact h text htext c hc

theorem join {texts : List String} (h : EscapeFree texts) : EscapeFree (String.join texts) := by
  change EscapeFree (String.join texts).toList
  rw [String.toList_join]
  intro c hc
  obtain ⟨text, htext, hc⟩ := List.mem_flatMap.1 hc
  exact h text htext c hc

/-- Of characters that are of a kind. -/
theorem of_kind (p : Char → Prop) (hp : ¬p escape) (h : ∀ c ∈ chars, p c) : EscapeFree chars :=
  fun c hc hescape => hp (hescape ▸ h c hc)

theorem replicate {c : Char} (hc : EscapeFree c) (count : Nat) :
    EscapeFree (List.replicate count c) := by
  intro c' hc'
  rw [List.eq_of_mem_replicate hc']
  exact hc

end EscapeFree

/-! ## Numbers -/

theorem escapeFree_hexPadded (width n : Nat) : EscapeFree (hexPadded width n) :=
  .of_kind (· ∈ hexDigits) (by decide) fun _ => mem_hexDigits_of_mem_hexPadded

theorem escapeFree_toDigits (n : Nat) : EscapeFree (Nat.toDigits 10 n) :=
  .of_kind (·.isDigit) (by decide) fun _ => Nat.isDigit_of_mem_toDigits (by decide) (by decide)

theorem escapeFree_toString_nat (n : Nat) : EscapeFree (toString n) := by
  rw [Nat.toString_eq_ofList_toDigits]
  exact (escapeFree_toDigits n).ofList

theorem escapeFree_toString_int (n : Int) : EscapeFree (toString n) := by
  have hrepr (m : Nat) : EscapeFree m.repr := escapeFree_toString_nat m
  rw [Int.toString_eq_repr, Int.repr_eq_if]
  split
  · exact hrepr _
  · exact .string_append (by decide) (hrepr _)

/-! ## Quotations -/

theorem escapeFree_hexEscape (c : Char) : EscapeFree (hexEscape c) := by
  unfold hexEscape
  dsimp only
  split
  · exact .cons (by decide) (.cons (by decide) (escapeFree_hexPadded _ _))
  · split
    · exact .cons (by decide) (.cons (by decide) (escapeFree_hexPadded _ _))
    · exact .cons (by decide) (.cons (by decide) (escapeFree_hexPadded _ _))

/-- An escape character is not printable, and is shown by its number. -/
theorem escapeFree_escapeChar {mark : Char} (hmark : EscapeFree mark) (c : Char) :
    EscapeFree (escapeChar mark c) := by
  unfold escapeChar
  split
  · next hc =>
    refine .cons (by decide) (.singleton ?_)
    obtain rfl | rfl := hc
    · exact hmark
    · decide
  · repeat' split
    · decide
    · decide
    · decide
    · next hprintable =>
      refine .singleton fun hescape => ?_
      rw [hescape] at hprintable
      exact absurd hprintable (by decide)
    · exact escapeFree_hexEscape c

theorem escapeFree_quoted (s : String) : EscapeFree (quoted s) := by
  have hmark : EscapeFree (quoteMark s.toList) := by
    unfold quoteMark
    split
    · decide
    · decide
  refine .ofList (.cons hmark (.append (fun c hc => ?_) (.singleton hmark)))
  obtain ⟨d, -, hd⟩ := List.mem_flatMap.1 hc
  exact escapeFree_escapeChar hmark d c hd

/-! ## Decimal numbers -/

namespace Decimal

variable {d : List Char}

theorem escapeFree_zeros (count : Nat) : EscapeFree (zeros count) :=
  .replicate (by decide) count

theorem escapeFree_positional (h : EscapeFree d) (lead : Int) :
    EscapeFree (positional plain d lead) := by
  unfold positional
  split
  · exact .append (.cons (by decide) (.cons (by decide) (escapeFree_zeros _))) h
  · dsimp only
    split
    · exact .append (.append h (escapeFree_zeros _)) (by decide)
    · exact .append (h.subset (List.take_subset _ _))
        (.cons (by decide) (h.subset (List.drop_subset _ _)))

theorem escapeFree_exponential (h : EscapeFree d) (lead : Int) :
    EscapeFree (exponential plain d lead) := by
  unfold exponential
  refine .append (.append ?mantissa (.cons (by decide) (.cons ?sign (escapeFree_zeros _))))
    (escapeFree_toDigits _)
  case mantissa =>
    split
    · exact .cons (h _ List.mem_cons_self)
        (.cons (by decide) (h.subset (List.subset_cons_self _ _)))
    · exact h
  case sign =>
    split
    · decide
    · decide

theorem escapeFree_significantDigits (n : Nat) : EscapeFree (significantDigits n) := by
  refine (escapeFree_toDigits n).subset fun c hc => ?_
  rw [significantDigits, List.mem_reverse] at hc
  exact List.mem_reverse.1 (List.dropWhile_subset _ hc)

theorem escapeFree_render (x : Binary64) : EscapeFree (render plain x) := by
  cases x with
  | nan => decide
  | infinite negative => cases negative <;> decide
  | finite negative significand exponent =>
    have hsigned {body : List Char} (h : EscapeFree body) :
        EscapeFree (if negative then '-' :: body else body) := .ite (.cons (by decide) h) h
    unfold render
    refine .ofList (hsigned ?_)
    split
    · decide
    · dsimp only
      split
      · exact escapeFree_positional (escapeFree_significantDigits _) _
      · exact escapeFree_exponential (escapeFree_significantDigits _) _

end Decimal

end CompileCommands
