/-
  Directories around a path.

  * `Lexical.Encloses`: a directory lies at a path or around it;
  * `Lexical.mem_selfAndParents`: `selfAndParents` lists exactly these directories;
  * `Lexical.Inward`, `Lexical.inward_selfAndParents`: it lists them innermost first;
  * `Lexical.outermost`, `Lexical.innermost`: the last of such a list is the outermost, and the
    first with a property the innermost that has it.
-/
import CompileCommands.Path.Lexical
import Mathlib.Data.List.Basic

namespace CompileCommands.Path.Lexical

/-! ## The order -/

/-- The directory lies at the path or around it. -/
structure Encloses (d p : Lexical) : Prop where
  anchor : d.anchor = p.anchor
  names : d.names <+: p.names

namespace Encloses

variable {d e p : Lexical}

instance (d p : Lexical) : Decidable (d.Encloses p) :=
  decidable_of_iff (d.anchor = p.anchor ∧ d.names <+: p.names)
    ⟨fun h => ⟨h.1, h.2⟩, fun h => ⟨h.anchor, h.names⟩⟩

theorem refl (p : Lexical) : p.Encloses p :=
  ⟨rfl, List.prefix_refl _⟩

theorem trans (h : d.Encloses e) (h' : e.Encloses p) : d.Encloses p :=
  ⟨h.anchor.trans h'.anchor, h.names.trans h'.names⟩

theorem antisymm (h : d.Encloses e) (h' : e.Encloses d) : d = e := by
  cases d
  cases e
  obtain rfl : _ = _ := h.anchor
  obtain rfl : _ = _ := h.names.eq_of_length_le h'.names.length_le
  rfl

/-- Of two directories around a path, the one with fewer names encloses the other. -/
theorem of_length (hd : d.Encloses p) (he : e.Encloses p) (h : d.names.length ≤ e.names.length) :
    d.Encloses e :=
  ⟨hd.anchor.trans he.anchor.symm, List.prefix_of_prefix_length_le hd.names he.names h⟩

end Encloses

theorem parent_encloses (p : Lexical) : p.parent.Encloses p :=
  ⟨rfl, List.dropLast_prefix p.names⟩

/-! ## Directories from the inside to the outside -/

variable {d p : Lexical} {l : List Lexical}

theorem mem_selfAndParents : d ∈ p.selfAndParents ↔ d.Encloses p := by
  simp only [selfAndParents, List.mem_map, List.mem_reverse, List.mem_range]
  constructor
  · rintro ⟨depth, -, rfl⟩
    exact ⟨rfl, List.take_prefix depth p.names⟩
  · rintro ⟨hanchor, hnames⟩
    have hlength := hnames.length_le
    refine ⟨d.names.length, by omega, ?_⟩
    rw [← hanchor, ← List.prefix_iff_eq_take.1 hnames]

/-- Every path of the list lies further out than those before it. -/
def Inward (l : List Lexical) : Prop :=
  l.Pairwise fun inner outer => outer.names.length < inner.names.length

theorem inward_selfAndParents (p : Lexical) : Inward p.selfAndParents := by
  rw [Inward, selfAndParents, List.pairwise_map, List.pairwise_reverse]
  refine List.pairwise_lt_range.imp_of_mem fun {a b} ha hb hab => ?_
  rw [List.mem_range] at ha hb
  simp only [List.length_take]
  omega

theorem outermost (hl : Inward l) (h : l.getLast? = some d) :
    d ∈ l ∧ ∀ e ∈ l, d.names.length ≤ e.names.length := by
  obtain ⟨inner, rfl⟩ := List.getLast?_eq_some_iff.1 h
  refine ⟨List.mem_append_right _ List.mem_cons_self, fun e he => ?_⟩
  rcases List.mem_append.1 he with he | he
  · exact Nat.le_of_lt ((List.pairwise_append.1 hl).2.2 e he d List.mem_cons_self)
  · obtain rfl := List.mem_singleton.1 he
    exact Nat.le_refl _

/-- The first member of such a list with a property is the innermost one that has it. -/
theorem innermost (hl : Inward l) {P : Lexical → Bool} (h : l.find? P = some d) :
    ∀ e ∈ l, P e → e.names.length ≤ d.names.length := by
  obtain ⟨-, before, after, rfl, hbefore⟩ := List.find?_eq_some_iff_append.1 h
  intro e he hP
  rcases List.mem_append.1 he with he | he
  · have hnot := hbefore e he
    rw [hP] at hnot
    cases hnot
  · rcases List.mem_cons.1 he with rfl | he
    · exact Nat.le_refl _
    · have hrest := (List.pairwise_append.1 hl).2.1
      exact Nat.le_of_lt ((List.pairwise_cons.1 hrest).1 e he)

end CompileCommands.Path.Lexical
