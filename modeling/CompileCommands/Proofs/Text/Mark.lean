/-
  Marks in the lower case of a text.

  * `IsMark`: a character below the small letters that has no lower case, as a slash or a colon;
  * `lowerChar_cases`: the lower case of a character is the character itself, or has no marks;
  * `exists_lowerAfter_cons`: each character of a text becomes one, which is a mark if and only if
    it is the same mark; only a capital I with a dot becomes two;
  * `mem_lowerAfter_iff`, `lowerAfter_eq_iff_of_marks`: so a text has the marks of its lower case, and
    is made of the same marks only.
-/
import CompileCommands.Proofs.Text.CaseRun

namespace CompileCommands.Text

/-! ## Characters -/

theorem isSound_of_mem_lowerRuns : ∀ run ∈ lowerRuns, run.IsSound ∧ 97 ≤ run.image.first := by
  decide +kernel

theorem lowerChar_cases (c : Char) : lowerChar c = [c] ∨ ∀ d ∈ lowerChar c, 97 ≤ d.toNat := by
  have hexpansions : ∀ e ∈ lowerExpansions, ∀ point ∈ e.2, 97 ≤ (Char.ofNat point).toNat := by
    decide
  refine mapCase_cases (P := fun s => s = [c] ∨ ∀ d ∈ s, 97 ≤ d.toNat) (.inl rfl)
    (fun e he _ => .inr (List.forall_mem_map.2 (hexpansions e he))) fun run hrun hcovers => .inr ?_
  obtain ⟨hsound, hbegin⟩ := isSound_of_mem_lowerRuns run hrun
  obtain ⟨hfirst, -, -⟩ := CaseRun.covers_iff.1 (hsound.covers_image hcovers)
  rw [List.forall_mem_singleton, hsound.toNat_image hcovers]
  omega

theorem ne_dottedI {c : Char} (h : c ≠ 'İ') : ∀ e ∈ lowerExpansions, e.1 ≠ c.toNat := by
  have hexpansions : ∀ e ∈ lowerExpansions, e.1 = 'İ'.toNat := by decide
  intro e he hc
  exact h (Char.toNat_inj.1 (hc.symm.trans (hexpansions e he)))

theorem exists_lowerChar_eq {c : Char} (h : c ≠ 'İ') : ∃ d, lowerChar c = [d] :=
  mapCase_cases (P := fun s => ∃ d, s = [d]) ⟨c, rfl⟩
    (fun e he hc => absurd hc (ne_dottedI h e he)) fun _ _ _ => ⟨_, rfl⟩

/-! ## Marks -/

/-- The character stands below the small letters and is its own lower case. -/
structure IsMark (m : Char) : Prop where
  below : m.toNat < 97
  lower : lowerChar m = [m]

theorem isMark_slash : IsMark '/' := ⟨by decide, by decide⟩

theorem isMark_backslash : IsMark '\\' := ⟨by decide, by decide⟩

theorem isMark_dot : IsMark '.' := ⟨by decide, by decide⟩

theorem isMark_colon : IsMark ':' := ⟨by decide, by decide⟩

theorem eq_of_lowerChar {c d m : Char} (hm : IsMark m) (hd : lowerChar c = [d]) :
    d = m ↔ c = m := by
  constructor
  · rintro rfl
    rcases lowerChar_cases c with hself | hletters
    · exact List.singleton_inj.1 (hself.symm.trans hd)
    · have hle := hletters d (by rw [hd]; exact List.mem_singleton_self d)
      exact absurd hm.below (by omega)
  · rintro rfl
    exact List.singleton_inj.1 (hd.symm.trans hm.lower)

theorem exists_lowerAfter_cons {c : Char} (h : c ≠ 'İ') (afterCased : Bool) (rest : List Char) :
    ∃ d after, (∀ m, IsMark m → (d = m ↔ c = m)) ∧
      lowerAfter afterCased (c :: rest) = d :: lowerAfter after rest := by
  rw [lowerAfter]
  split
  · next hsigma =>
    refine ⟨_, _, fun m hm => iff_of_false ?_ ?_, rfl⟩
    · rintro rfl
      have hbelow := hm.below
      revert hbelow
      split <;> decide
    · rintro rfl
      rw [hsigma] at hm
      exact absurd hm.below (by decide)
  · obtain ⟨d, hd⟩ := exists_lowerChar_eq h
    exact ⟨d, _, fun m hm => eq_of_lowerChar hm hd, by rw [hd]; rfl⟩

/-- A capital I with a dot becomes a small one with a combining dot. -/
theorem lowerAfter_dottedI (afterCased : Bool) (rest : List Char) :
    ∃ after, lowerAfter afterCased ('İ' :: rest) = 'i' :: '\u0307' :: lowerAfter after rest := by
  have hlower : lowerChar 'İ' = ['i', '\u0307'] := by decide
  rw [lowerAfter, if_neg (by decide), hlower]
  exact ⟨_, rfl⟩

theorem head?_lowerAfter {m : Char} (hm : IsMark m) (afterCased : Bool) (s : List Char) :
    (lowerAfter afterCased s).head? = some m ↔ s.head? = some m := by
  cases s with
  | nil => rfl
  | cons c rest =>
    by_cases hc : c = 'İ'
    · obtain ⟨after, hlower⟩ := lowerAfter_dottedI afterCased rest
      rw [hc, hlower, List.head?_cons, List.head?_cons, Option.some.injEq, Option.some.injEq]
      have hbelow := hm.below
      constructor <;>
      · rintro rfl
        exact absurd hbelow (by decide)
    · obtain ⟨d, after, hd, hlower⟩ := exists_lowerAfter_cons hc afterCased rest
      rw [hlower, List.head?_cons, List.head?_cons, Option.some.injEq, Option.some.injEq, hd m hm]

/-- No mark is lost, and none is new. -/
theorem mem_lowerAfter_iff {m : Char} (hm : IsMark m) (afterCased : Bool) (s : List Char) :
    m ∈ lowerAfter afterCased s ↔ m ∈ s := by
  induction s generalizing afterCased with
  | nil => rfl
  | cons c rest ih =>
    by_cases hc : c = 'İ'
    · obtain ⟨after, hlower⟩ := lowerAfter_dottedI afterCased rest
      have hne {d : Char} (hd : 97 ≤ d.toNat) : m ≠ d := by
        rintro rfl
        exact absurd hm.below (by omega)
      rw [hc, hlower, List.mem_cons, List.mem_cons, List.mem_cons, ih]
      simp [hne (d := 'i') (by decide), hne (d := '\u0307') (by decide),
        hne (d := 'İ') (by decide)]
    · obtain ⟨d, after, hd, hlower⟩ := exists_lowerAfter_cons hc afterCased rest
      rw [hlower, List.mem_cons, List.mem_cons, ih, eq_comm, hd m hm, eq_comm]

theorem lowerAfter_cons_ne_nil (afterCased : Bool) (c : Char) (rest : List Char) :
    lowerAfter afterCased (c :: rest) ≠ [] := by
  by_cases hc : c = 'İ'
  · obtain ⟨after, hlower⟩ := lowerAfter_dottedI afterCased rest
    rw [hc, hlower]
    exact List.cons_ne_nil _ _
  · obtain ⟨d, after, -, hlower⟩ := exists_lowerAfter_cons hc afterCased rest
    rw [hlower]
    exact List.cons_ne_nil _ _

/-- A text without other characters than marks is the lower case of itself alone. -/
theorem lowerAfter_eq_iff_of_marks {marks : List Char} (hmarks : ∀ m ∈ marks, IsMark m)
    (afterCased : Bool) (s : List Char) : lowerAfter afterCased s = marks ↔ s = marks := by
  induction s generalizing afterCased marks with
  | nil => rw [lowerAfter]
  | cons c rest ih =>
    cases marks with
    | nil =>
      exact iff_of_false (lowerAfter_cons_ne_nil afterCased c rest) (List.cons_ne_nil c rest)
    | cons m marks =>
      rw [List.forall_mem_cons] at hmarks
      obtain ⟨hm, hmarks⟩ := hmarks
      by_cases hc : c = m
      · have hdotted : c ≠ 'İ' := by
          rintro rfl
          rw [← hc] at hm
          exact absurd hm.below (by decide)
        obtain ⟨d, after, hd, hlower⟩ := exists_lowerAfter_cons hdotted afterCased rest
        rw [hlower, List.cons.injEq, List.cons.injEq, hd m hm, ih hmarks]
      · have hhead := head?_lowerAfter hm afterCased (c :: rest)
        refine iff_of_false (fun h => hc ?_) fun h => hc (List.cons.inj h).1
        rw [h, List.head?_cons, List.head?_cons] at hhead
        exact Option.some.inj (hhead.1 rfl)

end CompileCommands.Text
