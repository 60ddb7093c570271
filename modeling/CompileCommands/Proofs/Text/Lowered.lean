/-
  Texts in lower case.

  * `lower_lower`: nothing is left to be lowered;
  * `IsSeparator`: a mark that ends a word, as a slash;
  * `lower_append_slash`, `lower_intercalate`: so what stands between slashes is lowered by itself;
  * `mem_lower_iff`, `lower_eq_iff_of_marks`: no mark is lost or new, and a text made of marks is the
    lower case of itself alone.
-/
import CompileCommands.Proofs.Text.Case
import CompileCommands.Proofs.Text.Mark

namespace CompileCommands.Text

/-! ## Lower case of lower case -/

/-- No run of capitals leads to another one. They lie apart, or are seen point by point. -/
theorem misses_image_or : lowerRuns.all fun run => lowerRuns.all fun lower =>
    lower.misses run.image || run.image.points.all fun point => !lower.covers point := by
  decide +kernel

theorem not_covers_image {run lower : CaseRun} (hrun : run ∈ lowerRuns) (hlower : lower ∈ lowerRuns)
    {point : Nat} (hpoint : run.image.covers point) : ¬lower.covers point := by
  have h := List.all_eq_true.1 (List.all_eq_true.1 misses_image_or run hrun) lower hlower
  rw [Bool.or_eq_true, List.all_eq_true] at h
  rcases h with hmisses | hpoints
  · exact CaseRun.not_covers_of_misses hmisses hpoint
  · simpa using hpoints point (CaseRun.mem_points hpoint)

theorem lowerChar_of_mem_lowerChar {c d : Char} (h : d ∈ lowerChar c) : lowerChar d = [d] := by
  have hdotted : ∀ run ∈ lowerRuns, ¬run.image.covers 'İ'.toNat := by decide +kernel
  have hexpansions : ∀ e ∈ lowerExpansions, ∀ point ∈ e.2,
      lowerChar (Char.ofNat point) = [Char.ofNat point] := by decide +kernel
  have hcases : lowerChar c = lowerChar c → ∀ d ∈ lowerChar c, lowerChar d = [d] := by
    refine mapCase_cases (P := fun s => lowerChar c = s → ∀ d ∈ s, lowerChar d = [d])
      (fun hself => List.forall_mem_singleton.2 hself)
      (fun e he _ _ => List.forall_mem_map.2 (hexpansions e he)) fun run hrun hcovers _ => ?_
    obtain ⟨hsound, -⟩ := isSound_of_mem_lowerRuns run hrun
    have himage := hsound.covers_image hcovers
    rw [← hsound.toNat_image hcovers] at himage
    rw [List.forall_mem_singleton]
    generalize Char.ofNat (c.toNat + run.shift).toNat = d at himage
    have hne : d ≠ 'İ' := by
      rintro rfl
      exact hdotted run hrun himage
    exact mapCase_of_not_covers (ne_dottedI hne) fun lower hlower =>
      not_covers_image hrun hlower himage
  exact hcases rfl d h

theorem lowerAfter_eq_self {s : List Char} (h : ∀ c ∈ s, lowerChar c = [c]) (afterCased : Bool) :
    lowerAfter afterCased s = s := by
  induction s generalizing afterCased with
  | nil => rfl
  | cons c rest ih =>
    rw [List.forall_mem_cons] at h
    obtain ⟨hc, hrest⟩ := h
    have hsigma : c ≠ 'Σ' := by
      rintro rfl
      exact absurd hc (by decide +kernel)
    rw [lowerAfter, if_neg hsigma, hc, ih hrest]
    rfl

theorem lowerChar_of_mem_lowerAfter {afterCased : Bool} {s : List Char} {d : Char}
    (h : d ∈ lowerAfter afterCased s) : lowerChar d = [d] := by
  induction s generalizing afterCased with
  | nil => cases h
  | cons c rest ih =>
    rw [lowerAfter, List.mem_append] at h
    rcases h with h | h
    · split at h
      · rw [List.mem_singleton] at h
        rw [h]
        split <;> decide +kernel
      · exact lowerChar_of_mem_lowerChar h
    · exact ih h

/-- A text in lower case stays as it is. Of a capital sigma nothing is left that depends on what
    stands around it. -/
theorem lower_lower (s : String) : lower (lower s) = lower s := by
  rw [lower, lower, lowerChars, lowerChars, String.toList_ofList,
    lowerAfter_eq_self fun _ => lowerChar_of_mem_lowerAfter]

/-! ## Parts -/

/-- The mark ends a word: letters on its two sides do not count as neighbours. -/
structure IsSeparator (m : Char) : Prop extends IsMark m where
  ignorable : isCaseIgnorable m = false
  cased : isCased m = false

theorem isSeparator_slash : IsSeparator '/' :=
  ⟨isMark_slash, by decide +kernel, by decide +kernel⟩

section Separator

variable {m : Char} (hm : IsSeparator m)
include hm

theorem startsCased_append_separator (s t : List Char) :
    startsCased (s ++ m :: t) = startsCased s := by
  induction s with
  | nil => rw [List.nil_append, startsCased_cons, hm.ignorable, if_neg Bool.false_ne_true, hm.cased,
      startsCased, List.dropWhile_nil]
  | cons c s ih => rw [List.cons_append, startsCased_cons, startsCased_cons, ih]

theorem lowerAfter_append_separator (afterCased : Bool) (s t : List Char) :
    lowerAfter afterCased (s ++ m :: t) = lowerAfter afterCased s ++ m :: lowerAfter false t := by
  induction s generalizing afterCased with
  | nil =>
    have hsigma : m ≠ 'Σ' := by
      rintro rfl
      exact absurd hm.below (by decide)
    have hnil : lowerAfter afterCased [] = [] := rfl
    rw [hnil, List.nil_append, List.nil_append, lowerAfter, if_neg hsigma, hm.lower, hm.ignorable,
      if_neg Bool.false_ne_true, hm.cased, List.singleton_append]
  | cons c s ih =>
    rw [List.cons_append, lowerAfter, lowerAfter, startsCased_append_separator hm, ih,
      List.append_assoc]

end Separator

theorem lower_empty : lower "" = "" := rfl

theorem lower_append_slash (s t : String) : lower (s ++ "/" ++ t) = lower s ++ "/" ++ lower t := by
  have hslash : "/".toList = ['/'] := by decide
  rw [← String.toList_inj]
  simp only [lower, lowerChars, String.toList_append, String.toList_ofList, hslash,
    List.append_assoc, List.singleton_append, lowerAfter_append_separator isSeparator_slash]

theorem lower_intercalate (names : List String) :
    lower (String.intercalate "/" names) = String.intercalate "/" (names.map lower) := by
  induction names with
  | nil => rfl
  | cons name names ih =>
    cases names with
    | nil => simp only [List.map_cons, List.map_nil, String.intercalate_singleton]
    | cons next names =>
      rw [String.intercalate_cons_cons, lower_append_slash, ih, List.map_cons, List.map_cons,
        List.map_cons, String.intercalate_cons_cons]

/-! ## Marks -/

theorem mem_lower_iff {m : Char} (hm : IsMark m) (s : String) :
    m ∈ (lower s).toList ↔ m ∈ s.toList := by
  rw [lower, String.toList_ofList, lowerChars, mem_lowerAfter_iff hm]

theorem lower_eq_iff_of_marks {marks : String} (hmarks : ∀ m ∈ marks.toList, IsMark m)
    (s : String) : lower s = marks ↔ s = marks := by
  rw [← String.toList_inj, lower, String.toList_ofList, lowerChars,
    lowerAfter_eq_iff_of_marks hmarks, String.toList_inj]

theorem lower_eq_iff_of_dots {dots : String} (hdots : dots.toList.all (· = '.')) (s : String) :
    lower s = dots ↔ s = dots := by
  refine lower_eq_iff_of_marks (fun m hm => ?_) s
  rw [of_decide_eq_true (List.all_eq_true.1 hdots m hm)]
  exact isMark_dot

end CompileCommands.Text
