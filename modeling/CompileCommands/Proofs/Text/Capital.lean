/-
  Letters and their capitals.

  * `oneWayLetters`: the letters whose capital has another lower case;
  * `capital_cases`: any other letter with one capital has the lower case of its capital, but for the
    sigmas, whose capital is lowered by what stands around it;
  * `isLetter_capital`: a letter and its capital are both letters with case.
-/
import CompileCommands.Proofs.Text.Mark
import Mathlib.Data.List.Chain

namespace CompileCommands.Text

/-! ## Runs of small letters -/

namespace CaseRun

variable {run : CaseRun} {point : Nat}

/-- The first of the runs that may cover a point to which `run` leads, covers all of them and leads
    them back. -/
def leadsBack (run : CaseRun) : List CaseRun → Bool
  | [] => false
  | back :: runs =>
    bif back.misses run.image then run.leadsBack runs
    else back.holds run.image && back.shift == -run.shift

theorem find?_of_leadsBack {runs : List CaseRun} (h : run.leadsBack runs) (hsound : run.IsSound)
    (hpoint : run.covers point) :
    ∃ back, runs.find? (·.covers (point + run.shift).toNat) = some back ∧
      back.shift = -run.shift := by
  have himage := hsound.covers_image hpoint
  induction runs with
  | nil => cases h
  | cons back runs ih =>
    unfold leadsBack at h
    rw [List.find?_cons]
    cases hmisses : back.misses run.image with
    | true =>
      rw [hmisses, cond_true] at h
      rw [Bool.eq_false_iff.2 (not_covers_of_misses hmisses himage)]
      exact ih h
    | false =>
      rw [hmisses, cond_false, Bool.and_eq_true, beq_iff_eq] at h
      obtain ⟨hholds, hshift⟩ := h
      rw [covers_of_holds hholds himage]
      exact ⟨back, rfl, hshift⟩

/-- The run's capitals are lowered to its points, and the points to themselves. -/
def isUndone (run : CaseRun) : Bool :=
  run.leadsBack lowerRuns && lowerRuns.all (·.misses run)

/-- All points are letters with case. -/
def isCased (run : CaseRun) : Bool :=
  clear run.first run.last caseIgnorableRanges &&
    (spans casedRanges run.first run.last || run.points.all (inRanges casedRanges))

end CaseRun

/-- The letters whose capital has another lower case. -/
def oneWayLetters : List Char :=
  ['µ', 'ı', 'ſ', '\u0345', 'ϐ', 'ϑ', 'ϕ', 'ϖ', 'ϰ', 'ϱ', 'ϵ', '\u1C80', '\u1C81', '\u1C82',
    '\u1C83', '\u1C84', '\u1C85', '\u1C86', '\u1C87', '\u1C88', 'ẛ', '\u1FBE']

theorem isSound_of_mem_upperRuns : ∀ run ∈ upperRuns, run.IsSound := by decide +kernel

/-- The runs that are not undone are seen point by point. -/
theorem isUndone_or : ∀ run ∈ upperRuns, run.isUndone ∨ ∀ point ∈ run.points,
    Char.ofNat point ∈ oneWayLetters ∨ Char.ofNat point = 'ς' ∨
      (lowerChar (Char.ofNat (point + run.shift).toNat) = lowerChar (Char.ofNat point) ∧
        Char.ofNat (point + run.shift).toNat ≠ 'Σ') := by decide +kernel

theorem isCased_or : ∀ run ∈ upperRuns, run.first = 0x345 ∧ run.last = 0x345 ∨
    run.isCased ∧ run.image.isCased := by decide +kernel

/-! ## One letter -/

theorem lowerChar_of_isUndone {run : CaseRun} (hrun : run ∈ upperRuns) (h : run.isUndone) {c : Char}
    (hc : run.covers c.toNat) :
    lowerChar c = [c] ∧ lowerChar (Char.ofNat (c.toNat + run.shift).toNat) = [c] := by
  have hlower : ∀ lower ∈ lowerRuns, ¬lower.covers 'İ'.toNat := by decide +kernel
  have hupper : ∀ upper ∈ upperRuns, ¬upper.covers 'İ'.toNat := by decide +kernel
  have hsound := isSound_of_mem_upperRuns run hrun
  rw [CaseRun.isUndone, Bool.and_eq_true, List.all_eq_true] at h
  obtain ⟨hback, hmisses⟩ := h
  constructor
  · have hne : c ≠ 'İ' := by
      rintro rfl
      exact hupper run hrun hc
    refine mapCase_of_not_covers (ne_dottedI hne) fun lower hlower => ?_
    exact CaseRun.not_covers_of_misses (hmisses lower hlower) hc
  · obtain ⟨back, hfind, hshift⟩ := CaseRun.find?_of_leadsBack hback hsound hc
    have hpoint := hsound.toNat_image hc
    generalize Char.ofNat (c.toNat + run.shift).toNat = d at hpoint
    rw [← hpoint] at hfind
    have hcovers := List.find?_some hfind
    have hne : d ≠ 'İ' := by
      rintro rfl
      exact hlower back (List.mem_of_find?_eq_some hfind) hcovers
    have hreturn : ((d.toNat : Int) + back.shift).toNat = c.toNat := by
      have hbegin := hsound.1
      obtain ⟨hfirst, -, -⟩ := CaseRun.covers_iff.1 hc
      omega
    rw [lowerChar, mapCase_of_find? (ne_dottedI hne) hfind, hreturn, Char.ofNat_toNat]

/-- What is true of a letter of a run with the capital it leads to, is true of every letter with one
    other capital. -/
theorem capital_induction {P : Char → Char → Prop}
    (h : ∀ run ∈ upperRuns, ∀ c : Char, run.covers c.toNat →
      P c (Char.ofNat (c.toNat + run.shift).toNat)) {c d : Char} (hcapital : upperChar c = [d])
    (hne : c ≠ d) : P c d := by
  have hexpansions : ∀ e ∈ upperExpansions, (e.2.map Char.ofNat).length ≠ 1 := by decide
  have hcases : upperChar c = [d] → P c d := by
    refine mapCase_cases (P := fun s => s = [d] → P c d) (fun hself => ?_) (fun e he _ hsingle => ?_)
      fun run hrun hcovers hsingle => ?_
    · exact absurd (List.singleton_inj.1 hself) hne
    · exact absurd (congrArg List.length hsingle) (hexpansions e he)
    · rw [← List.singleton_inj.1 hsingle]
      exact h run hrun c hcovers
  exact hcases hcapital

/-- A letter with one capital has the lower case of its capital, or it is one-way, or a final
    sigma. -/
theorem capital_cases {c d : Char} (hcapital : upperChar c = [d]) (hne : c ≠ d) :
    c ∈ oneWayLetters ∨ c = 'ς' ∨ (lowerChar d = lowerChar c ∧ (d = 'Σ' → c = 'σ')) := by
  refine capital_induction (P := fun c d => c ∈ oneWayLetters ∨ c = 'ς' ∨
    (lowerChar d = lowerChar c ∧ (d = 'Σ' → c = 'σ'))) (fun run hrun c hc => ?_) hcapital hne
  rcases isUndone_or run hrun with hundone | hpoints
  · obtain ⟨hself, hback⟩ := lowerChar_of_isUndone hrun hundone hc
    refine .inr (.inr ⟨hback.trans hself.symm, fun hsigma => ?_⟩)
    have hlower : lowerChar 'Σ' = ['σ'] := by decide +kernel
    rw [hsigma, hlower] at hback
    exact (List.singleton_inj.1 hback).symm
  · have hpoint := hpoints c.toNat (CaseRun.mem_points hc)
    rw [Char.ofNat_toNat] at hpoint
    exact hpoint.imp_right (.imp_right fun h => ⟨h.1, fun hsigma => absurd hsigma h.2⟩)

/-- The character is a letter with case, which also counts as the neighbour of a sigma. -/
def IsLetter (c : Char) : Prop :=
  isCaseIgnorable c = false ∧ isCased c

theorem isLetter_of_isCased {run : CaseRun} (h : run.isCased) {c : Char}
    (hc : run.covers c.toNat) : IsLetter c := by
  have hchain : (caseIgnorableRanges.map Prod.fst).IsChain (· ≤ ·) := by decide +kernel
  have hsorted : caseIgnorableRanges.Pairwise fun range next => range.1 ≤ next.1 :=
    List.pairwise_map.1 hchain.pairwise
  rw [CaseRun.isCased, Bool.and_eq_true, Bool.or_eq_true, List.all_eq_true] at h
  obtain ⟨hclear, hcased⟩ := h
  obtain ⟨hfirst, hlast, -⟩ := CaseRun.covers_iff.1 hc
  refine ⟨inRanges_eq_false_of_clear hsorted hclear hfirst hlast, ?_⟩
  rcases hcased with hspans | hpoints
  · exact inRanges_of_spans hspans hfirst hlast
  · exact hpoints c.toNat (CaseRun.mem_points hc)

theorem isLetter_capital {c d : Char} (hcapital : upperChar c = [d]) (hne : c ≠ d)
    (hiota : c ≠ '\u0345') : IsLetter c ∧ IsLetter d := by
  refine capital_induction (P := fun c d => c ≠ '\u0345' → IsLetter c ∧ IsLetter d)
    (fun run hrun c hc hiota => ?_) hcapital hne hiota
  have hsound := isSound_of_mem_upperRuns run hrun
  rcases isCased_or run hrun with ⟨hbegin, hend⟩ | ⟨hsmall, himage⟩
  · obtain ⟨hfirst, hlast, -⟩ := CaseRun.covers_iff.1 hc
    have hpoint : c.toNat = '\u0345'.toNat := by
      change c.toNat = 0x345
      omega
    exact absurd (Char.toNat_inj.1 hpoint) hiota
  · refine ⟨isLetter_of_isCased hsmall hc, isLetter_of_isCased himage ?_⟩
    rw [hsound.toNat_image hc]
    exact hsound.covers_image hc

end CompileCommands.Text
