/-
  Paths with capitals for some of their letters.

  * `isCapital_mark_iff`: a slash, a backslash or a dot is the capital of nothing else;
  * `related_compared`: paths of which one has capitals for letters of the other, have them also in
    lowest terms;
  * `isMatching_capitals`: such paths match if and only if there every replaced letter has the lower
    case of its capital, as all but 22 letters do, and each sigma stands where it should.
-/
import CompileCommands.Path.Comparison
import CompileCommands.Proofs.Path.Related
import CompileCommands.Proofs.Text.Capitalized

namespace CompileCommands.Path

open Text

instance {R : Char → Char → Prop} [DecidableRel R] (p q : String) : Decidable (Related R p q) :=
  inferInstanceAs (Decidable (List.Forall₂ R p.toList q.toList))

/-! ## Marks -/

theorem isCapital_mark_iff {m : Char} (hm : IsMark m) (hupper : upperChar m = [m])
    (hsigma : m ≠ 'Σ') (honeWay : [m] ∉ oneWayLetters.map upperChar) {c d : Char}
    (h : IsCapital c d) : c = m ↔ d = m := by
  by_cases hne : c = d
  · rw [hne]
  · have hcapital := h.resolve_left hne
    constructor
    · rintro rfl
      exact absurd (List.singleton_inj.1 (hupper.symm.trans hcapital)) hne
    · rintro rfl
      rcases capital_cases hcapital hne with hmem | rfl | ⟨hlower, -⟩
      · exact absurd (List.mem_map.2 ⟨c, hmem, hcapital⟩) honeWay
      · exact absurd (List.singleton_inj.1 (hcapital.symm.trans upperChar_finalSigma)) hsigma
      · exact (eq_of_lowerChar hm (hlower.symm.trans hm.lower)).1 rfl

theorem isCapital_slash_iff {c d : Char} (h : IsCapital c d) : c = '/' ↔ d = '/' := by
  refine isCapital_mark_iff isMark_slash (by decide +kernel) (by decide) ?_ h
  rw [map_upperChar_oneWayLetters]
  decide

theorem isCapital_backslash_iff {c d : Char} (h : IsCapital c d) : c = '\\' ↔ d = '\\' := by
  refine isCapital_mark_iff isMark_backslash (by decide +kernel) (by decide) ?_ h
  rw [map_upperChar_oneWayLetters]
  decide

theorem isCapital_dot_iff {c d : Char} (h : IsCapital c d) : c = '.' ↔ d = '.' := by
  refine isCapital_mark_iff isMark_dot (by decide +kernel) (by decide) ?_ h
  rw [map_upperChar_oneWayLetters]
  decide

section Relation

variable {R : Char → Char → Prop} (hself : ∀ c, R c c) (hcapital : ∀ c d, R c d → IsCapital c d)
include hself hcapital

theorem relatesMarks_capital : RelatesMarks R where
  slash := hself '/'
  dot := hself '.'
  slash_iff c d h := isCapital_slash_iff (hcapital c d h)
  dot_iff c d h := isCapital_dot_iff (hcapital c d h)

theorem related_withSlashes {p q : String} (h : Related R p q) :
    Related R (withSlashes p) (withSlashes q) := by
  rw [withSlashes, withSlashes, related_ofList, List.forall₂_map_left_iff,
    List.forall₂_map_right_iff]
  refine h.imp fun c d hcd => ?_
  have hback := isCapital_backslash_iff (hcapital c d hcd)
  unfold slash
  by_cases hc : c = '\\'
  · rw [if_pos hc, if_pos (hback.1 hc)]
    exact hself '/'
  · rw [if_neg hc, if_neg (mt hback.2 hc)]
    exact hcd

theorem related_compared {p q : String} (h : Related R p q) :
    Related R (collapse (withSlashes p)) (collapse (withSlashes q)) :=
  (related_withSlashes hself hcapital h).collapse (relatesMarks_capital hself hcapital)

end Relation

/-! ## Comparison -/

/-- The characters of a path in lowest terms, with slashes between its names. -/
def compared (p : String) : List Char :=
  (collapse (withSlashes p)).toList

theorem isMatching_iff_lowerChars {p q : String} (h : p = "" ↔ q = "") :
    isMatching p q ↔ lowerChars (compared p) = lowerChars (compared q) := by
  rw [isMatching, decide_eq_true_iff]
  unfold normalize
  by_cases hp : p = ""
  · rw [if_pos hp, if_pos (h.1 hp), hp, h.1 hp]
    simp
  · rw [if_neg hp, if_neg (mt h.2 hp), lower, lower, String.ofList_inj]
    rfl

/-- The character itself, or the capital of a letter that has the lower case of its capital wherever
    it stands. -/
def IsPlainCapital (c d : Char) : Prop :=
  IsCapital c d ∧ (c ≠ d → c ∉ oneWayLetters ∧ c ≠ 'σ' ∧ c ≠ 'ς')

/-- A path and the same with capitals for some of its letters. They match if and only if, in lowest
    terms, no one-way letter is replaced, a small sigma only where a capital one is not final, and a
    final sigma only where it is. So they match whatever stands around if only other letters are
    replaced. -/
theorem isMatching_capitals {p q : String} (h : Related IsCapital p q) :
    (isMatching p q ↔ ∀ (i : Nat) c d, (compared p)[i]? = some c → (compared q)[i]? = some d →
      c ≠ d → c ∉ oneWayLetters ∧ (c = 'σ' → isFinal false (compared q) i = false) ∧
        (c = 'ς' → isFinal false (compared q) i = true)) ∧
    ((∀ r ∈ p.toList.zip q.toList, r.1 ≠ r.2 → r.1 ∉ oneWayLetters ∧ r.1 ≠ 'σ' ∧ r.1 ≠ 'ς') →
      isMatching p q) := by
  have hself (c : Char) : IsCapital c c := .inl rfl
  have hempty : p = "" ↔ q = "" :=
    h.eq_iff (relatesMarks_capital hself fun _ _ hcd => hcd) (by decide)
  have hiff := isMatching_iff_lowerChars hempty
  have hcompared : List.Forall₂ IsCapital (compared p) (compared q) :=
    related_compared hself (fun _ _ hcd => hcd) h
  rw [lowerChars_eq_iff hcompared] at hiff
  refine ⟨hiff, fun hplain => hiff.2 ?_⟩
  have hletters : Related IsPlainCapital p q := by
    refine List.forall₂_iff_zip.2 ⟨h.length_eq, fun {c d} hmem => ?_⟩
    exact ⟨List.forall₂_zip h hmem, hplain (c, d) hmem⟩
  have hlowest : List.Forall₂ IsPlainCapital (compared p) (compared q) :=
    related_compared (fun c => ⟨hself c, fun hne => absurd rfl hne⟩) (fun _ _ hcd => hcd.1) hletters
  intro i c d hc hd hne
  obtain ⟨-, hplain⟩ := forall₂_getElem? hlowest hc hd
  obtain ⟨honeWay, hsmall, hend⟩ := hplain hne
  exact ⟨honeWay, fun h => absurd h hsmall, fun h => absurd h hend⟩

/-- A letter without a single capital may stand in such a path. A micro sign and the capital My are
    not the same. -/
theorem isMatching_capitals_units :
    Related IsCapital "straße.cpp" "STRAßE.CPP" ∧ isMatching "straße.cpp" "STRAßE.CPP" ∧
    Related IsCapital "µs.h" "ΜS.H" ∧ ¬isMatching "µs.h" "ΜS.H" := by
  have hstreet : Related IsCapital "straße.cpp" "STRAßE.CPP" := by decide +kernel
  have hunit : Related IsCapital "µs.h" "ΜS.H" := by decide +kernel
  obtain ⟨-, hmatching⟩ := isMatching_capitals hstreet
  obtain ⟨hiff, -⟩ := isMatching_capitals hunit
  refine ⟨hstreet, hmatching (by decide +kernel), hunit, fun hmatch => ?_⟩
  obtain ⟨honeWay, -⟩ := hiff.1 hmatch 0 'µ' 'Μ' (by rfl) (by rfl) (by decide)
  exact honeWay (by decide)

/-- In front of a dot and more letters, a capital sigma is not final. -/
theorem isMatching_capitals_sigma :
    Related IsCapital "οδος.cpp" "ΟΔΟΣ.CPP" ∧ isMatching "οδος.cpp" "ΟΔΟΣ.CPP" = false := by
  constructor
  · decide +kernel
  · decide +kernel

end CompileCommands.Path
