/-
  Texts with capitals for some of their letters.

  * `IsCapital`: a character itself, or its capital if that is one character;
  * `loweredIn`: the lower case of a character at a place, `isFinal`: the place is that of a final
    sigma;
  * `isFaithful_of_lowerAfter_eq`: if two such texts have the same lower case, no one-way letter is
    replaced;
  * `lowerAfter_eq_iff`: then they have it if and only if sigmas are replaced at the right places.
-/
import CompileCommands.Proofs.Text.Capital
import CompileCommands.Proofs.Text.Case

namespace CompileCommands.Text

/-! ## Characters -/

/-- The character itself, or its capital if that is one character. -/
def IsCapital (c d : Char) : Prop :=
  c = d ∨ upperChar c = [d]

instance (c d : Char) : Decidable (IsCapital c d) :=
  inferInstanceAs (Decidable (c = d ∨ upperChar c = [d]))

/-- The character itself, or the capital of a letter that is not one-way. -/
def IsFaithful (c d : Char) : Prop :=
  IsCapital c d ∧ (c ∈ oneWayLetters → c = d)

/-- The lower case of a character, which for a capital sigma depends on its place. -/
def loweredIn (final : Bool) (c : Char) : List Char :=
  if c = 'Σ' then [if final then 'ς' else 'σ'] else lowerChar c

/-- What counts as the nearest letter before, after one more character. -/
def caseAfter (afterCased : Bool) (c : Char) : Bool :=
  if isCaseIgnorable c then afterCased else isCased c

/-- A capital sigma at this place of the text is a final one. -/
def isFinal (afterCased : Bool) (s : List Char) (i : Nat) : Bool :=
  (s.take i).foldl caseAfter afterCased && !startsCased (s.drop (i + 1))

theorem lowerAfter_cons (afterCased : Bool) (c : Char) (rest : List Char) :
    lowerAfter afterCased (c :: rest) =
      loweredIn (afterCased && !startsCased rest) c ++
        lowerAfter (caseAfter afterCased c) rest := rfl

/-! ## One place -/

variable {c d : Char}

theorem upperChar_finalSigma : upperChar 'ς' = ['Σ'] := by decide +kernel

theorem map_upperChar_oneWayLetters : oneWayLetters.map upperChar =
    ['Μ', 'I', 'S', 'Ι', 'Β', 'Θ', 'Φ', 'Π', 'Κ', 'Ρ', 'Ε', 'В', 'Д', 'О', 'С', 'Т', 'Т', 'Ъ', 'Ѣ',
      'Ꙋ', 'Ṡ', 'Ι'].map fun d => [d] := by decide +kernel

theorem oneWay_capital (hc : c ∈ oneWayLetters) (hcapital : upperChar c = [d]) :
    d ≠ 'Σ' ∧ d ≠ 'İ' ∧ lowerChar d ≠ lowerChar c := by
  have hlower : oneWayLetters.all fun c => (upperChar c).flatMap lowerChar != lowerChar c := by
    decide +kernel
  have hmem : [d] ∈ oneWayLetters.map upperChar := List.mem_map.2 ⟨c, hc, hcapital⟩
  rw [map_upperChar_oneWayLetters] at hmem
  have hne := List.all_eq_true.1 hlower c hc
  rw [hcapital, List.flatMap_singleton, bne_iff_ne] at hne
  refine ⟨?_, ?_, hne⟩
  · rintro rfl
    exact absurd hmem (by decide)
  · rintro rfl
    exact absurd hmem (by decide)

/-- What is replaced, and what replaces it, has one character in lower case. -/
theorem ne_dottedI_of_capital (hcapital : upperChar c = [d]) (hne : c ≠ d) :
    c ≠ 'İ' ∧ d ≠ 'İ' := by
  have hupper : upperChar 'İ' = ['İ'] := by decide +kernel
  have hc : c ≠ 'İ' := by
    rintro rfl
    exact hne (List.singleton_inj.1 (hupper.symm.trans hcapital))
  refine ⟨hc, ?_⟩
  rcases capital_cases hcapital hne with honeWay | rfl | ⟨hlower, -⟩
  · exact (oneWay_capital honeWay hcapital).2.1
  · rw [upperChar_finalSigma] at hcapital
    rw [← List.singleton_inj.1 hcapital]
    decide
  · rintro rfl
    have hdotted : lowerChar 'İ' = ['i', '\u0307'] := by decide
    obtain ⟨e, he⟩ := exists_lowerChar_eq hc
    rw [hdotted, he] at hlower
    cases hlower

theorem length_loweredIn (h : IsCapital c d) (final final' : Bool) :
    (loweredIn final c).length = (loweredIn final' d).length := by
  have hone {c : Char} (hc : c ≠ 'İ') (final : Bool) : (loweredIn final c).length = 1 := by
    unfold loweredIn
    split
    · rfl
    · obtain ⟨d, hd⟩ := exists_lowerChar_eq hc
      rw [hd]
      rfl
  by_cases hne : c = d
  · subst hne
    by_cases hc : c = 'İ'
    · subst hc
      rfl
    · rw [hone hc, hone hc]
  · obtain ⟨hc, hd⟩ := ne_dottedI_of_capital (h.resolve_left hne) hne
    rw [hone hc, hone hd]

theorem loweredIn_ne_of_oneWay (hc : c ∈ oneWayLetters) (hcapital : upperChar c = [d])
    (final final' : Bool) : loweredIn final c ≠ loweredIn final' d := by
  have hsigma : 'Σ' ∉ oneWayLetters := by decide
  obtain ⟨hd, -, hlower⟩ := oneWay_capital hc hcapital
  have hcsigma : c ≠ 'Σ' := by
    rintro rfl
    exact hsigma hc
  rw [loweredIn, loweredIn, if_neg hcsigma, if_neg hd]
  exact hlower.symm

/-- A capital of another letter than a one-way one is lowered to the letter, but a capital sigma by
    its place. -/
theorem loweredIn_capital_iff (hcapital : upperChar c = [d]) (hne : c ≠ d)
    (hc : c ∉ oneWayLetters) (final final' : Bool) :
    loweredIn final' c = loweredIn final d ↔
      (c = 'σ' → final = false) ∧ (c = 'ς' → final = true) := by
  have hupper : upperChar 'Σ' = ['Σ'] := by decide +kernel
  have hsmall : upperChar 'σ' = ['Σ'] := by decide +kernel
  have hcsigma : c ≠ 'Σ' := by
    rintro rfl
    exact hne (List.singleton_inj.1 (hupper.symm.trans hcapital))
  have hself : loweredIn final' c = lowerChar c := if_neg hcsigma
  rw [hself]
  rcases capital_cases hcapital hne with honeWay | rfl | ⟨hlower, hsigma⟩
  · exact absurd honeWay hc
  · have hd : d = 'Σ' := List.singleton_inj.1 (hcapital.symm.trans upperChar_finalSigma)
    have hς : lowerChar 'ς' = ['ς'] := by decide +kernel
    rw [hd, hς]
    cases final <;> simp [loweredIn]
  · by_cases hd : d = 'Σ'
    · have hσ : lowerChar 'σ' = ['σ'] := by decide +kernel
      rw [hd, hsigma hd, hσ]
      cases final <;> simp [loweredIn]
    · have hcapitalLower : loweredIn final d = lowerChar d := if_neg hd
      rw [hcapitalLower, hlower]
      refine iff_of_true rfl ⟨?_, ?_⟩
      · rintro rfl
        exact absurd (List.singleton_inj.1 (hcapital.symm.trans hsmall)) hd
      · rintro rfl
        exact absurd (List.singleton_inj.1 (hcapital.symm.trans upperChar_finalSigma)) hd

/-- What replaces a letter stands in the same way around a sigma. -/
theorem IsFaithful.context (h : IsFaithful c d) : SameContext c d := by
  obtain ⟨hcapital, honeWay⟩ := h
  by_cases hne : c = d
  · rw [hne]
    exact ⟨rfl, rfl⟩
  · have hiota : c ≠ '\u0345' := by
      rintro rfl
      exact hne (honeWay (by decide))
    obtain ⟨hc, hd⟩ := isLetter_capital (hcapital.resolve_left hne) hne hiota
    exact ⟨hc.1.trans hd.1.symm, hc.2.trans hd.2.symm⟩

/-! ## Texts -/

variable {s t : List Char}

theorem forall₂_getElem? {R : Char → Char → Prop} (h : List.Forall₂ R s t) {i : Nat}
    (hc : s[i]? = some c) (hd : t[i]? = some d) : R c d := by
  induction h generalizing i with
  | nil => cases hc
  | cons hcd _ ih =>
    cases i with
    | zero =>
      cases hc
      cases hd
      exact hcd
    | succ i => exact ih hc hd

theorem forall₂_of_getElem? {R S : Char → Char → Prop} (h : List.Forall₂ R s t)
    (hS : ∀ (i : Nat) c d, s[i]? = some c → t[i]? = some d → R c d → S c d) : List.Forall₂ S s t := by
  induction h with
  | nil => exact .nil
  | cons hcd _ ih => exact .cons (hS 0 _ _ rfl rfl hcd) (ih fun i => hS (i + 1))

/-- By induction on the texts, in which all characters have as many in lower case as what replaces
    them. -/
theorem isFaithful_of_lowerAfter_eq (h : List.Forall₂ IsCapital s t) {afterCased afterCased' : Bool}
    (hlower : lowerAfter afterCased s = lowerAfter afterCased' t) : List.Forall₂ IsFaithful s t := by
  induction h generalizing afterCased afterCased' with
  | nil => exact .nil
  | @cons c d s t hcd _ ih =>
    rw [lowerAfter_cons, lowerAfter_cons] at hlower
    obtain ⟨hfirst, hrest⟩ := List.append_inj hlower (length_loweredIn hcd _ _)
    refine .cons ⟨hcd, fun honeWay => ?_⟩ (ih hrest)
    by_contra hne
    exact loweredIn_ne_of_oneWay honeWay (hcd.resolve_left hne) _ _ hfirst

/-- By induction on the texts, whose contexts stay the same. -/
theorem lowerAfter_eq_iff (h : List.Forall₂ IsFaithful s t) (afterCased : Bool) :
    lowerAfter afterCased s = lowerAfter afterCased t ↔
      ∀ (i : Nat) c d, s[i]? = some c → t[i]? = some d → c ≠ d →
        (c = 'σ' → isFinal afterCased t i = false) ∧
        (c = 'ς' → isFinal afterCased t i = true) := by
  induction h generalizing afterCased with
  | nil => simp
  | @cons c d s t hcd hrest ih =>
    obtain ⟨hignorable, hcased⟩ := hcd.context
    have hstarts : startsCased s = startsCased t :=
      startsCased_congr (hrest.imp fun _ _ h => h.context)
    have hafter : caseAfter afterCased c = caseAfter afterCased d := by
      rw [caseAfter, caseAfter, hignorable, hcased]
    have hparts : lowerAfter afterCased (c :: s) = lowerAfter afterCased (d :: t) ↔
        loweredIn (afterCased && !startsCased t) c = loweredIn (afterCased && !startsCased t) d ∧
          lowerAfter (caseAfter afterCased d) s = lowerAfter (caseAfter afterCased d) t := by
      rw [lowerAfter_cons, lowerAfter_cons, hstarts, hafter]
      constructor
      · exact fun heq => List.append_inj heq (length_loweredIn hcd.1 _ _)
      · rintro ⟨hfirst, heq⟩
        rw [hfirst, heq]
    have hfirst : loweredIn (afterCased && !startsCased t) c =
        loweredIn (afterCased && !startsCased t) d ↔ (c ≠ d →
          (c = 'σ' → (afterCased && !startsCased t) = false) ∧
          (c = 'ς' → (afterCased && !startsCased t) = true)) := by
      by_cases hne : c = d
      · simp [hne]
      · rw [loweredIn_capital_iff (hcd.1.resolve_left hne) hne fun honeWay => hne (hcd.2 honeWay)]
        simp [hne]
    rw [hparts, hfirst, ih]
    constructor
    · rintro ⟨hzero, hsucc⟩ i c' d' hc hd
      cases i with
      | zero =>
        cases hc
        cases hd
        exact hzero
      | succ i => exact hsucc i c' d' hc hd
    · intro hall
      exact ⟨hall 0 c d rfl rfl, fun i => hall (i + 1)⟩

/-- A text and the same with capitals have the same lower case if and only if no one-way letter is
    replaced, a small sigma only where a capital one is not final, and a final sigma only where it
    is. -/
theorem lowerChars_eq_iff (h : List.Forall₂ IsCapital s t) : lowerChars s = lowerChars t ↔
    ∀ (i : Nat) c d, s[i]? = some c → t[i]? = some d → c ≠ d → c ∉ oneWayLetters ∧
      (c = 'σ' → isFinal false t i = false) ∧ (c = 'ς' → isFinal false t i = true) := by
  constructor
  · intro hlower i c d hc hd hne
    have hfaithful := isFaithful_of_lowerAfter_eq h hlower
    obtain ⟨-, honeWay⟩ := forall₂_getElem? hfaithful hc hd
    have hsigmas := (lowerAfter_eq_iff hfaithful false).1 hlower i c d hc hd hne
    exact ⟨fun hmem => hne (honeWay hmem), hsigmas⟩
  · intro hall
    have hfaithful : List.Forall₂ IsFaithful s t := by
      refine forall₂_of_getElem? h fun i c d hc hd hcapital => ⟨hcapital, fun honeWay => ?_⟩
      by_contra hne
      exact (hall i c d hc hd hne).1 honeWay
    rw [lowerChars, lowerChars, lowerAfter_eq_iff hfaithful]
    exact fun i c d hc hd hne => (hall i c d hc hd hne).2

end CompileCommands.Text
