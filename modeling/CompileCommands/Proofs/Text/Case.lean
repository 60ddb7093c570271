/-
  Letters of ASCII in the lower case of a text.

  * `toLower_cases`: what holds of characters with themselves, and of the capitals of ASCII with
    the small letters, holds of every character with its small form;
  * `startsCased_congr`: what stands in the same way around a sigma;
  * `lower_map_toLower`: a text has the same lower case if the capitals of ASCII in it are replaced
    by the small letters. They stand in the same way around a capital sigma.
-/
import CompileCommands.Text.Case
import Mathlib.Data.List.Forall2

namespace CompileCommands.Text

/-! ## Characters -/

theorem toLower_cases {P : Char → Char → Prop} (hself : ∀ c, P c c)
    (hcapital : ∀ n < 26, P (Char.ofNat (65 + n)) (Char.ofNat (97 + n))) (c : Char) :
    P c c.toLower := by
  by_cases h : 65 ≤ c.toNat ∧ c.toNat ≤ 90
  · have hsmall : ∀ n < 26, (Char.ofNat (65 + n)).toLower = Char.ofNat (97 + n) := by decide
    have hc : c = Char.ofNat (65 + (c.toNat - 65)) := by
      rw [Nat.add_sub_cancel' h.1, Char.ofNat_toNat]
    have hn : c.toNat - 65 < 26 := by omega
    rw [hc, hsmall _ hn]
    exact hcapital _ hn
  · have hother : c.toLower = c := by
      refine dif_neg fun hcapital => h ?_
      exact ⟨UInt32.le_iff_toNat_le.1 hcapital.1, UInt32.le_iff_toNat_le.1 hcapital.2⟩
    rw [hother]
    exact hself c

theorem toLower_eq_iff {d : Char} (hd : ∀ n < 26, d ≠ Char.ofNat (65 + n) ∧ d ≠ Char.ofNat (97 + n))
    (c : Char) : c.toLower = d ↔ c = d := by
  refine toLower_cases (P := fun c c' => c' = d ↔ c = d) (fun _ => Iff.rfl) (fun n hn => ?_) c
  exact iff_of_false (hd n hn).2.symm (hd n hn).1.symm

theorem lowerChar_toLower (c : Char) : lowerChar c.toLower = lowerChar c := by
  refine toLower_cases (P := fun c d => lowerChar d = lowerChar c) (fun _ => rfl) ?_ c
  decide +kernel

theorem isCaseIgnorable_toLower (c : Char) : isCaseIgnorable c.toLower = isCaseIgnorable c := by
  refine toLower_cases (P := fun c d => isCaseIgnorable d = isCaseIgnorable c) (fun _ => rfl) ?_ c
  decide +kernel

theorem isCased_toLower (c : Char) : isCased c.toLower = isCased c := by
  refine toLower_cases (P := fun c d => isCased d = isCased c) (fun _ => rfl) ?_ c
  decide +kernel

/-! ## Texts -/

/-- The characters count in the same way as neighbours of a sigma. -/
structure SameContext (c d : Char) : Prop where
  ignorable : isCaseIgnorable c = isCaseIgnorable d
  cased : isCased c = isCased d

theorem startsCased_cons (c : Char) (rest : List Char) :
    startsCased (c :: rest) = if isCaseIgnorable c then startsCased rest else isCased c := by
  rw [startsCased, startsCased, List.dropWhile_cons]
  by_cases h : isCaseIgnorable c
  · rw [if_pos h, if_pos h]
  · rw [if_neg h, if_neg h]

theorem startsCased_congr {s t : List Char} (h : List.Forall₂ SameContext s t) :
    startsCased s = startsCased t := by
  induction h with
  | nil => rfl
  | cons hcd _ ih => rw [startsCased_cons, startsCased_cons, hcd.ignorable, hcd.cased, ih]

theorem startsCased_map_toLower (s : List Char) :
    startsCased (s.map Char.toLower) = startsCased s := by
  refine startsCased_congr (List.forall₂_map_left_iff.2 (List.forall₂_same.2 fun c _ => ?_))
  exact ⟨isCaseIgnorable_toLower c, isCased_toLower c⟩

theorem lowerAfter_map_toLower (afterCased : Bool) (s : List Char) :
    lowerAfter afterCased (s.map Char.toLower) = lowerAfter afterCased s := by
  induction s generalizing afterCased with
  | nil => rfl
  | cons c rest ih =>
    have hsigma : c.toLower = 'Σ' ↔ c = 'Σ' := toLower_eq_iff (by decide) c
    simp only [List.map_cons, lowerAfter, hsigma, startsCased_map_toLower, lowerChar_toLower,
      isCaseIgnorable_toLower, isCased_toLower, ih]

/-- The lower case of a text does not depend on the case of its letters of ASCII. -/
theorem lower_map_toLower (s : String) : lower (s.map Char.toLower) = lower s := by
  rw [lower, lower, lowerChars, lowerChars, String.toList_map, lowerAfter_map_toLower]

end CompileCommands.Text
