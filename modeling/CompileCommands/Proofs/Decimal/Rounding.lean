/-
  Rounding to the binary64 format.

  * `floorLog2_spec`: the power of two at or below a ratio;
  * `le_roundHalfEven`, `roundHalfEven_le`: rounding to an integer does not cross an integer;
  * `IsUnit`, `IsRounded`: the unit of the last place, and what rounding to it gives;
  * `exists_isRounded`: a positive rational is rounded so;
  * `IsExact`: a number of the format; `roundRat_le`, `le_roundRat`: rounding does not cross one;
  * `next_le_roundRat`: what is rounded up beyond a number comes at least to the next one.
-/
import CompileCommands.Decimal.Binary64
import Mathlib.Algebra.Order.Field.Power
import Mathlib.Tactic.FieldSimp
import Mathlib.Tactic.Linarith
import Mathlib.Tactic.NormNum
import Mathlib.Tactic.Positivity
import Mathlib.Tactic.Ring

namespace CompileCommands.Binary64

variable {num den : ℕ} {q x y : ℚ} {e : ℤ}

/-! ## Integers -/

theorem le_roundHalfEven {n : ℕ} (hden : 0 < den) (h : n * den ≤ num) :
    n ≤ roundHalfEven num den := by
  have hquotient : n ≤ num / den := (Nat.le_div_iff_mul_le hden).2 h
  unfold roundHalfEven
  dsimp only
  split <;> omega

theorem roundHalfEven_le {n : ℕ} (hden : 0 < den) (h : num ≤ n * den) :
    roundHalfEven num den ≤ n := by
  have hquotient : num / den ≤ n := Nat.div_le_of_le_mul (by rwa [Nat.mul_comm])
  unfold roundHalfEven
  dsimp only
  split
  · next hup =>
    -- It is rounded up only if something is left over.
    have hrest : 0 < num % den := by omega
    have hsplit := Nat.div_add_mod num den
    rw [Nat.succ_le_iff]
    by_contra hge
    have heq : num / den = n := by omega
    rw [heq, Nat.mul_comm] at hsplit
    omega
  · exact hquotient

/-! ## Ratios -/

theorem scaled_pos (num : ℕ) (hden : 0 < den) (e : ℤ) : 0 < (scaled num den e).2 := by
  unfold scaled
  split
  · exact Nat.mul_pos hden (Nat.pow_pos (by decide))
  · exact hden

theorem scaled_value (num den : ℕ) (e : ℤ) :
    ((scaled num den e).1 : ℚ) / (scaled num den e).2 = num / den / 2 ^ e := by
  unfold scaled
  split
  · next he =>
    obtain ⟨k, rfl⟩ := Int.eq_ofNat_of_zero_le he
    simp only [Int.toNat_natCast, Nat.pow_eq, Nat.cast_mul, Nat.cast_pow, Nat.cast_ofNat,
      zpow_natCast, div_div]
  · next he =>
    obtain ⟨k, hk⟩ := Int.eq_ofNat_of_zero_le (show 0 ≤ -e by omega)
    obtain rfl : e = -(k : ℤ) := by omega
    simp only [neg_neg, Int.toNat_natCast, Nat.pow_eq, Nat.cast_mul, Nat.cast_pow, Nat.cast_ofNat,
      zpow_neg, zpow_natCast, div_inv_eq_mul]
    ring

theorem ratio_value (significand : ℕ) (e : ℤ) :
    ((ratio significand e).1 : ℚ) / (ratio significand e).2 = significand * 2 ^ e := by
  unfold ratio
  split
  · next he =>
    obtain ⟨k, rfl⟩ := Int.eq_ofNat_of_zero_le he
    simp
  · next he =>
    obtain ⟨k, hk⟩ := Int.eq_ofNat_of_zero_le (show 0 ≤ -e by omega)
    obtain rfl : e = -(k : ℤ) := by omega
    simp [div_eq_mul_inv]

theorem toRat?_finite (negative : Bool) (significand : ℕ) (e : ℤ) :
    (finite negative significand e).toRat? =
      some (if negative then -((significand : ℚ) * 2 ^ e) else (significand : ℚ) * 2 ^ e) := by
  rw [← ratio_value]
  rfl

theorem natLog2_spec {n : ℕ} (hn : n ≠ 0) :
    (2 : ℚ) ^ Nat.log2 n ≤ n ∧ (n : ℚ) < 2 ^ (Nat.log2 n + 1) :=
  ⟨mod_cast Nat.log2_self_le hn, mod_cast Nat.lt_log2_self⟩

/-- The power of two at or below a ratio. -/
theorem floorLog2_spec (hnum : num ≠ 0) (hden : den ≠ 0) :
    (2 : ℚ) ^ floorLog2 num den ≤ num / den ∧ (num / den : ℚ) < 2 ^ (floorLog2 num den + 1) := by
  obtain ⟨hnumLow, hnumHigh⟩ := natLog2_spec hnum
  obtain ⟨hdenLow, hdenHigh⟩ := natLog2_spec hden
  have hpos : (0 : ℚ) < den := by positivity
  unfold floorLog2
  generalize Nat.log2 num = a at *
  generalize Nat.log2 den = b at *
  -- The difference of the logarithms is right, or one too high.
  have hlow : (2 : ℚ) ^ ((a : ℤ) - b - 1) ≤ num / den := by
    have hsplit : (2 : ℚ) ^ ((a : ℤ) - b - 1) = 2 ^ a / 2 ^ (b + 1) := by
      rw [show (a : ℤ) - b - 1 = (a : ℤ) - ((b + 1 : ℕ) : ℤ) by push_cast; omega,
        zpow_sub₀ two_ne_zero, zpow_natCast, zpow_natCast]
    rw [hsplit]
    exact div_le_div₀ (by positivity) hnumLow hpos hdenHigh.le
  have hhigh : (num / den : ℚ) < 2 ^ ((a : ℤ) - b + 1) := by
    have hsplit : (2 : ℚ) ^ ((a : ℤ) - b + 1) = 2 ^ (a + 1) / 2 ^ b := by
      rw [show (a : ℤ) - b + 1 = ((a + 1 : ℕ) : ℤ) - (b : ℤ) by push_cast; omega,
        zpow_sub₀ two_ne_zero, zpow_natCast, zpow_natCast]
    rw [hsplit]
    exact div_lt_div₀ hnumHigh hdenLow (by positivity) (by positivity)
  have hscaled := scaled_value num den ((a : ℤ) - b)
  have hscaledPos : (0 : ℚ) < (scaled num den ((a : ℤ) - b)).2 :=
    mod_cast scaled_pos num (Nat.pos_of_ne_zero hden) _
  have hunit : (0 : ℚ) < 2 ^ ((a : ℤ) - b) := by positivity
  have hcompare : (scaled num den ((a : ℤ) - b)).1 ≥ (scaled num den ((a : ℤ) - b)).2 ↔
      (2 : ℚ) ^ ((a : ℤ) - b) ≤ num / den := by
    rw [← one_le_div₀ hunit, ← hscaled, one_le_div₀ hscaledPos, Nat.cast_le]
  dsimp only
  split
  · next hge => exact ⟨hcompare.1 hge, hhigh⟩
  · next hlt =>
    rw [hcompare, not_le] at hlt
    rw [sub_add_cancel]
    exact ⟨hlow, hlt⟩

/-! ## Units -/

/-- The value of the last place of a number that a positive rational is rounded to, as a power of
    two. -/
structure IsUnit (q : ℚ) (e : ℤ) : Prop where
  least : minExponent ≤ e
  lt : q < 2 ^ (e + precision)
  le : minExponent < e → 2 ^ (e + precision - 1) ≤ q

/-- The nearest multiple of a power of two, as far as no other multiple lies between. -/
structure IsRounded (q : ℚ) (e : ℤ) (r : ℚ) : Prop where
  multiple : ∃ n : ℕ, r = n * 2 ^ e
  le : ∀ n : ℕ, q ≤ n * 2 ^ e → r ≤ n * 2 ^ e
  ge : ∀ n : ℕ, n * 2 ^ e ≤ q → n * 2 ^ e ≤ r

/-- The exponent of the last place. -/
def unitOf (num den : ℕ) : ℤ :=
  max (floorLog2 num den - (precision - 1)) minExponent

theorem isUnit_unitOf (hnum : num ≠ 0) (hden : den ≠ 0) : IsUnit (num / den) (unitOf num den) := by
  obtain ⟨hlow, hhigh⟩ := floorLog2_spec hnum hden
  have hmono {k l : ℤ} (h : k ≤ l) : (2 : ℚ) ^ k ≤ 2 ^ l := zpow_le_zpow_right₀ one_le_two h
  refine ⟨le_max_right _ _, hhigh.trans_le (hmono ?_), fun hleast => (hmono ?_).trans hlow⟩
  · unfold unitOf
    omega
  · unfold unitOf at hleast ⊢
    omega

theorem isRounded_roundHalfEven (num : ℕ) (hden : 0 < den) (e : ℤ) :
    IsRounded (num / den) e
      (roundHalfEven (scaled num den e).1 (scaled num den e).2 * 2 ^ e) := by
  have hpos := scaled_pos num hden e
  have hposCast : (0 : ℚ) < (scaled num den e).2 := mod_cast hpos
  have hunit : (0 : ℚ) < 2 ^ e := by positivity
  refine ⟨⟨_, rfl⟩, fun n hn => ?_, fun n hn => ?_⟩
  · rw [← div_le_iff₀ hunit, ← scaled_value, div_le_iff₀ hposCast] at hn
    gcongr
    exact roundHalfEven_le hpos (mod_cast hn)
  · rw [← le_div_iff₀ hunit, ← scaled_value, le_div_iff₀ hposCast] at hn
    gcongr
    exact le_roundHalfEven hpos (mod_cast hn)

/-- What a ratio is rounded to, unless that is too large for the format. -/
theorem toRat?_ofRatio (negative : Bool) (den : ℕ) (hnum : num ≠ 0) :
    (maxExponent ≤ unitOf num den ∧ (ofRatio negative num den).toRat? = none) ∨
      ∃ m e, ofRatio negative num den = finite negative m e ∧
        (m : ℚ) * 2 ^ e = (roundHalfEven (scaled num den (unitOf num den)).1
          (scaled num den (unitOf num den)).2 : ℚ) * 2 ^ unitOf num den := by
  rw [ofRatio, if_neg hnum]
  dsimp only
  rw [← unitOf]
  generalize roundHalfEven _ _ = n
  generalize unitOf num den = e
  by_cases hfull : n = Nat.pow 2 precision
  · -- A significand of 54 digits is halved.
    simp only [if_pos hfull]
    split
    · next hlarge => exact .inl ⟨by omega, rfl⟩
    · refine .inr ⟨_, _, rfl, ?_⟩
      rw [hfull, zpow_add_one₀ two_ne_zero]
      norm_num [precision]
      ring
  · simp only [if_neg hfull]
    split
    · next hlarge => exact .inl ⟨by omega, rfl⟩
    · exact .inr ⟨_, _, rfl, rfl⟩

/-! ## Rationals -/

theorem roundRat_nonpos (hq : q ≤ 0) : roundRat q ≤ 0 := by
  obtain rfl | hneg := hq.eq_or_lt
  · decide +kernel
  have hnum : q.num.natAbs ≠ 0 := Int.natAbs_ne_zero.2 (Rat.num_ne_zero.2 hneg.ne)
  rw [roundRat, decide_eq_true (Rat.num_neg.2 hneg)]
  obtain ⟨-, hnone⟩ | ⟨m, e, heq, -⟩ := toRat?_ofRatio true q.den hnum
  · rw [hnone]
    exact hq
  · rw [heq, toRat?_finite, if_pos rfl, Option.getD_some, neg_nonpos]
    positivity

/-- A positive rational is rounded to the nearest multiple of its unit. Beyond the format it is
    kept. -/
theorem exists_isRounded (hq : 0 < q) :
    ∃ e, IsUnit q e ∧ (maxExponent ≤ e ∧ roundRat q = q ∨ IsRounded q e (roundRat q)) := by
  have hsign : 0 ≤ q.num := Rat.num_nonneg.2 hq.le
  have hnum : q.num.natAbs ≠ 0 := Int.natAbs_ne_zero.2 (Rat.num_ne_zero.2 hq.ne')
  have hvalue : (q.num.natAbs : ℚ) / q.den = q := by
    rw [Nat.cast_natAbs, abs_of_nonneg hsign]
    exact Rat.num_div_den q
  have hunit := isUnit_unitOf hnum q.den_nz
  have hrounded := isRounded_roundHalfEven q.num.natAbs q.den_pos
    (unitOf q.num.natAbs q.den)
  rw [hvalue] at hunit hrounded
  refine ⟨unitOf q.num.natAbs q.den, hunit, ?_⟩
  rw [roundRat, decide_eq_false (not_lt.2 hsign)]
  obtain ⟨hlarge, hnone⟩ | ⟨m, e, heq, hm⟩ := toRat?_ofRatio false q.den hnum
  · exact .inl ⟨hlarge, by rw [hnone]; rfl⟩
  · right
    rw [heq, toRat?_finite, if_neg Bool.false_ne_true, Option.getD_some, hm]
    exact hrounded

/-! ## Numbers of the format -/

/-- Multiples of a power of two are multiples of every smaller one. -/
theorem exists_mul_zpow (n : ℕ) {k l : ℤ} (h : k ≤ l) : ∃ m : ℕ, (n : ℚ) * 2 ^ l = m * 2 ^ k := by
  obtain ⟨d, hd⟩ := Int.eq_ofNat_of_zero_le (sub_nonneg.2 h)
  refine ⟨n * 2 ^ d, ?_⟩
  rw [← sub_add_cancel l k, hd, zpow_add₀ two_ne_zero, zpow_natCast]
  push_cast
  ring

theorem two_zpow_eq_mul (e : ℤ) :
    (2 : ℚ) ^ (e + precision - 1) = ((2 ^ (precision - 1) : ℕ) : ℚ) * 2 ^ e := by
  rw [Nat.cast_pow, Nat.cast_ofNat, ← zpow_natCast, ← zpow_add₀ two_ne_zero]
  congr 1
  norm_num [precision]
  omega

/-- A number of the format that is not negative. -/
def IsExact (y : ℚ) : Prop :=
  ∃ (n : ℕ) (e : ℤ), n ≤ 2 ^ precision ∧ minExponent ≤ e ∧ y = n * 2 ^ e

namespace IsExact

theorem nonneg (hy : IsExact y) : 0 ≤ y := by
  obtain ⟨n, e, -, -, rfl⟩ := hy
  positivity

/-- Seen from a positive rational, a number of the format is a multiple of the unit, or lies at or
    below all rationals with this unit. -/
theorem multiple_or_le (hy : IsExact y) (e : ℤ) :
    (∃ n : ℕ, y = n * 2 ^ e) ∨ minExponent < e ∧ y ≤ 2 ^ (e + precision - 1) := by
  obtain ⟨n, k, hn, hk, rfl⟩ := hy
  obtain hle | hlt := le_or_gt e k
  · exact .inl (exists_mul_zpow n hle)
  · right
    refine ⟨hk.trans_lt hlt, ?_⟩
    have hcast : (n : ℚ) ≤ 2 ^ (precision : ℤ) := by
      rw [zpow_natCast]
      exact_mod_cast hn
    calc (n : ℚ) * 2 ^ k ≤ 2 ^ (precision : ℤ) * 2 ^ (e - 1) := by
          gcongr
          · exact one_le_two
          · omega
      _ = 2 ^ (e + precision - 1) := by
          rw [← zpow_add₀ two_ne_zero]
          congr 1
          omega

end IsExact

/-- Rounding does not go up beyond a number of the format. -/
theorem roundRat_le (hy : IsExact y) (h : q ≤ y) : roundRat q ≤ y := by
  obtain hneg | hpos := le_or_gt q 0
  · exact (roundRat_nonpos hneg).trans hy.nonneg
  obtain ⟨e, he, ⟨-, hkept⟩ | hrounded⟩ := exists_isRounded hpos
  · rwa [hkept]
  obtain ⟨n, rfl⟩ | ⟨hleast, hbelow⟩ := hy.multiple_or_le e
  · exact hrounded.le n h
  · -- Then the number is the rational, and the least one with this unit.
    have heq : y = q := le_antisymm (hbelow.trans (he.le hleast)) h
    have hlow := he.le hleast
    rw [two_zpow_eq_mul] at hbelow hlow
    rw [heq]
    exact (hrounded.le _ (h.trans hbelow)).trans hlow

/-- Rounding does not go down beyond a number of the format. -/
theorem le_roundRat (hy : IsExact y) (h : y ≤ q) : y ≤ roundRat q := by
  obtain rfl | hpos := (hy.nonneg.trans h).eq_or_lt
  · exact h.trans (by decide +kernel)
  obtain ⟨e, he, ⟨-, hkept⟩ | hrounded⟩ := exists_isRounded hpos
  · rwa [hkept]
  obtain ⟨n, rfl⟩ | ⟨hleast, hbelow⟩ := hy.multiple_or_le e
  · exact hrounded.ge n h
  · have hlow := he.le hleast
    rw [two_zpow_eq_mul] at hlow hbelow
    exact hbelow.trans (hrounded.ge _ hlow)

/-- What is rounded to more than a number with a full significand is rounded at least to the next
    number. -/
theorem next_le_roundRat {n : ℕ} {k : ℤ} (hlow : 2 ^ (precision - 1) ≤ n) (hhigh : n < 2 ^ precision)
    (hk : minExponent ≤ k) (hlarge : k < maxExponent) (h : (n : ℚ) * 2 ^ k < roundRat q) :
    ((n + 1 : ℕ) : ℚ) * 2 ^ k ≤ roundRat q := by
  have hq : (n : ℚ) * 2 ^ k < q := by
    by_contra hle
    exact absurd (roundRat_le ⟨n, k, hhigh.le, hk, rfl⟩ (not_lt.1 hle)) (not_le.2 h)
  have hpower : (2 : ℚ) ^ (k + precision - 1) ≤ n * 2 ^ k := by
    rw [two_zpow_eq_mul]
    gcongr
  obtain ⟨e, he, hcases⟩ := exists_isRounded (lt_of_le_of_lt (by positivity) hq)
  have hke : k ≤ e := by
    have hbetween := (zpow_lt_zpow_iff_right₀ one_lt_two).1 ((hpower.trans_lt hq).trans he.lt)
    omega
  obtain ⟨hmax, hkept⟩ | ⟨⟨m, hm⟩, -, -⟩ := hcases
  · -- Beyond the format there is room for the next number.
    rw [hkept]
    refine le_trans ?_ (he.le (lt_of_lt_of_le (by decide) hmax))
    calc ((n + 1 : ℕ) : ℚ) * 2 ^ k ≤ ((2 ^ precision : ℕ) : ℚ) * 2 ^ (e - 1) := by
          gcongr
          · exact hhigh
          · exact one_le_two
          · omega
      _ = 2 ^ (e + precision - 1) := by
          rw [Nat.cast_pow, Nat.cast_ofNat, ← zpow_natCast, ← zpow_add₀ two_ne_zero]
          congr 1
          omega
  · obtain ⟨m', hm'⟩ := exists_mul_zpow m hke
    rw [hm, hm'] at h ⊢
    have hunit : (0 : ℚ) < 2 ^ k := by positivity
    have hlt : (n : ℚ) < m' := lt_of_mul_lt_mul_right h hunit.le
    gcongr
    exact_mod_cast hlt

end CompileCommands.Binary64
