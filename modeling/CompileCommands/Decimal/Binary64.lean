/-
  Numbers of the binary64 format, in exact arithmetic.

  * `Binary64`: finite numbers by sign, significand and exponent, two infinities, and NaN;
  * `ofRatio`: the nearest number to a ratio, a tie going to the even significand, too small a
    ratio to a zero and too large a one to an infinity;
  * `ofDecimal`: the nearest number to digits and a power of ten;
  * `timesNat`, `divNat`, `truncate?`: arithmetic with one rounding, and the integer part;
  * `roundRat`: a rational rounded to the format.
-/
namespace CompileCommands

/-- A number of the binary64 format. -/
inductive Binary64 where
  /-- `significand * 2 ^ exponent`, negated if `negative`. -/
  | finite (negative : Bool) (significand : Nat) (exponent : Int)
  /-- An infinity. -/
  | infinite (negative : Bool)
  /-- No number. -/
  | nan
  deriving DecidableEq, Repr, Inhabited

namespace Binary64

/-! ## The format -/

/-- Binary digits of a significand. -/
def precision : Nat := 53

/-- The exponent of the numbers nearest to zero. -/
def minExponent : Int := -1074

/-- The greatest exponent of a finite number. -/
def maxExponent : Int := 971

/-! ## Rounding -/

/-- `num / den` to the nearest integer, a half to the even one. -/
def roundHalfEven (num den : Nat) : Nat :=
  let quotient := num / den
  let twice := 2 * (num % den)
  if twice > den ∨ (twice = den ∧ quotient % 2 = 1) then quotient + 1 else quotient

/-- `num / den / 2 ^ exponent` as a ratio of naturals. -/
def scaled (num den : Nat) (exponent : Int) : Nat × Nat :=
  if exponent ≥ 0 then (num, den * Nat.pow 2 exponent.toNat)
  else (num * Nat.pow 2 (-exponent).toNat, den)

/-- The greatest `e` with `2 ^ e ≤ num / den`, for positive arguments. -/
def floorLog2 (num den : Nat) : Int :=
  let guess : Int := (Nat.log2 num : Int) - Nat.log2 den
  let (n, d) := scaled num den guess
  if n ≥ d then guess else guess - 1

/-- The nearest number to `num / den`; `den` is positive. -/
def ofRatio (negative : Bool) (num den : Nat) : Binary64 :=
  if num = 0 then .finite negative 0 minExponent
  else
    let exponent := max (floorLog2 num den - (precision - 1)) minExponent
    let (n, d) := scaled num den exponent
    let significand := roundHalfEven n d
    let (significand, exponent) :=
      if significand = Nat.pow 2 precision then (Nat.pow 2 (precision - 1), exponent + 1)
      else (significand, exponent)
    if exponent > maxExponent then .infinite negative
    else .finite negative significand exponent

/-- The nearest number to `digits * 10 ^ exponent`. Exponents far beyond the format are
    decided by size, without computing the power. -/
def ofDecimal (negative : Bool) (digits : Nat) (exponent : Int) : Binary64 :=
  let size := (Nat.log2 digits : Int) / 4 + exponent
  if digits = 0 then .finite negative 0 minExponent
  else if size > 400 then .infinite negative
  else if size + (Nat.log2 digits : Int) < -1500 then .finite negative 0 minExponent
  else if exponent ≥ 0 then ofRatio negative (digits * Nat.pow 10 exponent.toNat) 1
  else ofRatio negative digits (Nat.pow 10 (-exponent).toNat)

/-- The nearest number to an integer. -/
def ofInt (n : Int) : Binary64 :=
  ofRatio (decide (n < 0)) n.natAbs 1

/-! ## Values -/

/-- The size of `significand * 2 ^ exponent` as a ratio of naturals. -/
def ratio (significand : Nat) (exponent : Int) : Nat × Nat :=
  if exponent ≥ 0 then (significand * Nat.pow 2 exponent.toNat, 1)
  else (significand, Nat.pow 2 (-exponent).toNat)

/-- The value of a finite number. -/
def toRat? : Binary64 → Option Rat
  | .finite negative significand exponent =>
    let (num, den) := ratio significand exponent
    let size : Rat := (num : Rat) / (den : Rat)
    some (if negative then -size else size)
  | _ => none

/-- The rational rounded to the format; beyond the format it is kept. -/
def roundRat (q : Rat) : Rat :=
  ((ofRatio (decide (q.num < 0)) q.num.natAbs q.den).toRat?).getD q

/-! ## Arithmetic -/

/-- A number times a positive natural. -/
def timesNat : Binary64 → Nat → Binary64
  | .finite negative significand exponent, k =>
    let (num, den) := ratio significand exponent
    ofRatio negative (num * k) den
  | x, _ => x

/-- A number divided by a positive natural. -/
def divNat : Binary64 → Nat → Binary64
  | .finite negative significand exponent, k =>
    let (num, den) := ratio significand exponent
    ofRatio negative num (den * k)
  | x, _ => x

/-- The number is at most zero. NaN is not. -/
def nonPositive : Binary64 → Bool
  | .finite negative significand _ => negative || significand == 0
  | .infinite negative => negative
  | .nan => false

/-- The integer part of a finite number, toward zero. -/
def truncate? : Binary64 → Option Int
  | .finite negative significand exponent =>
    let (num, den) := ratio significand exponent
    let size : Int := (num / den : Nat)
    some (if negative then -size else size)
  | _ => none

end Binary64
end CompileCommands
