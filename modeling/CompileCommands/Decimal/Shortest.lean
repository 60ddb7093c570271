/-
  The shortest decimal text of a binary64 number.

  * `Decimal.shortest`: the fewest digits that read back as the number and, of those, the
    nearest, a tie going to the even digit;
  * `Decimal.Notation`: where positional notation ends and how an exponent is written;
  * `Decimal.render`: the text of a number in a notation.
-/
import CompileCommands.Decimal.Binary64

namespace CompileCommands.Decimal

/-! ## Digits -/

/-- The reals that round to a finite number: the ends of an interval, and whether they
    belong to it. Below a power of two the neighbour is half as far. -/
structure Interval where
  low : Rat
  high : Rat
  closed : Bool

/-- The rational lies in the interval. -/
def Interval.contains (i : Interval) (q : Rat) : Bool :=
  if i.closed then decide (i.low ≤ q) && decide (q ≤ i.high)
  else decide (i.low < q) && decide (q < i.high)

/-- A power of two as a rational. -/
def twoPow (exponent : Int) : Rat :=
  if exponent ≥ 0 then (Nat.pow 2 exponent.toNat : Nat)
  else (1 : Rat) / (Nat.pow 2 (-exponent).toNat : Nat)

/-- A power of ten as a rational. -/
def tenPow (exponent : Int) : Rat :=
  if exponent ≥ 0 then (Nat.pow 10 exponent.toNat : Nat)
  else (1 : Rat) / (Nat.pow 10 (-exponent).toNat : Nat)

/-- The interval of `significand * 2 ^ exponent`. -/
def intervalOf (significand : Nat) (exponent : Int) : Interval :=
  let unit := twoPow exponent
  let below : Rat :=
    if significand = Nat.pow 2 (Binary64.precision - 1) ∧ exponent > Binary64.minExponent
    then 1 / 4 else 1 / 2
  { low := (significand - below) * unit
    high := (significand + 1 / 2) * unit
    closed := significand % 2 = 0 }

/-- The greatest `e` with `10 ^ e ≤ q`, searched from `guess` for at most `fuel` steps. -/
def floorLog10From (q : Rat) : (fuel : Nat) → (guess : Int) → Int
  | 0, guess => guess
  | fuel + 1, guess =>
    if q < tenPow guess then floorLog10From q fuel (guess - 1)
    else if tenPow (guess + 1) ≤ q then floorLog10From q fuel (guess + 1)
    else guess

/-- The point of the grid of `10 ^ place` in the interval that is nearest to `q`, if any. -/
def nearestOnGrid (i : Interval) (q : Rat) (place : Int) : Option Nat :=
  let scaled := q / tenPow place
  let lower := scaled.floor.toNat
  let upper := lower + 1
  let fits (n : Nat) : Bool := i.contains ((n : Rat) * tenPow place)
  let nearer : Nat :=
    let down := scaled - lower
    let up := upper - scaled
    if down < up then lower else if up < down then upper
    else if lower % 2 = 0 then lower else upper
  match fits lower, fits upper with
  | true, true => some nearer
  | true, false => some lower
  | false, true => some upper
  | false, false => none

/-- The first of the grids with `count`, `count + 1`, … digits that has a point in the
    interval: the point and its place. -/
def shortestFrom (i : Interval) (q : Rat) (top : Int) : (fuel count : Nat) → Nat × Int
  | 0, count => ((q / tenPow (top + 1 - count)).floor.toNat, top + 1 - count)
  | fuel + 1, count =>
    let place := top + 1 - count
    match nearestOnGrid i q place with
    | some n => (n, place)
    | none => shortestFrom i q top fuel (count + 1)

/-- The shortest digits of a positive number `significand * 2 ^ exponent` and the power of ten
    of the last one. -/
def shortest (significand : Nat) (exponent : Int) : Nat × Int :=
  let q : Rat := (significand : Rat) * twoPow exponent
  let guess : Int := ((Nat.log2 significand : Int) + exponent) * 3 / 10
  let top := floorLog10From q 400 guess
  shortestFrom (intervalOf significand exponent) q top 17 1

/-! ## Notation -/

/-- How a number is written. -/
structure Notation where
  /-- The least power of ten of the first digit in positional notation. -/
  leastPositional : Int
  /-- The greatest one. -/
  greatestPositional : Int
  /-- What follows the digits of an integral number in positional notation. -/
  integralEnd : String
  /-- The least count of digits in an exponent. -/
  exponentWidth : Nat

/-- The digits of a natural, without zeros at the end. -/
def significantDigits (n : Nat) : List Char :=
  ((Nat.toDigits 10 n).reverse.dropWhile (· = '0')).reverse

/-- Zeros. -/
def zeros (count : Nat) : List Char :=
  List.replicate count '0'

/-- Digits `d` whose first one has the power of ten `lead`, in positional notation. -/
def positional (style : Notation) (d : List Char) (lead : Int) : List Char :=
  if lead < 0 then '0' :: '.' :: zeros (-lead - 1).toNat ++ d
  else
    let whole := lead.toNat + 1
    if d.length ≤ whole then d ++ zeros (whole - d.length) ++ style.integralEnd.toList
    else d.take whole ++ '.' :: d.drop whole

/-- The same with an exponent. -/
def exponential (style : Notation) (d : List Char) (lead : Int) : List Char :=
  let sign := if lead < 0 then '-' else '+'
  let digits := Nat.toDigits 10 lead.natAbs
  let mantissa := match d with
    | first :: more@(_ :: _) => first :: '.' :: more
    | d => d
  mantissa ++ 'e' :: sign :: zeros (style.exponentWidth - digits.length) ++ digits

/-- The text of a number. -/
def render (style : Notation) : Binary64 → String
  | .nan => "nan"
  | .infinite negative => if negative then "-inf" else "inf"
  | .finite negative significand exponent =>
    let body :=
      if significand = 0 then '0' :: style.integralEnd.toList
      else
        let (n, place) := shortest significand exponent
        let lead := place + (Nat.toDigits 10 n).length - 1
        let d := significantDigits n
        if style.leastPositional ≤ lead ∧ lead ≤ style.greatestPositional
        then positional style d lead else exponential style d lead
    String.ofList (if negative then '-' :: body else body)

/-- Numbers are positional from `0.0001` to below `10 ^ 16`, an integral one ends in `.0`, and
    an exponent has a sign and at least two digits. -/
def plain : Notation where
  leastPositional := -4
  greatestPositional := 15
  integralEnd := ".0"
  exponentWidth := 2

end CompileCommands.Decimal
