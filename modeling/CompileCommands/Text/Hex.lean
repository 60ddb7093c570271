/-
  Hexadecimal digits.

  * `hexDigit`: the lower-case digit of a number below sixteen;
  * `hexValue?`: the number of a digit in either case;
  * `hexPadded`: a number in a given count of digits;
  * `hexBytes`: bytes, two digits each; `bytesOfHex?` reads them back.
-/
namespace CompileCommands.Text

/-- The lower-case hexadecimal digit of `n % 16`. -/
def hexDigit (n : Nat) : Char :=
  let d := n % 16
  if d < 10 then Char.ofNat (48 + d) else Char.ofNat (87 + d)

/-- The value of a hexadecimal digit. -/
def hexValue? (c : Char) : Option Nat :=
  let n := c.toNat
  if 48 ≤ n ∧ n ≤ 57 then some (n - 48)
  else if 65 ≤ n ∧ n ≤ 70 then some (n - 55)
  else if 97 ≤ n ∧ n ≤ 102 then some (n - 87)
  else none

/-- The last `width` hexadecimal digits of a number. -/
def hexPadded : (width : Nat) → Nat → List Char
  | 0, _ => []
  | width + 1, n => hexPadded width (n / 16) ++ [hexDigit n]

/-- Bytes in hexadecimal, two digits each. -/
def hexBytes (bytes : List UInt8) : List Char :=
  bytes.flatMap fun b => hexPadded 2 b.toNat

/-- The bytes that pairs of hexadecimal digits write. -/
def bytesOfHex? : List Char → Option (List UInt8)
  | [] => some []
  | [_] => none
  | c :: d :: rest => do
    let high ← hexValue? c
    let low ← hexValue? d
    return UInt8.ofNat (high * 16 + low) :: (← bytesOfHex? rest)

end CompileCommands.Text
