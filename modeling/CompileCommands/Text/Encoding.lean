/-
  The encodings in which a shell writes its output.

  * `Utf16.encode`, `Utf16.decode`: little-endian UTF-16; a surrogate without its partner, and
    what is left over at the end, become a replacement character each;
  * `Encoding.decode`: the text of some octets in one of the encodings, never failing.
-/
import CompileCommands.Text.Utf8

namespace CompileCommands.Text

namespace Utf16

/-! ## Writing -/

/-- The two octets of a unit, the low one first. -/
def unitBytes (unit : Nat) : Bytes :=
  [UInt8.ofNat (unit % 256), UInt8.ofNat (unit / 256)]

/-- The units of a character: one, or two surrogates beyond the first plane. -/
def units (c : Char) : List Nat :=
  let n := c.toNat
  if n < 0x10000 then [n]
  else [0xD800 + (n - 0x10000) / 0x400, 0xDC00 + (n - 0x10000) % 0x400]

/-- A text in little-endian UTF-16. -/
def encode (s : List Char) : Bytes :=
  s.flatMap fun c => (units c).flatMap unitBytes

/-! ## Reading -/

/-- The unit made of two octets, the low one first. -/
def unitOf (low high : UInt8) : Nat :=
  low.toNat + 256 * high.toNat

/-- The unit is the first half of a pair. -/
def isHighSurrogate (unit : Nat) : Bool :=
  0xD800 ≤ unit && unit < 0xDC00

/-- The unit is the second half of a pair. -/
def isLowSurrogate (unit : Nat) : Bool :=
  0xDC00 ≤ unit && unit < 0xE000

/-- The character that a pair of surrogates stands for. -/
def pairChar (high low : Nat) : Char :=
  Char.ofNat (0x10000 + (high - 0xD800) * 0x400 + (low - 0xDC00))

/-- The text of little-endian UTF-16. A first half without room for a second one takes the
    rest of the input with it. -/
def decode : Bytes → List Char
  | [] => []
  | [_] => [replacement]
  | a :: b :: rest =>
    let unit := unitOf a b
    if isHighSurrogate unit then
      match rest with
      | c :: d :: rest' =>
        if isLowSurrogate (unitOf c d) then pairChar unit (unitOf c d) :: decode rest'
        else replacement :: decode (c :: d :: rest')
      | _ => [replacement]
    else if isLowSurrogate unit then replacement :: decode rest
    else Char.ofNat unit :: decode rest

end Utf16

/-! ## A choice of encoding -/

/-- An encoding of text. -/
inductive Encoding where
  /-- Little-endian UTF-16. -/
  | utf16
  /-- UTF-8. -/
  | utf8
  /-- One octet for each of the first 256 code points. -/
  | latin1
  deriving DecidableEq, Repr

/-- The text of some octets, with replacement characters where they are ill formed. -/
def Encoding.decode : Encoding → Bytes → List Char
  | .utf16, bytes => Utf16.decode bytes
  | .utf8, bytes => Utf8.decodeReplacing bytes
  | .latin1, bytes => bytes.map fun b => Char.ofNat b.toNat

end CompileCommands.Text
