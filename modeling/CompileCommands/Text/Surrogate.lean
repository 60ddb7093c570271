/-
  Surrogates that stand alone.

  A text may hold one half of a surrogate pair without the other: an escape in a JSON document
  writes one, and an octet of an argument or a path that is no UTF-8 is read as one of
  U+DC80 to U+DCFF. `Char` leaves the code points U+D800 to U+DFFF out, so each is kept as the
  character `surrogateShift` code points further up, in a block of plane 13 that is not
  assigned. A text that holds characters of that block in their own right is not told apart.

  * `surrogateChar`, `surrogate?`: the character kept for a surrogate, and back;
  * `EncodingError`: the surrogates at which an encoding stops, with `encodingError?`;
  * `utf8Error?`: why a text has no form in UTF-8, if it has none;
  * `octetsError?`: the same for a path or the name of a variable, where a surrogate may stand
    for an octet.
-/
import CompileCommands.Text.Hex

namespace CompileCommands.Text

/-! ## Characters -/

/-- How far above a surrogate the character lies that is kept for it. -/
def surrogateShift : Nat := 0xD0000

/-- The code point is a surrogate. -/
def isSurrogate (unit : Nat) : Bool :=
  0xD800 ≤ unit && unit < 0xE000

/-- The character that is kept for a surrogate. -/
def surrogateChar (unit : Nat) : Char :=
  Char.ofNat (surrogateShift + unit)

/-- The surrogate that a character is kept for. -/
def surrogate? (c : Char) : Option Nat :=
  let unit := c.toNat - surrogateShift
  if isSurrogate unit then some unit else none

/-- The surrogate stands for an octet. -/
def isOctet (unit : Nat) : Bool :=
  0xDC80 ≤ unit && unit ≤ 0xDCFF

/-! ## Encoding -/

/-- Surrogates that an encoding refuses. -/
structure EncodingError where
  /-- The first of them. -/
  unit : Nat
  /-- Where it stands. -/
  start : Nat
  /-- Where what follows them begins. -/
  stop : Nat
  deriving DecidableEq, Repr

/-- The text of an encoding error. -/
def EncodingError.message (error : EncodingError) : String :=
  let place :=
    if error.stop = error.start + 1 then
      " '\\u" ++ String.ofList (hexPadded 4 error.unit) ++ "' in position " ++ toString error.start
    else "s in position " ++ toString error.start ++ "-" ++ toString (error.stop - 1)
  "'utf-8' codec can't encode character" ++ place ++ ": surrogates not allowed"

/-- A character that is kept for a surrogate that is refused. -/
def isRefusedChar (isRefused : Nat → Bool) (c : Char) : Bool :=
  (surrogate? c).any isRefused

/-- The first surrogate that is refused, with the surrogates right behind it. -/
def encodingError? (isRefused : Nat → Bool) (s : String) : Option EncodingError :=
  let before := s.toList.takeWhile (!isRefusedChar isRefused ·)
  let run := (s.toList.dropWhile (!isRefusedChar isRefused ·)).takeWhile
    fun c => (surrogate? c).isSome
  (run.head?.bind surrogate?).map fun unit =>
    ⟨unit, before.length, before.length + run.length⟩

/-- Why a text has no form in UTF-8. -/
def utf8Error? (s : String) : Option EncodingError :=
  encodingError? (fun _ => true) s

/-- Why a path or a name has no form in octets. -/
def octetsError? (s : String) : Option EncodingError :=
  encodingError? (fun unit => !isOctet unit) s

end CompileCommands.Text
