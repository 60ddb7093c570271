/-
  Reading UTF-8.

  * `Utf8.step`: one octet at a time; what comes out is a character, or `none` for a maximal
    part that no character begins with;
  * `Utf8.parts`: the characters and ill-formed parts of a sequence of octets;
  * `Utf8.decode?`: the text, if all of it is well formed;
  * `Utf8.decodeReplacing`: the text with one replacement character for each ill-formed part.
-/
namespace CompileCommands.Text

/-- Octets. -/
abbrev Bytes := List UInt8

/-- What stands for a part of the input that is no character. -/
def replacement : Char := '\uFFFD'

/-- The octets of a text in UTF-8. -/
def utf8Bytes (s : String) : Bytes :=
  s.toList.flatMap String.utf8EncodeChar

namespace Utf8

/-! ## One octet -/

/-- Where a reader stands between octets. -/
inductive State where
  /-- Between characters. -/
  | start
  /-- `owed + 1` octets are missing; the next must lie between `low` and `high`, and `value`
      is made of the bits so far. -/
  | within (owed : Nat) (low high : Nat) (value : Nat)

/-- The first octet of a character. The bounds of the second one exclude forms longer than
    needed, surrogates, and what lies beyond the last code point. -/
def first (b : Nat) : State × List (Option Char) :=
  if b < 0x80 then (.start, [some (Char.ofNat b)])
  else if 0xC2 ≤ b ∧ b ≤ 0xDF then (.within 0 0x80 0xBF (b - 0xC0), [])
  else if b = 0xE0 then (.within 1 0xA0 0xBF 0, [])
  else if b = 0xED then (.within 1 0x80 0x9F 0xD, [])
  else if 0xE1 ≤ b ∧ b ≤ 0xEF then (.within 1 0x80 0xBF (b - 0xE0), [])
  else if b = 0xF0 then (.within 2 0x90 0xBF 0, [])
  else if 0xF1 ≤ b ∧ b ≤ 0xF3 then (.within 2 0x80 0xBF (b - 0xF0), [])
  else if b = 0xF4 then (.within 2 0x80 0x8F 4, [])
  else (.start, [none])

/-- One octet: the state after it and what it completes. An octet that cannot go on ends an
    ill-formed part and is read again as a first one. -/
def step : State → Nat → State × List (Option Char)
  | .start, b => first b
  | .within owed low high value, b =>
    if low ≤ b ∧ b ≤ high then
      match owed with
      | 0 => (.start, [some (Char.ofNat (value * 64 + (b - 0x80)))])
      | owed + 1 => (.within owed 0x80 0xBF (value * 64 + (b - 0x80)), [])
    else
      let (next, out) := first b
      (next, none :: out)

/-! ## A sequence of octets -/

/-- What is read from a state on; an unfinished character at the end is ill formed. -/
def partsFrom : State → Bytes → List (Option Char)
  | .start, [] => []
  | .within .., [] => [none]
  | state, b :: rest =>
    let (next, out) := step state b.toNat
    out ++ partsFrom next rest

/-- The characters and the ill-formed parts (`none`) of a sequence. -/
def parts (bytes : Bytes) : List (Option Char) :=
  partsFrom .start bytes

/-- The text that a well-formed sequence stands for. -/
def decode? (bytes : Bytes) : Option (List Char) :=
  (parts bytes).mapM id

/-- The text, with a replacement character for each ill-formed part. -/
def decodeReplacing (bytes : Bytes) : List Char :=
  (parts bytes).map (·.getD replacement)

/-! ## The mark in front -/

/-- The byte order mark. -/
def mark : Bytes := [0xEF, 0xBB, 0xBF]

/-- The octets without one mark in front. A file that ends inside the mark holds no text. -/
def withoutMark (bytes : Bytes) : Bytes :=
  if mark.isPrefixOf bytes then bytes.drop mark.length
  else if bytes.isPrefixOf mark then []
  else bytes

end Utf8
end CompileCommands.Text
