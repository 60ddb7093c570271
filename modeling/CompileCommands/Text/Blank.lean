/-
  White space and its removal.

  * `isBlank`: the white space of every script, the four information separators included
    and the zero-width space not;
  * `trimLeft`, `trimRight`, `trim`: a text without the white space at its ends.
-/
import CompileCommands.Text.Ranges

namespace CompileCommands.Text

/-! ## White space -/

/-- The code points of white space. -/
def blankRanges : List (Nat × Nat) :=
  [(0x09, 0x0D), (0x1C, 0x20), (0x85, 0x85), (0xA0, 0xA0), (0x1680, 0x1680), (0x2000, 0x200A),
    (0x2028, 0x2029), (0x202F, 0x202F), (0x205F, 0x205F), (0x3000, 0x3000)]

/-- The character is white space. -/
def isBlank (c : Char) : Bool :=
  inRanges blankRanges c.toNat

/-! ## Removal at the ends -/

/-- Without the characters at the end that satisfy `p`. -/
def dropRightWhile (p : Char → Bool) (s : List Char) : List Char :=
  (s.reverse.dropWhile p).reverse

/-- Without the white space in front. -/
def trimLeft (s : List Char) : List Char :=
  s.dropWhile isBlank

/-- Without the white space at the end. -/
def trimRight (s : List Char) : List Char :=
  dropRightWhile isBlank s

/-- Without the white space at either end. -/
def trim (s : List Char) : List Char :=
  trimRight (trimLeft s)

end CompileCommands.Text
