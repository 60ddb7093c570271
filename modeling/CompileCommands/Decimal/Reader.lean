/-
  Reading a decimal number from a command line.

  * `Decimal.isPadding`: the white space allowed around a number;
  * `Decimal.plainDigits`: digits of any script as ASCII ones;
  * `Decimal.withoutSeparators?`: underscores are dropped, each of which must stand between
    two digits;
  * `Decimal.read?`: sign, digits with an optional point, optional exponent; or infinity or NaN
    by name, in any case of letters.
-/
import CompileCommands.Decimal.Binary64
import CompileCommands.Text.Blank
import CompileCommands.Text.Digit

namespace CompileCommands.Decimal

open Text

/-! ## Preparation -/

/-- The character may stand around a number: white space, but no information separator. -/
def isPadding (c : Char) : Bool :=
  isBlank c && !inRanges [(0x1C, 0x1F)] c.toNat

/-- The text with the digits of any script as ASCII ones. -/
def plainDigits (s : List Char) : List Char :=
  s.map fun c =>
    match digitValue? c with
    | some d => Char.ofNat (48 + d)
    | none => c

/-- The text without its underscores, if each stands between two digits; `afterDigit` says
    that a digit stands in front. -/
def withoutSeparators? (afterDigit : Bool) : List Char → Option (List Char)
  | [] => some []
  | '_' :: rest =>
    match rest with
    | c :: _ => if afterDigit && c.isDigit then withoutSeparators? false rest else none
    | [] => none
  | c :: rest => (withoutSeparators? c.isDigit rest).map (c :: ·)

/-! ## The grammar -/

/-- The digits in front and what follows. -/
def spanDigits (s : List Char) : List Char × List Char :=
  s.span Char.isDigit

/-- The value of ASCII digits. -/
def digitsValue (d : List Char) : Nat :=
  d.foldl (fun n c => 10 * n + (c.toNat - 48)) 0

/-- A sign in front: negative or not, and what follows. -/
def spanSign : List Char → Bool × List Char
  | '-' :: rest => (true, rest)
  | '+' :: rest => (false, rest)
  | rest => (false, rest)

/-- An exponent that ends the text. -/
def exponent? : List Char → Option Int
  | [] => some 0
  | c :: rest =>
    if c = 'e' ∨ c = 'E' then
      let (negative, rest) := spanSign rest
      match spanDigits rest with
      | (d@(_ :: _), []) => some (if negative then -(digitsValue d : Int) else digitsValue d)
      | _ => none
    else none

/-- An unsigned number: digits before or after a point, and an exponent. -/
def unsigned? (negative : Bool) (s : List Char) : Option Binary64 :=
  let (whole, rest) := spanDigits s
  let (fraction, rest) := match rest with
    | '.' :: rest => spanDigits rest
    | rest => ([], rest)
  if whole.isEmpty && fraction.isEmpty then none
  else (exponent? rest).map fun e =>
    Binary64.ofDecimal negative (digitsValue (whole ++ fraction)) (e - fraction.length)

/-- A number of the grammar, written in ASCII without separators or white space. -/
def number? (s : List Char) : Option Binary64 :=
  let (negative, rest) := spanSign s
  match String.ofList (rest.map Char.toLower) with
  | "inf" | "infinity" => some (.infinite negative)
  | "nan" => some .nan
  | _ => unsigned? negative rest

/-- The number that a text stands for. -/
def read? (s : String) : Option Binary64 :=
  let bare := dropRightWhile isPadding (s.toList.dropWhile isPadding)
  (withoutSeparators? false (plainDigits bare)).bind number?

end CompileCommands.Decimal
