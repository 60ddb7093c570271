/-
  Reading JSON.

  * `Json.Reader.value`: one value in front of a text, with what follows it;
  * `Json.read`: a whole text as one value.

  Beyond the standard, `NaN`, `Infinity` and `-Infinity` are numbers; a repeated name in an
  object keeps its first place and takes its last value; and nesting is limited, while the digits
  of an integer are not. White space is space, tab, line feed and carriage return, and a text holds
  no raw control character.
-/
import CompileCommands.Json.Value
import CompileCommands.Text.Hex
import CompileCommands.Text.Surrogate

namespace CompileCommands.Json

open Text

/-- Why a text is no JSON value. -/
inductive ReadError where
  /-- The text does not follow the grammar. -/
  | malformed
  /-- Lists (or objects, if `inObject`) are nested too deeply. -/
  | tooDeep (inObject : Bool)
  deriving DecidableEq, Repr

namespace Reader

/-- How deeply lists and objects may be nested: what the callers of a reader leave of a limit of
    1000 on recursion. A caller that stands deeper leaves less. The digits of an integer have no
    limit, as if none were set for conversions. -/
def nestingLimit : Nat := 990

/-! ## Pieces -/

/-- Without the white space in front. -/
def skipBlanks (s : List Char) : List Char :=
  s.dropWhile fun c => c = ' ' || c = '\t' || c = '\n' || c = '\r'

/-- What follows a word in front of the text. -/
def after? (word s : List Char) : Option (List Char) :=
  if word.isPrefixOf s then some (s.drop word.length) else none

/-- Four hexadecimal digits. -/
def unit? : List Char → Option (Nat × List Char)
  | a :: b :: c :: d :: rest => do
    let a ← hexValue? a
    let b ← hexValue? b
    let c ← hexValue? c
    let d ← hexValue? d
    some (((a * 16 + b) * 16 + c) * 16 + d, rest)
  | _ => none

/-- The character of a short escape. -/
def escape? : Char → Option Char
  | '"' => some '"'
  | '\\' => some '\\'
  | '/' => some '/'
  | 'b' => some '\x08'
  | 'f' => some '\x0C'
  | 'n' => some '\n'
  | 'r' => some '\r'
  | 't' => some '\t'
  | _ => none

/-- The character of an escape by code, two of which may form a pair. A surrogate without its
    partner is kept. -/
def codeEscape? (s : List Char) : Option (Char × List Char) := do
  let (unit, rest) ← unit? s
  if 0xD800 ≤ unit ∧ unit < 0xDC00 then
    match rest with
    | '\\' :: 'u' :: more =>
      match unit? more with
      | some (low, rest') =>
        if 0xDC00 ≤ low ∧ low < 0xE000
        then some (Char.ofNat (0x10000 + (unit - 0xD800) * 0x400 + (low - 0xDC00)), rest')
        else some (surrogateChar unit, rest)
      | none => some (surrogateChar unit, rest)
    | _ => some (surrogateChar unit, rest)
  else if isSurrogate unit then some (surrogateChar unit, rest)
  else some (Char.ofNat unit, rest)

/-- The characters of a text up to its closing quote. -/
def textBody : (fuel : Nat) → List Char → Option (List Char × List Char)
  | 0, _ | _, [] => none
  | fuel + 1, c :: rest =>
    if c = '"' then some ([], rest)
    else if c = '\\' then
      match rest with
      | 'u' :: rest => do
        let (c, rest) ← codeEscape? rest
        let (body, rest) ← textBody fuel rest
        some (c :: body, rest)
      | e :: rest => do
        let c ← escape? e
        let (body, rest) ← textBody fuel rest
        some (c :: body, rest)
      | [] => none
    else if c.toNat < 0x20 then none
    else do
      let (body, rest) ← textBody fuel rest
      some (c :: body, rest)

/-- A text, after its opening quote. -/
def text? (s : List Char) : Option (String × List Char) :=
  (textBody s.length s).map fun (body, rest) => (String.ofList body, rest)

/-! ## Numbers -/

/-- The value of ASCII digits. -/
def digitsValue (d : List Char) : Nat :=
  d.foldl (fun n c => 10 * n + (c.toNat - 48)) 0

/-- The digits of an integer part: a zero alone, or digits that begin with another one. -/
def integerPart? : List Char → Option (List Char × List Char)
  | '0' :: rest => some (['0'], rest)
  | s =>
    match s.span Char.isDigit with
    | ([], _) => none
    | found => some found

/-- A fraction, if one is in front. -/
def fraction (s : List Char) : List Char × List Char :=
  match s with
  | '.' :: rest =>
    match rest.span Char.isDigit with
    | ([], _) => ([], s)
    | found => found
  | _ => ([], s)

/-- An exponent, if one is in front. -/
def exponent (s : List Char) : Option Int × List Char :=
  let digits (negative : Bool) (t : List Char) : Option Int × List Char :=
    match t.span Char.isDigit with
    | ([], _) => (none, s)
    | (d, rest) => (some (if negative then -(digitsValue d : Int) else digitsValue d), rest)
  match s with
  | 'e' :: '-' :: rest | 'E' :: '-' :: rest => digits true rest
  | 'e' :: '+' :: rest | 'E' :: '+' :: rest => digits false rest
  | 'e' :: rest | 'E' :: rest => digits false rest
  | _ => (none, s)

/-- A number without its sign. -/
def number? (negative : Bool) (s : List Char) : Option (Json × List Char) := do
  let (whole, rest) ← integerPart? s
  let (places, rest) := fraction rest
  let (power, rest) := exponent rest
  if places.isEmpty && power.isNone then
    let n : Int := digitsValue whole
    some (.int (if negative then -n else n), rest)
  else
    let value := Binary64.ofDecimal negative (digitsValue (whole ++ places))
      (power.getD 0 - places.length)
    some (.float value, rest)

/-- A value that is neither a text nor a list nor an object. -/
def scalar? (s : List Char) : Option (Json × List Char) :=
  match s with
  | '-' :: rest =>
    match after? "Infinity".toList rest with
    | some rest => some (.float (.infinite true), rest)
    | none => number? true rest
  | 'n' :: _ => (after? "null".toList s).map fun rest => (.null, rest)
  | 't' :: _ => (after? "true".toList s).map fun rest => (.bool true, rest)
  | 'f' :: _ => (after? "false".toList s).map fun rest => (.bool false, rest)
  | 'N' :: _ => (after? "NaN".toList s).map fun rest => (.float .nan, rest)
  | 'I' :: _ => (after? "Infinity".toList s).map fun rest => (.float (.infinite false), rest)
  | _ => number? false s

/-! ## Lists and objects -/

/-- What a reader gives: a value and what follows it. -/
abbrev Result := Except ReadError

/-- The grammar is not followed. -/
def malformed {α : Type} : Result α := .error .malformed

/-- The items of a list from its first one on, up to the closing bracket. -/
def items (item : List Char → Result (Json × List Char)) :
    (fuel : Nat) → List Char → Result (List Json × List Char)
  | 0, _ => malformed
  | fuel + 1, s => do
    let (first, rest) ← item s
    match skipBlanks rest with
    | ']' :: rest => .ok ([first], rest)
    | ',' :: rest => do
      let (more, rest) ← items item fuel (skipBlanks rest)
      .ok (first :: more, rest)
    | _ => malformed

/-- The members of an object from the first name on, up to the closing brace. -/
def members (item : List Char → Result (Json × List Char)) :
    (fuel : Nat) → List Char → Result (List (String × Json) × List Char)
  | 0, _ => malformed
  | fuel + 1, '"' :: s =>
    match text? s with
    | none => malformed
    | some (name, rest) =>
      match skipBlanks rest with
      | ':' :: rest => do
        let (value, rest) ← item (skipBlanks rest)
        match skipBlanks rest with
        | '\x7d' :: rest => .ok ([(name, value)], rest)
        | ',' :: rest => do
          let (more, rest) ← members item fuel (skipBlanks rest)
          .ok ((name, value) :: more, rest)
        | _ => malformed
      | _ => malformed
  | _, _ => malformed

/-- A value in front of the text, with at most `depth` levels of nesting. -/
def value (depth : Nat) (s : List Char) : Result (Json × List Char) :=
  match s with
  | '"' :: rest =>
    match text? rest with
    | some (body, rest) => .ok (.str body, rest)
    | none => malformed
  | '[' :: rest =>
    match depth with
    | 0 => .error (.tooDeep false)
    | depth + 1 =>
      match skipBlanks rest with
      | ']' :: rest => .ok (.arr [], rest)
      | rest => (items (value depth) rest.length rest).map fun (found, rest) => (.arr found, rest)
  | '\x7b' :: rest =>
    match depth with
    | 0 => .error (.tooDeep true)
    | depth + 1 =>
      match skipBlanks rest with
      | '\x7d' :: rest => .ok (.obj [], rest)
      | rest => (members (value depth) rest.length rest).map fun (found, rest) =>
          (.obj (Bindings.ofPairs found), rest)
  | s =>
    match scalar? s with
    | some found => .ok found
    | none => malformed

end Reader

/-- The value that a whole text stands for. -/
def read (s : List Char) : Except ReadError Json := do
  let (found, rest) ← Reader.value Reader.nestingLimit (Reader.skipBlanks s)
  if (Reader.skipBlanks rest).isEmpty then .ok found else .error .malformed

end CompileCommands.Json
