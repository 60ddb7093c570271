/-
  Versions of packages, and their order.

  * `Version`: epoch, release, the marks of pre-, post- and development releases, local parts;
  * `Version.read?`: the version that a text writes; spellings differ in case, in separators and
    in the names of the marks;
  * `Version.compare`: the order of versions; trailing zeros of a release do not count, a
    pre-release comes before its release and a post-release after it.
-/
import CompileCommands.Text.Blank
import CompileCommands.Text.Case

namespace CompileCommands

open Text

/-! ## Versions -/

namespace Version

/-- A mark of a release, with its number. -/
structure Mark where
  label : String
  number : Nat
  deriving DecidableEq, Repr

/-- A part of a local version. -/
inductive LocalPart where
  | number (value : Nat)
  | word (text : String)
  deriving DecidableEq, Repr

end Version

open Version in
/-- A version. -/
structure Version where
  /-- The epoch. -/
  epoch : Nat := 0
  /-- The numbers of the release. -/
  release : List Nat
  /-- The mark of a pre-release. -/
  pre : Option Mark := none
  /-- The mark of a post-release. -/
  post : Option Mark := none
  /-- The mark of a development release. -/
  dev : Option Mark := none
  /-- The parts of the local version. -/
  localParts : List LocalPart := []
  deriving DecidableEq, Repr

namespace Version

/-! ## Characters -/

/-- The character is an ASCII digit. -/
def isDigit (c : Char) : Bool := '0' ≤ c && c ≤ '9'

/-- The value of an ASCII digit. -/
def digitValue (c : Char) : Nat := c.toNat - '0'.toNat

/-- The lower-case ASCII letter that a character stands for: besides the ASCII letters, the
    long s, the Kelvin sign and the Turkish forms of i count as the letters they look like. -/
def letterOf (c : Char) : Char :=
  if c = 'ı' ∨ c = 'İ' then 'i'
  else if c = 'ſ' then 's'
  else if c = '\u212A' then 'k'
  else if 'A' ≤ c ∧ c ≤ 'Z' then Char.ofNat (c.toNat + 32)
  else c

/-- The character may stand in a local version. -/
def isLocal (c : Char) : Bool :=
  isDigit c || ('a' ≤ letterOf c && letterOf c ≤ 'z')

/-- The character may separate parts. -/
def isSeparator (c : Char) : Bool := c = '-' || c = '_' || c = '.'

/-- Without a separator in front. -/
def afterSeparator : List Char → List Char
  | [] => []
  | c :: rest => if isSeparator c then rest else c :: rest

/-! ## Numbers -/

/-- The number that digits write, after a part of it. -/
def numberFrom (value : Nat) (digits : List Char) : Nat :=
  digits.foldl (fun n c => n * 10 + digitValue c) value

/-- The number in front, and what follows. -/
def number? (s : List Char) : Option (Nat × List Char) :=
  let digits := s.takeWhile isDigit
  if digits.isEmpty then none else some (numberFrom 0 digits, s.dropWhile isDigit)

/-- Numbers between dots, the first of which is known in part, and what follows. -/
def numbersFrom (value : Nat) : List Char → List Nat × List Char
  | '.' :: c :: rest =>
    if isDigit c then
      let (numbers, rest) := numbersFrom (digitValue c) rest
      (value :: numbers, rest)
    else ([value], '.' :: c :: rest)
  | c :: rest =>
    if isDigit c then numbersFrom (value * 10 + digitValue c) rest
    else ([value], c :: rest)
  | [] => ([value], [])

/-- The numbers of a release, and what follows. -/
def release? : List Char → Option (List Nat × List Char)
  | [] => none
  | c :: rest => if isDigit c then some (numbersFrom (digitValue c) rest) else none

/-- The epoch, if there is one, and what follows. -/
def epochOf (s : List Char) : Nat × List Char :=
  match number? s with
  | some (n, '!' :: rest) => (n, rest)
  | _ => (0, s)

/-! ## Marks -/

/-- The names of pre-releases; a name comes before its own beginnings. -/
def preNames : List String := ["alpha", "a", "beta", "b", "preview", "pre", "c", "rc"]

/-- The names of post-releases; a name comes before its own beginnings. -/
def postNames : List String := ["post", "rev", "r"]

/-- The names of development releases. -/
def devNames : List String := ["dev"]

/-- The label that a name of a mark stands for. -/
def labelOf (name : String) : String :=
  if name = "alpha" then "a"
  else if name = "beta" then "b"
  else if name = "c" ∨ name = "pre" ∨ name = "preview" then "rc"
  else if name = "rev" ∨ name = "r" then "post"
  else name

/-- The text begins with a name, in either case. -/
def beginsWith (name : String) (s : List Char) : Bool :=
  name.toList.isPrefixOf (s.map letterOf)

/-- A mark by one of some names, with separators around the name, and what follows. A missing
    number is zero. -/
def mark? (names : List String) (s : List Char) : Option (Mark × List Char) :=
  let s := afterSeparator s
  (names.find? fun name => beginsWith name s).map fun name =>
    let written := String.ofList (s.take name.length)
    let rest := afterSeparator (s.drop name.length)
    let (n, rest) := (number? rest).getD (0, rest)
    (⟨labelOf (lower written), n⟩, rest)

/-- The number of a post-release after a hyphen alone, and what follows. -/
def bareNumber? : List Char → Option (Mark × List Char)
  | '-' :: rest => (number? rest).map fun (n, rest) => (⟨"post", n⟩, rest)
  | _ => none

/-- A mark, if there is one, and what follows. -/
def optional (found : Option (Mark × List Char)) (s : List Char) : Option Mark × List Char :=
  match found with
  | some (mark, rest) => (some mark, rest)
  | none => (none, s)

/-! ## Local parts -/

/-- A part of a local version from its characters. -/
def LocalPart.ofChars (s : List Char) : LocalPart :=
  if s.all isDigit then .number (numberFrom 0 s) else .word (lower (String.ofList s))

/-- The parts of a local version up to the end; of the first one, the characters read so far
    are given in reverse. -/
def localParts? (part : List Char) : List Char → Option (List LocalPart)
  | [] => if part.isEmpty then none else some [.ofChars part.reverse]
  | c :: rest =>
    if isLocal c then localParts? (c :: part) rest
    else if isSeparator c ∧ ¬part.isEmpty then
      (localParts? [] rest).map (.ofChars part.reverse :: ·)
    else none

/-- The local version in what is left of a text, which may be nothing. -/
def localVersion? : List Char → Option (List LocalPart)
  | [] => some []
  | '+' :: rest => localParts? [] rest
  | _ => none

/-! ## Reading -/

/-- Without the letter that may stand before a version. -/
def afterLetter : List Char → List Char
  | 'v' :: rest | 'V' :: rest => rest
  | s => s

/-- The version that a text without white space around it writes. -/
def ofChars? (s : List Char) : Option Version := do
  let (epoch, s) := epochOf (afterLetter s)
  let (release, s) ← release? s
  let (pre, s) := optional (mark? preNames s) s
  let (post, s) := optional (bareNumber? s <|> mark? postNames s) s
  let (dev, s) := optional (mark? devNames s) s
  let localParts ← localVersion? s
  return { epoch, release, pre, post, dev, localParts }

/-- The version that a text writes. -/
def read? (text : String) : Option Version :=
  ofChars? (trim text.toList)

/-! ## Order -/

/-- A value, or what lies below or above all values. -/
inductive Bound where
  | below
  | exactly (mark : Mark)
  | above
  deriving DecidableEq, Repr

/-- The order of marks: by label, then by number. -/
def Mark.compare (a b : Mark) : Ordering :=
  (Ord.compare a.label b.label).then (Ord.compare a.number b.number)

/-- The order of bounds. -/
def Bound.compare : Bound → Bound → Ordering
  | below, below => .eq
  | below, _ => .lt
  | _, below => .gt
  | above, above => .eq
  | above, _ => .gt
  | _, above => .lt
  | exactly a, exactly b => a.compare b

/-- The order of local parts: words come before numbers. -/
def LocalPart.compare : LocalPart → LocalPart → Ordering
  | word a, word b => Ord.compare a b
  | word _, number _ => .lt
  | number _, word _ => .gt
  | number a, number b => Ord.compare a b

/-- A release without zeros at the end. -/
def significant (release : List Nat) : List Nat :=
  (release.reverse.dropWhile (· = 0)).reverse

/-- Where a version stands among the pre-releases: a development release of the release itself
    comes before them, the release and its post-releases after them. -/
def preBound (v : Version) : Bound :=
  match v.pre with
  | some mark => .exactly mark
  | none => if v.post.isNone ∧ v.dev.isSome then .below else .above

/-- Where a version stands among the post-releases: without a mark, before them. -/
def postBound (v : Version) : Bound := (v.post.map Bound.exactly).getD .below

/-- Where a version stands among the development releases: without a mark, after them. -/
def devBound (v : Version) : Bound := (v.dev.map Bound.exactly).getD .above

/-- The order of versions. -/
def compare (a b : Version) : Ordering :=
  (Ord.compare a.epoch b.epoch)
    |>.then (List.compareLex Ord.compare (significant a.release) (significant b.release))
    |>.then (a.preBound.compare b.preBound)
    |>.then (a.postBound.compare b.postBound)
    |>.then (a.devBound.compare b.devBound)
    |>.then (List.compareLex LocalPart.compare a.localParts b.localParts)

end Version
end CompileCommands
