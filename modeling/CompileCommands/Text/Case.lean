/-
  Upper and lower case of a text, for all of Unicode.

  * `lowerChar`, `upperChar`: the mapping of one character, to one or several;
  * `lower`: each character by itself, but a capital sigma at the end of a word becomes the
    final form;
  * `upper`: each character by itself.
-/
import CompileCommands.Text.CaseTable
import CompileCommands.Text.Ranges

namespace CompileCommands.Text

/-! ## One character -/

/-- The characters that the tables give for `c`: its expansion, else its run's image, else
    itself. -/
def mapCase (expansions : List (Nat × List Nat)) (runs : List CaseRun) (c : Char) : List Char :=
  match expansions.lookup c.toNat with
  | some points => points.map Char.ofNat
  | none =>
    match runs.find? (·.covers c.toNat) with
    | some run => [Char.ofNat (c.toNat + run.shift).toNat]
    | none => [c]

/-- The lower case of a character, whatever stands around it. -/
def lowerChar (c : Char) : List Char :=
  mapCase lowerExpansions lowerRuns c

/-- The upper case of a character. -/
def upperChar (c : Char) : List Char :=
  mapCase upperExpansions upperRuns c

/-! ## Texts -/

/-- The character does not count as the neighbour of a sigma. -/
def isCaseIgnorable (c : Char) : Bool :=
  inRanges caseIgnorableRanges c.toNat

/-- The character is a letter with case. -/
def isCased (c : Char) : Bool :=
  inRanges casedRanges c.toNat

/-- A letter with case comes next, ignorable characters aside. -/
def startsCased (s : List Char) : Bool :=
  match s.dropWhile isCaseIgnorable with
  | [] => false
  | c :: _ => isCased c

/-- Lower case after a context: `afterCased` says that the nearest character before, ignorable
    ones aside, is a letter with case. A capital sigma between such a letter and none is final. -/
def lowerAfter (afterCased : Bool) : List Char → List Char
  | [] => []
  | c :: rest =>
    (if c = 'Σ' then [if afterCased && !startsCased rest then 'ς' else 'σ'] else lowerChar c) ++
      lowerAfter (if isCaseIgnorable c then afterCased else isCased c) rest

/-- The lower case of a list of characters. -/
def lowerChars (s : List Char) : List Char :=
  lowerAfter false s

/-- The upper case of a list of characters. -/
def upperChars (s : List Char) : List Char :=
  s.flatMap upperChar

/-- The lower case of a text. -/
def lower (s : String) : String :=
  String.ofList (lowerChars s.toList)

/-- The upper case of a text. -/
def upper (s : String) : String :=
  String.ofList (upperChars s.toList)

end CompileCommands.Text
