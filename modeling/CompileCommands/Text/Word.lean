/-
  The words of a command line, by the quoting rules of POSIX shells.

  * `splitWords`: words are separated by spaces, tabs and line ends; single quotes keep all
    between them, double quotes all but a backslash before a double quote or a backslash;
    outside quotes a backslash keeps the next character;
  * `QuotingError`: what a line may lack at its end.
-/
namespace CompileCommands.Text

/-- A command line ends too early. -/
inductive QuotingError where
  /-- A quotation is not closed. -/
  | openQuotation
  /-- Nothing follows a backslash. -/
  | openEscape
  deriving DecidableEq, Repr

/-- Where a splitter stands between characters. -/
inductive WordState where
  /-- Between words. -/
  | between
  /-- Inside a word, outside quotes. -/
  | inside
  /-- Inside a quotation. -/
  | quoted (mark : Char)
  /-- After a backslash outside quotes. -/
  | escaped
  /-- After a backslash inside a double quotation. -/
  | quotedEscape (mark : Char)
  deriving DecidableEq, Repr

/-- The character separates words. -/
def isSeparator (c : Char) : Bool :=
  c = ' ' || c = '\t' || c = '\r' || c = '\n'

/-- The character begins and ends a quotation. -/
def isQuoteMark (c : Char) : Bool :=
  c = '\'' || c = '"'

/-- The words from a state on: `word` is what has been read of the present word, and `kept`
    says that a quotation in it makes it a word even if it is empty. -/
def wordsFrom (word : List Char) (kept : Bool) :
    WordState → List Char → Except QuotingError (List (List Char))
  | .quoted _, [] => .error .openQuotation
  | .escaped, [] | .quotedEscape _, [] => .error .openEscape
  | .between, [] | .inside, [] => .ok (if word = [] ∧ kept = false then [] else [word])
  | .between, c :: rest | .inside, c :: rest =>
    if isSeparator c then
      if word = [] ∧ kept = false then wordsFrom [] false .between rest
      else (wordsFrom [] false .between rest).map (word :: ·)
    else if c = '\\' then wordsFrom word kept .escaped rest
    else if isQuoteMark c then wordsFrom word true (.quoted c) rest
    else wordsFrom (word ++ [c]) kept .inside rest
  | .quoted mark, c :: rest =>
    if c = mark then wordsFrom word kept .inside rest
    else if c = '\\' ∧ mark = '"' then wordsFrom word kept (.quotedEscape mark) rest
    else wordsFrom (word ++ [c]) kept (.quoted mark) rest
  | .escaped, c :: rest => wordsFrom (word ++ [c]) kept .inside rest
  | .quotedEscape mark, c :: rest =>
    let added := if c = '\\' ∨ c = mark then [c] else ['\\', c]
    wordsFrom (word ++ added) kept (.quoted mark) rest

/-- The words of a command line. -/
def splitWords (line : String) : Except QuotingError (List String) :=
  (wordsFrom [] false .between line.toList).map (·.map String.ofList)

end CompileCommands.Text
