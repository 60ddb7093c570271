/-
  The lines of a text.

  * `isLineBreak`: the characters that end a line;
  * `splitLines`: the lines without what ends them; a carriage return before a line feed ends
    one line, and a break at the very end starts none.
-/
namespace CompileCommands.Text

/-- The character ends a line. -/
def isLineBreak (c : Char) : Bool :=
  c ∈ ['\n', '\r', '\x0B', '\x0C', '\x1C', '\x1D', '\x1E', '\u0085', '\u2028', '\u2029']

/-- The lines of a text. -/
def splitLines : List Char → List (List Char)
  | [] => []
  | '\r' :: '\n' :: rest => [] :: splitLines rest
  | c :: rest =>
    if isLineBreak c then [] :: splitLines rest
    else
      match splitLines rest with
      | [] => [[c]]
      | line :: lines => (c :: line) :: lines

end CompileCommands.Text
