/-
  The quoted form of a text, as shown inside lists and objects.

  * `quoteMark`: single quotes, unless the text holds one and no double quote;
  * `escapeChar`: the mark and the backslash after a backslash, the usual letters for line
    ends and tabs, and hexadecimal escapes of two, four or eight digits for what is not
    printable;
  * `quoted`: the whole form.
-/
import CompileCommands.Text.Hex
import CompileCommands.Text.Printable
import CompileCommands.Text.Surrogate

namespace CompileCommands.Text

/-- The mark around a quoted text. -/
def quoteMark (s : List Char) : Char :=
  if '\'' ∈ s ∧ '"' ∉ s then '"' else '\''

/-- The shortest hexadecimal escape of a character. -/
def hexEscape (c : Char) : List Char :=
  let n := (surrogate? c).getD c.toNat
  if n < 0x100 then '\\' :: 'x' :: hexPadded 2 n
  else if n < 0x10000 then '\\' :: 'u' :: hexPadded 4 n
  else '\\' :: 'U' :: hexPadded 8 n

/-- One character inside a text quoted with `mark`. -/
def escapeChar (mark c : Char) : List Char :=
  if c = mark ∨ c = '\\' then ['\\', c]
  else if c = '\t' then ['\\', 't']
  else if c = '\n' then ['\\', 'n']
  else if c = '\r' then ['\\', 'r']
  else if isPrintable c then [c]
  else hexEscape c

/-- The quoted form of a text. -/
def quoted (s : String) : String :=
  let mark := quoteMark s.toList
  String.ofList (mark :: s.toList.flatMap (escapeChar mark) ++ [mark])

end CompileCommands.Text
