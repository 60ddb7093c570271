/-
  Coloured text for a terminal.

  * `Palette`: the codes for colours and styles; `Palette.ansi` has them, in `Palette.none`
    they are empty;
  * `Palette.colored`: a text in a colour and a style;
  * `Palette.error`, `warning`, `success`, `info`: messages of a kind;
  * `Palette.fields`: labels with values, in columns;
  * `usesColor`: whether output is coloured.
-/
import CompileCommands.Json.Value

namespace CompileCommands

/-! ## Codes -/

/-- The codes for colours and styles. -/
structure Palette where
  red : String
  green : String
  yellow : String
  cyan : String
  white : String
  /-- Back to plain text. -/
  reset : String
  bright : String
  dim : String
  deriving DecidableEq, Repr

/-- The codes of ANSI terminals. -/
def Palette.ansi : Palette where
  red := "\x1b[31m"
  green := "\x1b[32m"
  yellow := "\x1b[33m"
  cyan := "\x1b[36m"
  white := "\x1b[37m"
  reset := "\x1b[0m"
  bright := "\x1b[1m"
  dim := "\x1b[2m"

/-- No codes. -/
def Palette.none : Palette := ⟨"", "", "", "", "", "", "", ""⟩

namespace Palette

/-! ## Texts -/

/-- A text after the codes of a style and a colour, and back to plain text. Without codes it
    stays as it is. -/
def colored (p : Palette) (text color style : String) : String :=
  if color = "" ∧ style = "" then text else style ++ color ++ text ++ p.reset

/-- A line of text in a colour. -/
def line (p : Palette) (text color : String) : String :=
  p.colored text color "" ++ "\n"

/-- The line of a success. -/
def success (p : Palette) (text : String) : String := p.line text p.green

/-- The line of an information. -/
def info (p : Palette) (text : String) : String := p.line text p.cyan

/-- The line of an error, called so if `named`. -/
def error (p : Palette) (text : String) (named : Bool) : String :=
  p.line (if named then "Error: " ++ text else text) p.red

/-- The line of a warning, called so if `named`. -/
def warning (p : Palette) (text : String) (named : Bool) : String :=
  p.line (if named then "Warning: " ++ text else text) p.yellow

/-- A heading. -/
def heading (p : Palette) (text : String) : String :=
  p.bright ++ p.cyan ++ "=== " ++ text ++ " ===" ++ p.reset ++ "\n"

/-! ## Columns -/

/-- A text with spaces up to a width. -/
def padded (text : String) (width : Nat) : String :=
  text ++ String.ofList (List.replicate (width - text.length) ' ')

/-- A label with its value; the values of all labels begin in the same column. -/
def field (p : Palette) (width : Nat) (label : String) (value : Option String) : String :=
  p.colored (padded (label ++ ":") (width + 1)) p.white p.bright ++ " " ++ value.getD "-" ++ "\n"

/-- Labels with their values, a missing value as a dash. -/
def fields (p : Palette) (values : Bindings (Option String)) : String :=
  let width := (values.map (·.1.length)).foldl max 0
  String.join (values.map fun entry => p.field width entry.1 entry.2)

end Palette

/-- Whether output is coloured: never if colour is refused, always if it is forced, else on a
    terminal without a variable against it. -/
def usesColor (forced refused terminal : Bool) (noColor : Option String) : Bool :=
  if refused then false
  else if forced then true
  else terminal && noColor.getD "" = ""

/-- The palette of coloured or plain output. -/
def Palette.of (color : Bool) : Palette :=
  if color then ansi else none

end CompileCommands
