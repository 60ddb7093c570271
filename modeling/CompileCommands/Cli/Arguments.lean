/-
  Arguments of a command.

  * `Cli.Switch`, `Cli.Grammar`: the switches that a command knows, and whether it takes an
    operand;
  * `Cli.Word.ofText`: what one argument reads as: a value, the separator, or switches; long
    switches may be shortened as long as one is meant, short ones may be joined, and values may
    be attached;
  * `Cli.attachedValue`: an attached separator withholds the value;
  * `Cli.Step`, `Cli.stepsOf`: the uses of switches and the operand, in order;
  * `Cli.parse`: the settings that the uses make of the default settings, or why the command
    ends at once.

  The conventions are those of `argparse` up to 3.11.9. Since 3.11.10, an attached separator is a
  value like any other, and an equals sign that follows joined short switches is no part of the
  value.
-/
import CompileCommands.Json.Value
import CompileCommands.Text.Digit

namespace CompileCommands.Cli

/-! ## Grammars -/

/-- A switch that a command knows. -/
structure Switch (ι : Type) where
  /-- Its spellings, with the hyphens in front. -/
  names : List String
  /-- What it stands for. -/
  meaning : ι
  /-- It takes a value. -/
  takesValue : Bool := false
  deriving DecidableEq, Repr

/-- The arguments that a command knows. -/
structure Grammar (ι : Type) where
  /-- The switches. -/
  switches : List (Switch ι)
  /-- One argument may stand without a switch. -/
  takesOperand : Bool := false

/-- Why a command ends before it begins. -/
inductive Ending where
  /-- Help was asked for. -/
  | help
  /-- The version was asked for. -/
  | version
  /-- The arguments are wrong. -/
  | usage
  deriving DecidableEq, Repr

variable {ι : Type}

/-- Every spelling with its switch. -/
def Grammar.spellings (g : Grammar ι) : List (String × Switch ι) :=
  g.switches.flatMap fun s => s.names.map fun name => (name, s)

/-- The switch of a spelling. -/
def Grammar.find? (g : Grammar ι) (name : List Char) : Option (Switch ι) :=
  g.spellings.lookup (String.ofList name)

/-- The short switch of a letter. -/
def Grammar.short? (g : Grammar ι) (letter : Char) : Option (Switch ι) :=
  g.find? ['-', letter]

/-- The switches with a spelling that begins so, one for each such spelling. -/
def Grammar.beginning (g : Grammar ι) (start : List Char) : List (Switch ι) :=
  (g.spellings.filter fun entry => start.isPrefixOf entry.1.toList).map (·.2)

/-! ## Steps -/

/-- A step in the evaluation of arguments. -/
inductive Step (ι : Type) where
  /-- A switch is used. It has no value if it takes none, or if its value is withheld. -/
  | use (meaning : ι) (value : Option String)
  /-- The operand is given. -/
  | operand (text : String)
  /-- An argument has no place. -/
  | misplaced
  /-- The arguments are wrong. -/
  | refused
  deriving DecidableEq, Repr

/-- What an argument with switches comes to. -/
inductive Switches (ι : Type) where
  /-- All is complete. -/
  | complete (steps : List (Step ι))
  /-- The last switch needs a value from the next argument. -/
  | incomplete (steps : List (Step ι)) (meaning : ι)
  /-- The switches cannot stand so. -/
  | refused
  deriving DecidableEq, Repr

/-- The same after an earlier step. -/
def Switches.after (step : Step ι) : Switches ι → Switches ι
  | complete steps => complete (step :: steps)
  | incomplete steps meaning => incomplete (step :: steps) meaning
  | refused => refused

/-- A switch without anything attached to it. -/
def Switches.bare (switch : Switch ι) : Switches ι :=
  if switch.takesValue then incomplete [] switch.meaning
  else complete [.use switch.meaning none]

/-- The value that an attached text gives. The separator gives none: the value is withheld. -/
def attachedValue (text : String) : Option String :=
  if text = "--" then none else some text

/-- A switch with a value attached. -/
def Switches.attached (switch : Switch ι) (text : String) : Switches ι :=
  if switch.takesValue then complete [.use switch.meaning (attachedValue text)] else refused

/-- A short switch with the characters joined to it: its value if it takes one, else further
    short switches. -/
def Switches.joined (g : Grammar ι) (switch : Switch ι) : (tail : List Char) → Switches ι
  | [] => bare switch
  | c :: rest =>
    if switch.takesValue then attached switch (String.ofList (c :: rest))
    else
      match g.short? c with
      | some next => (joined g next rest).after (.use switch.meaning none)
      | none => refused

/-- A short switch with the characters after it. An equals sign may stand between the two, but
    not at the end, unless the switch takes a value. -/
def Switches.short (g : Grammar ι) (switch : Switch ι) : (tail : List Char) → Switches ι
  | ['='] => attached switch ""
  | '=' :: tail => joined g switch tail
  | tail => joined g switch tail

/-- A long switch, perhaps with a value attached. -/
def Switches.long (switch : Switch ι) : (value : Option String) → Switches ι
  | none => bare switch
  | some value => attached switch value

/-! ## Words -/

/-- What an argument reads as. -/
inductive Word (ι : Type) where
  /-- A value. -/
  | value (text : String)
  /-- Switches. -/
  | switches (switches : Switches ι)
  /-- The separator after which all is values. -/
  | separator
  deriving DecidableEq, Repr

/-- The character is a decimal digit. -/
def isDigit (c : Char) : Bool := (Text.digitValue? c).isSome

/-- The digits, at least one, of a number up to the end. A line break may follow. -/
def areDigits (s : List Char) : Bool :=
  let rest := s.dropWhile isDigit
  !(s.takeWhile isDigit).isEmpty && (rest = [] || rest = ['\n'])

/-- The text is a number, with or without a fraction. -/
def isNumber (s : List Char) : Bool :=
  areDigits s ||
    match s.dropWhile isDigit with
    | '.' :: fraction => areDigits fraction
    | _ => false

/-- The value attached by an equals sign, and what stands before the sign. -/
def splitAttached (s : List Char) : List Char × Option String :=
  match s.dropWhile (· ≠ '=') with
  | [] => (s, none)
  | _ :: value => (s.takeWhile (· ≠ '='), some (String.ofList value))

/-- An argument with a hyphen in front that is no known switch: a value if it is a negative
    number or has a space, else out of place. -/
def Word.ofUnknown (s : List Char) : Word ι :=
  if isNumber s.tail ∨ ' ' ∈ s then .value (String.ofList s)
  else .switches (.complete [.misplaced])

/-- A long switch, shortened or not. More than one possible meaning is an error. -/
def Word.ofLong (g : Grammar ι) (s : List Char) : Except Ending (Word ι) :=
  let (name, attached) := splitAttached s
  match g.find? name with
  | some switch => .ok (.switches (.long switch attached))
  | none =>
    match g.beginning name with
    | [] => .ok (.ofUnknown s)
    | [switch] => .ok (.switches (.long switch attached))
    | _ => .error .usage

/-- An argument before the separator. -/
def Word.ofText (g : Grammar ι) (text : String) : Except Ending (Word ι) :=
  match text.toList with
  | s@('-' :: '-' :: _) => ofLong g s
  | s@('-' :: letter :: tail) =>
    match g.short? letter with
    | some switch => .ok (.switches (.short g switch tail))
    | none => .ok (.ofUnknown s)
  | _ => .ok (.value text)

/-- What arguments read as, one by one. -/
def wordsOf (g : Grammar ι) : List String → Except Ending (List (Word ι))
  | [] => .ok []
  | text :: rest =>
    if text = "--" then .ok (.separator :: rest.map .value)
    else do
      let word ← Word.ofText g text
      let words ← wordsOf g rest
      return word :: words

/-- The steps of words, while an operand may still come, or not. They end where an argument is
    refused. -/
def stepsOf : (operand : Bool) → List (Word ι) → List (Step ι)
  | _, [] => []
  | true, .value text :: .separator :: rest => .operand text :: stepsOf false rest
  | true, .separator :: .value text :: rest => .operand text :: stepsOf false rest
  | true, .separator :: rest => stepsOf true rest
  | true, .value text :: rest => .operand text :: stepsOf false rest
  | false, .value _ :: rest | false, .separator :: rest => .misplaced :: stepsOf false rest
  | operand, .switches (.complete steps) :: rest => steps ++ stepsOf operand rest
  | operand, .switches (.incomplete steps meaning) :: .value text :: rest =>
    steps ++ .use meaning (some text) :: stepsOf operand rest
  | _, .switches _ :: _ => [.refused]

/-! ## Settings -/

/-- How the arguments of a command change its settings. -/
structure Reading (ι σ : Type) where
  /-- A switch is used. -/
  use : σ → ι → Option String → Except Ending σ
  /-- The operand is given. -/
  operand : σ → String → σ

/-- Takes steps one after the other; a misplaced argument is an error only at the end. -/
def Reading.apply {σ : Type} (r : Reading ι σ) (misplaced : Bool) (settings : σ) :
    List (Step ι) → Except Ending σ
  | [] => if misplaced then .error .usage else .ok settings
  | .use meaning value :: rest => do
    r.apply misplaced (← r.use settings meaning value) rest
  | .operand text :: rest => r.apply misplaced (r.operand settings text) rest
  | .misplaced :: rest => r.apply true settings rest
  | .refused :: _ => .error .usage

/-- The settings that arguments make of default settings. -/
def parse {σ : Type} (g : Grammar ι) (r : Reading ι σ) (default : σ) (arguments : List String) :
    Except Ending σ := do
  let words ← wordsOf g arguments
  r.apply false default (stepsOf g.takesOperand words)

end CompileCommands.Cli
