/-
  Expansion of templates.

  * `Macro.resolve`: the value of a reference: an environment variable in the scope `env`, in
    any case of letters, or a builtin macro without a scope;
  * `Macro.substitute`: a template with its references replaced, or the first one without a
    value; values are not scanned again;
  * `Macro.expand`: the same with a report;
  * `Macro.evaluate`: the same, unless a text on the way has no encoding.
-/
import CompileCommands.Computation
import CompileCommands.Macro.Source
import CompileCommands.Macro.Token

namespace CompileCommands.Macro

open Text

/-- The value of a reference. -/
def resolve (source : Source) (ctx : Context) (token : Token) : Option String :=
  if token.scope = "" then ctx.builtin? token.name
  else if lower token.scope = "env" then source token.name
  else none

/-- The template from `position` on, with the values of its remaining references in their
    places. -/
def substituteFrom (value : Token → Option String) (template : List Char) (position : Nat) :
    List Token → Except Token (List Char)
  | [] => .ok (template.drop position)
  | token :: rest =>
    match value token with
    | none => .error token
    | some v =>
      (substituteFrom value template token.stop rest).map fun tail =>
        (template.drop position).take (token.start - position) ++ v.toList ++ tail

/-- A template with the values of its references, or the first reference without a value. -/
def substitute (value : Token → Option String) (template : String) : Except Token String :=
  (substituteFrom value template.toList 0 (tokens template)).map String.ofList

/-- Expands a template. Without a value for every reference there is no expansion, and the
    first reference at fault is reported. -/
def expand (source : Source) (ctx : Context) (template : String) : Outcome (Option String) :=
  match substitute (resolve source ctx) template with
  | .ok text => .ok (some text)
  | .error token => ⟨.ok none, [.macroUnresolved token.text template]⟩

/-- Why a reference cannot be looked up: a text has no form in UTF-8 of which an identifier is to be
    made, or the name of a variable of the process has no form in octets. -/
def refusal? (ofProcess : Bool) (ctx : Context) (token : Token) : Option EncodingError :=
  if token.scope = "" then (ctx.digested? token.name).bind utf8Error?
  else if ofProcess ∧ lower token.scope = "env" then octetsError? token.name
  else none

/-- The look-up of a reference ends the expansion. -/
def isStop (ofProcess : Bool) (source : Source) (ctx : Context) (token : Token) : Bool :=
  (refusal? ofProcess ctx token).isSome || (resolve source ctx token).isNone

/-- Why the expansion of a template fails, if the first reference at which it ends cannot be looked
    up. -/
def stop? (ofProcess : Bool) (source : Source) (ctx : Context) (template : String) :
    Option EncodingError :=
  ((tokens template).find? (isStop ofProcess source ctx)).bind (refusal? ofProcess ctx)

/-- Expands a template, looking its references up in order. It makes a difference whether the
    variables are those of the process, whose names are encoded for that. -/
def evaluate (ofProcess : Bool) (source : Source) (ctx : Context) (template : String) :
    Outcome (Option String) :=
  match stop? ofProcess source ctx template with
  | some error => .fail (.notEncodable error)
  | none => expand source ctx template

/-- Expands a template that may be missing. -/
def evaluate? (ofProcess : Bool) (source : Source) (ctx : Context) :
    Option String → Outcome (Option String)
  | none => .ok none
  | some template => evaluate ofProcess source ctx template

end CompileCommands.Macro
