/-
  References to macros in a template.

  * `Macro.reference?`: the body of the reference that a text begins with, if it does;
  * `Macro.Token`: a reference with its place in the template;
  * `Macro.tokens`: the references of a template, in order. They do not overlap, since no
    dollar sign stands inside one.
-/
namespace CompileCommands.Macro

/-- A reference in a template. -/
structure Token where
  /-- The whole reference. -/
  text : String
  /-- What stands before the first dot of the body, if there is a dot. -/
  scope : String
  /-- The rest of the body. -/
  name : String
  /-- Where the reference begins. -/
  start : Nat
  /-- Where what follows it begins. -/
  stop : Nat
  deriving DecidableEq, Repr

/-- The character may stand inside a reference. -/
def isBodyChar (c : Char) : Bool :=
  c ≠ '$' && c ≠ '\x7b' && c ≠ '\x7d'

/-- The body of the reference that a text begins with: between a dollar sign with an opening
    brace and a closing brace, without any of the three, and not empty. -/
def reference? : List Char → Option (List Char)
  | '$' :: '\x7b' :: rest =>
    let body := rest.takeWhile isBodyChar
    if body ≠ [] ∧ (rest.drop body.length).head? = some '\x7d' then some body else none
  | _ => none

/-- The scope and the name of a body. -/
def splitBody (body : List Char) : List Char × List Char :=
  match body.dropWhile (· ≠ '.') with
  | [] => ([], body)
  | _ :: name => (body.takeWhile (· ≠ '.'), name)

/-- The reference with a body that begins at a place. -/
def Token.of (start : Nat) (body : List Char) : Token :=
  let (scope, name) := splitBody body
  { text := String.ofList ('$' :: '\x7b' :: body ++ ['\x7d'])
    scope := String.ofList scope
    name := String.ofList name
    start := start
    stop := start + body.length + 3 }

/-- The references in a text that begins at a place of the template. -/
def tokensFrom (start : Nat) : List Char → List Token
  | [] => []
  | c :: rest =>
    match reference? (c :: rest) with
    | some body => Token.of start body :: tokensFrom (start + 1) rest
    | none => tokensFrom (start + 1) rest

/-- The references of a template. -/
def tokens (template : String) : List Token :=
  tokensFrom 0 template.toList

end CompileCommands.Macro
