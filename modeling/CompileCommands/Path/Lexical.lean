/-
  Paths as texts, with a slash between names.

  * `Path.IsPlain`: a name that leads one step down;
  * `Path.Lexical`: what stands in front of a path, and its names; `ofText` drops empty names
    and `.`, and lets `..` take back the name before it;
  * `Path.collapse`: a path in lowest terms;
  * `Path.join`, `Path.anchored`, `Path.absolute`: a path below a directory;
  * `Path.directory`, `Path.name`, `Path.splitExtension`: the parts of a path.
-/
namespace CompileCommands.Path

/-! ## Pieces of a text -/

/-- The pieces between the slashes of a text. -/
def pieces (p : List Char) : List (List Char) :=
  p.splitOn '/'

/-- What stands up to the last slash, the slash included, and what follows it. -/
def splitLast (p : List Char) : List Char × List Char :=
  ((p.reverse.dropWhile (· ≠ '/')).reverse, (p.reverse.takeWhile (· ≠ '/')).reverse)

/-- The name leads one step down. -/
structure IsPlain (name : String) : Prop where
  slash : '/' ∉ name.toList
  empty : name ≠ ""
  dot : name ≠ "."
  dots : name ≠ ".."

/-! ## Lowest terms -/

/-- What stands in front of the names of a path. -/
inductive Anchor where
  /-- Nothing: the path is relative. -/
  | relative
  /-- One slash, or more than two. -/
  | root
  /-- Exactly two slashes, which are kept. -/
  | doubleRoot
  deriving DecidableEq, Repr

/-- The slashes of an anchor. -/
def Anchor.text : Anchor → String
  | relative => ""
  | root => "/"
  | doubleRoot => "//"

/-- A path in lowest terms. -/
structure Lexical where
  /-- What stands in front. -/
  anchor : Anchor
  /-- The names, outermost first. -/
  names : List String
  deriving DecidableEq, Repr

/-- The anchor of a path. -/
def anchorOf : List Char → Anchor
  | '/' :: '/' :: '/' :: _ => .root
  | '/' :: '/' :: _ => .doubleRoot
  | '/' :: _ => .root
  | _ => .relative

/-- Goes on by one name. The names so far stand innermost first; `..` takes one back, stays in
    place in front of a relative path, and does nothing at the root. -/
def descend (anchored : Bool) (names : List String) (name : String) : List String :=
  if name = "" ∨ name = "." then names
  else if name = ".." then
    match names with
    | [] => if anchored then [] else [".."]
    | inner :: outer => if inner = ".." then ".." :: inner :: outer else outer
  else name :: names

/-- Names in lowest terms, following `start` (innermost first). -/
def lowest (anchored : Bool) (start names : List String) : List String :=
  (names.foldl (descend anchored) start).reverse

namespace Lexical

/-- A text in lowest terms. -/
def ofText (p : String) : Lexical :=
  let anchor := anchorOf p.toList
  { anchor
    names := lowest (anchor ≠ .relative) [] ((pieces p.toList).map String.ofList) }

/-- The text of a path; a relative path without names is `.`. -/
def text (p : Lexical) : String :=
  match p.anchor, p.names with
  | .relative, [] => "."
  | anchor, names => anchor.text ++ String.intercalate "/" names

/-- The enclosing directory; the root is its own. -/
def parent (p : Lexical) : Lexical :=
  { p with names := p.names.dropLast }

/-- The path and the directories around it, innermost first. -/
def selfAndParents (p : Lexical) : List Lexical :=
  (List.range (p.names.length + 1)).reverse.map fun depth =>
    { p with names := p.names.take depth }

/-- A name below the path. -/
def child (p : Lexical) (name : String) : Lexical :=
  { p with names := p.names ++ [name] }

end Lexical

/-- A path in lowest terms. -/
def collapse (p : String) : String :=
  (Lexical.ofText p).text

/-! ## Below a directory -/

/-- The path begins with a slash. -/
def isRooted (p : String) : Bool :=
  p.toList.head? = some '/'

/-- A path below a directory; a path that begins with a slash stands for itself. -/
def join (directory p : String) : String :=
  if isRooted p then p
  else if directory = "" ∨ directory.toList.getLast? = some '/' then directory ++ p
  else directory ++ "/" ++ p

/-- Several paths, each below what is in front of it. -/
def joinAll (directory : String) (parts : List String) : String :=
  parts.foldl join directory

/-- A path seen from a working directory. -/
def anchored (workingDirectory p : String) : String :=
  if isRooted p then p else join workingDirectory p

/-- A path seen from a working directory, in lowest terms. -/
def absolute (workingDirectory p : String) : String :=
  collapse (anchored workingDirectory p)

/-! ## Parts -/

/-- The directory of a path: what stands before the last slash, without slashes at its end
    unless it has nothing else. -/
def directory (p : String) : String :=
  let head := (splitLast p.toList).1
  String.ofList
    (if head.all (· = '/') then head else (head.reverse.dropWhile (· = '/')).reverse)

/-- The last name of a path: what follows the last slash. -/
def name (p : String) : String :=
  String.ofList (splitLast p.toList).2

/-- A name at its last dot, the dot going with the extension. Dots in front of a name are part
    of it. -/
def splitNameAtDot (n : List Char) : List Char × List Char :=
  match n.reverse.dropWhile (· ≠ '.') with
  | [] => (n, [])
  | _ :: stem =>
    if stem.all (· = '.') then (n, [])
    else (stem.reverse, '.' :: (n.reverse.takeWhile (· ≠ '.')).reverse)

/-- A path at the extension of its last name. -/
def splitExtension (p : String) : String × String :=
  let (head, last) := splitLast p.toList
  let (stem, extension) := splitNameAtDot last
  (String.ofList (head ++ stem), String.ofList extension)

end CompileCommands.Path
