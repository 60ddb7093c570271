/-
  Comparison of paths written in different styles.

  * `Path.withSlashes`: backslashes become slashes;
  * `Path.normalize`: the form in which paths are compared, in lowest terms and lower case;
  * `Path.isMatching`, `Path.isRootedUnder`: the same file, and a file below a directory;
  * `Path.resolve`: a file seen from a directory, in either style;
  * `Path.fileName`, `Path.directoryName`: the parts of a path in either style.
-/
import CompileCommands.Path.Lexical
import CompileCommands.Text.Case

namespace CompileCommands.Path

open Text

/-! ## Styles -/

/-- A slash for a backslash, other characters as they are. -/
def slash (c : Char) : Char :=
  if c = '\\' then '/' else c

/-- A path with slashes between its names. -/
def withSlashes (p : String) : String :=
  String.ofList (p.toList.map slash)

/-- The path is absolute in one of the styles: it begins with a slash or a backslash, or its
    second character is a colon. -/
def isAbsolute (p : String) : Bool :=
  match p.toList with
  | [] => false
  | c :: rest => c = '/' || c = '\\' || rest.head? = some ':'

/-! ## Comparison -/

/-- The form in which paths are compared. -/
def normalize (p : String) : String :=
  if p = "" then "" else lower (collapse (withSlashes p))

/-- Two paths lead to the same file, whatever their style and case. -/
def isMatching (p q : String) : Bool :=
  normalize p = normalize q

/-- The prefix that the paths below a directory have in common. -/
def rootPrefix (root : String) : List Char :=
  let r := (normalize root).toList
  if r.getLast? = some '/' then r else r ++ ['/']

/-- The path lies below the directory, at any depth. -/
def isRootedUnder (p root : String) : Bool :=
  p ≠ "" && root ≠ "" && (rootPrefix root).isPrefixOf (normalize p).toList

/-! ## Parts and resolution -/

/-- The last name of a path in either style. -/
def fileName (p : String) : String :=
  name (withSlashes p)

/-- The directory of a path in either style. -/
def directoryName (p : String) : String :=
  directory (withSlashes p)

/-- A file seen from a directory: the two joined, unless the file is absolute or one of them
    is missing. -/
def resolve (file dir : String) : String :=
  if file = "" ∨ dir = "" ∨ isAbsolute file then file
  else join (withSlashes dir) (withSlashes file)

end CompileCommands.Path
