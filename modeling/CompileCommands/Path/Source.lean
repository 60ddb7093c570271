/-
  Source files and headers.

  * `SourceKind.ofPath`: a header by its extension, else code;
  * `Path.candidates`: the code files that may belong to a header, in order of priority.
-/
import CompileCommands.Path.Comparison

namespace CompileCommands

open Text

/-- Whether a file is compiled by itself. -/
inductive SourceKind where
  /-- A file that is compiled. -/
  | code
  /-- A file that is only included. -/
  | header
  deriving DecidableEq, Repr

namespace Path

/-- Extensions of headers. -/
def headerExtensions : List String :=
  [".h", ".hh", ".hpp", ".hxx"]

/-- Extensions of code, the preferred ones first. -/
def codeExtensions : List String :=
  [".cpp", ".cxx", ".cc", ".c"]

/-- The extension of a path in either style, in lower case. -/
def extension (p : String) : String :=
  lower (splitExtension (withSlashes p)).2

/-- The path is a header's. -/
def isHeader (p : String) : Bool :=
  extension p ∈ headerExtensions

/-- The paths made from a header's by another extension, in the order of the extensions. -/
def candidates (header : String) (extensions : List String) : List String :=
  extensions.map ((splitExtension (withSlashes header)).1 ++ ·)

end Path

/-- The kind of the file at a path. -/
def SourceKind.ofPath (p : String) : SourceKind :=
  if Path.isHeader p then .header else .code

/-- The name of a kind in reports. -/
def SourceKind.name : SourceKind → String
  | code => "code"
  | header => "header"

end CompileCommands
