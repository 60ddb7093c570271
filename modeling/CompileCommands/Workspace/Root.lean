/-
  The root of the workspace that a path belongs to.

  * `Repository.Library`: a library of version control, and `Repository.findBy`: what is made of
    the repository that it opens for a directory;
  * `Repository.standard`: the library that opens the nearest directory at or above, by the names of
    the path, that holds `.git`;
  * `WorkspaceRoot.walk`: the directories from a place up to the repository;
  * `WorkspaceRoot.findBy`, `WorkspaceRoot.find?`: the topmost of them with a marker file, or the
    repository, with any library and with that one.
-/
import CompileCommands.World.Files
import CompileCommands.Workspace.Settings

namespace CompileCommands

open CompileCommands.Path (Lexical)

namespace Repository

/-! ## Libraries -/

/-- A library of version control: for a path, the working directory of the repository that it opens,
    unless the repository has none, or why it cannot open one. -/
abbrev Library := World → String → Except Failure (Option Lexical)

/-- The repository that a library opens for a path. Errors of version control count as none. -/
def findBy (library : Library) (start : String) : Query World (Option Lexical) := fun w =>
  match library w start with
  | .error (.repository _) => .ok none
  | .error failure => .fail failure
  | .ok found => .ok found

/-! ## The library of the commands -/

/-- The name of what a repository holds. -/
def marker : String := ".git"

/-- The directory holds the marker of a repository. -/
def isRoot (w : World) (directory : Lexical) : Bool :=
  w.exists? (directory.child marker).text

/-- The nearest directory at or above a path that is a repository's. -/
def around? (w : World) (start : Lexical) : Option Lexical :=
  start.selfAndParents.find? (isRoot w)

/-- The library that the commands use opens the repository around a path. It refuses a path that
    does not exist, and one that no repository is around. -/
def standard : Library := fun w start =>
  match w.fault? .repository start with
  | some failure => .error failure
  | none =>
    match if w.exists? start then around? w (w.lexical start) else none with
    | some directory => .ok (some directory)
    | none => .error (.repository start)

/-- The repository that a path belongs to. -/
def find? (start : String) : Query World (Option Lexical) :=
  findBy standard start

end Repository

namespace WorkspaceRoot

/-- The files that mark the directory of a project. -/
def markers : List String :=
  [Settings.fileName, Settings.descriptorName]

/-- The directory holds a marker file. -/
def isMarked (w : World) (directory : Lexical) : Bool :=
  markers.any fun marker => w.isFile (directory.child marker).text

/-- The directory at which the search begins: the path itself if it is a directory, else the
    one around it. -/
def startOf (w : World) (path : String) : Lexical :=
  let start := w.lexical path
  if w.isDirectory start.text then start else start.parent

/-- The directories up to and including `last`, or all if `last` is not among them. -/
def upTo (last : Lexical) : List Lexical → List Lexical
  | [] => []
  | directory :: outer => directory :: if directory = last then [] else upTo last outer

/-- The directories from a place up to a repository. -/
def walk (repository start : Lexical) : List Lexical :=
  upTo repository start.selfAndParents

/-- The workspace root of a path, with a library for repositories: without links, the topmost
    marked directory on the walk up to the repository, or the repository itself. -/
def findBy (library : Repository.Library) (path : String) : Query World (Option Lexical) := do
  let start ← Query.view (startOf · path)
  match ← Repository.findBy library start.text with
  | none => return none
  | some repository =>
    let top ← Query.view (·.realPath repository.text)
    let bottom ← Query.view (·.realPath start.text)
    let marked ← Query.view fun w => (walk top bottom).filter (isMarked w)
    return some (marked.getLast?.getD top)

/-- The workspace root of a path. -/
def find? (path : String) : Query World (Option Lexical) :=
  findBy Repository.standard path

end WorkspaceRoot
end CompileCommands
