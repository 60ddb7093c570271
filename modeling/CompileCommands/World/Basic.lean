/-
  The surroundings in which a command runs.

  * `Location`: a place in the file tree, as the names that lead to it;
  * `World`: files, directories and links, the working directory, environment variables, the
    clock, the terminal, installed packages, and the faults that calls run into;
  * `Resolution`: how the system takes a path in which `..` leads back, and `World.wayTo`: the path
    that it takes;
  * `World.locate`: the place that a path leads to, links followed;
  * `World.isFile`, `World.isDirectory`, `World.exists`: what is at a path;
  * `World.realPath`, `World.absolute`: the path of the place, and the path in lowest terms.
-/
import CompileCommands.Decimal.Binary64
import CompileCommands.Path.Lexical
import CompileCommands.Snapshot.Stored

namespace CompileCommands

open CompileCommands.Path (Lexical)

/-! ## Types -/

/-- A place in the file tree: the names from the root down to it. -/
abbrev Location := List String

/-- A file. -/
structure File where
  /-- What it holds. -/
  content : Content
  /-- When it was last changed, in seconds. -/
  modified : Rat
  deriving DecidableEq

/-- The calls that can run into a fault. -/
inductive Call where
  /-- Opening a file. -/
  | openFile
  /-- Asking for a file's times. -/
  | status
  /-- Making a directory. -/
  | makeDirectory
  /-- Removing a file. -/
  | remove
  /-- Replacing a file, by the path of the new one. -/
  | replace
  /-- Listing a directory. -/
  | list
  /-- Looking for a repository. -/
  | repository
  deriving DecidableEq, Repr

/-- A call at a place fails, before it does anything. -/
structure Fault where
  call : Call
  place : Location
  failure : Failure

/-- Which rules the host has for command lines. -/
inductive Host where
  /-- A command line is a list of words. -/
  | posix
  /-- A command line is a text. -/
  | windows
  deriving DecidableEq, Repr

/-- How the system takes a path in which `..` leads back: it may go by the text, or from directory
    to directory. -/
@[ext]
structure Resolution where
  /-- The path to take in its place, if it leads anywhere. -/
  way? : String → Option String
  /-- A plain name at the end stays there. -/
  keeps : ∀ {directory name path : String}, directory ≠ "" → Path.IsPlain name →
    way? (Path.join directory name) = some path → ∃ d, d ≠ "" ∧ path = Path.join d name

/-- The text of a path is all that counts. -/
def Resolution.byText : Resolution where
  way? := some
  keeps hne _ h := ⟨_, hne, (Option.some.inj h).symm⟩

/-- The surroundings of a command. -/
structure World where
  /-- The files, by place. -/
  files : List (Location × File) := []
  /-- The directories beside the root. -/
  directories : List Location := []
  /-- Symbolic links, with their targets. -/
  links : List (Location × String) := []
  /-- The working directory. -/
  workingDirectory : String := "/"
  /-- How a path is taken in which `..` leads back. -/
  resolution : Resolution := .byText
  /-- The environment variables of the process. -/
  environment : Environment := []
  /-- Where programs are found on the search path. -/
  programs : Bindings String := []
  /-- The time, in seconds. -/
  clock : Rat := 0
  /-- Standard output is a terminal. -/
  terminal : Bool := false
  /-- The kind of host. -/
  host : Host := .posix
  /-- The installed packages, with their versions. -/
  packages : Bindings String := []
  /-- An identifier that no other process uses. -/
  freshId : String := ""
  /-- The faults that calls run into. -/
  faults : List Fault := []
  /-- How the result of arithmetic on times is rounded. -/
  rounding : Rat → Rat := Binary64.roundRat

namespace World

/-! ## Places -/

/-- The ways to cut a place in two with something in front, the shortest front first. -/
def cuts (place : Location) : List (Location × Location) :=
  (List.range place.length).map fun k => (place.take (k + 1), place.drop (k + 1))

/-- The place that a link's target leads to, seen from the directory of the link, with the
    names that follow the link. -/
def throughLink (link : Location) (target : String) (rest : Location) : Location :=
  let start : Location := if Path.isRooted target then [] else link.dropLast.reverse
  Path.lowest true start ((Path.pieces target.toList).map String.ofList ++ rest)

/-- Follows the outermost link on the way to a place. -/
def followOnce? (w : World) (place : Location) : Option Location :=
  (cuts place).findSome? fun (front, rest) =>
    (w.links.lookup front).map fun target => throughLink front target rest

/-- How many links are followed on the way to a place. -/
def linkLimit : Nat := 1000

/-- Follows links, at most `fuel` of them. -/
def follow (w : World) : (fuel : Nat) → Location → Location
  | 0, place => place
  | fuel + 1, place =>
    match w.followOnce? place with
    | some next => follow w fuel next
    | none => place

/-- A path in lowest terms, seen from the working directory. -/
def lexical (w : World) (path : String) : Lexical :=
  Lexical.ofText (Path.anchored w.workingDirectory path)

/-- A path in lowest terms, seen from the working directory, as a text. -/
def absolute (w : World) (path : String) : String :=
  (w.lexical path).text

/-- The path that the system takes for a path: the empty one, which leads nowhere, if the path
    itself does not lead anywhere. -/
def wayTo (w : World) (path : String) : String :=
  (w.resolution.way? path).getD ""

/-- The place that a path leads to, if `..` goes by the text. The file of the active configuration,
    which is opened by its path as given, is first taken the way that the system takes it:
    `wayTo`. -/
def locate (w : World) (path : String) : Location :=
  w.follow linkLimit (w.lexical path).names

/-- The path of a place. -/
def pathOf (place : Location) : Lexical :=
  { anchor := .root, names := place }

/-- The path of the place that a path leads to, without links. -/
def realPath (w : World) (path : String) : Lexical :=
  pathOf (w.locate path)

/-! ## What is at a path -/

/-- The file at a place. -/
def fileAt? (w : World) (place : Location) : Option File :=
  w.files.lookup place

/-- The place is a directory. -/
def isDirectoryAt (w : World) (place : Location) : Bool :=
  place = [] || w.directories.contains place

/-- The file at a path. The empty path leads nowhere. -/
def file? (w : World) (path : String) : Option File :=
  if path = "" then none else w.fileAt? (w.locate path)

/-- There is a file at the path. -/
def isFile (w : World) (path : String) : Bool :=
  (w.file? path).isSome

/-- There is a directory at the path. -/
def isDirectory (w : World) (path : String) : Bool :=
  path ≠ "" && w.isDirectoryAt (w.locate path)

/-- There is a file or a directory at the path. -/
def exists? (w : World) (path : String) : Bool :=
  w.isFile path || w.isDirectory path

/-- The fault that a call at a path runs into. -/
def fault? (w : World) (call : Call) (path : String) : Option Failure :=
  let place := w.locate path
  (w.faults.find? fun f => f.call = call && f.place = place).map (·.failure)

/-! ## Changes -/

/-- The place and the directories around it are directories. -/
def withDirectory (w : World) (place : Location) : World :=
  let around := (List.range (place.length + 1)).map place.take
  { w with directories := w.directories ++ around.filter fun d => !w.isDirectoryAt d }

/-- The place holds the file. -/
def withFile (w : World) (place : Location) (file : File) : World :=
  { w with files := (place, file) :: w.files.filter (·.1 ≠ place) }

/-- The place holds no file. -/
def withoutFile (w : World) (place : Location) : World :=
  { w with files := w.files.filter (·.1 ≠ place) }

/-- The call at the path fails from now on, or, without a failure, does not any more. -/
def withFault (w : World) (call : Call) (path : String) (failure : Option Failure) : World :=
  let place := w.locate path
  let others := w.faults.filter fun f => !(f.call = call && f.place = place)
  { w with faults := match failure with
    | some failure => ⟨call, place, failure⟩ :: others
    | none => others }

end World
end CompileCommands
