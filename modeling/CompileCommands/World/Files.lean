/-
  File access.

  * `Files.read`, `Files.text`, `Files.readJson`: what a file holds;
  * `Files.modified`, `Files.list`: the time of a file, the names in a directory;
  * `Files.write`, `Files.makeDirectories`, `Files.remove`, `Files.replace`: changes;
  * `Files.recover`: go on after an error of file access.

  Each call first runs into the fault that the world has for it, if any. What may be called with
  a path at which nothing is then refuses one that the system does not take: `Files.refusal?`.
-/
import CompileCommands.Computation
import CompileCommands.Json.Reader
import CompileCommands.World.Basic

namespace CompileCommands.Files

open Text (Bytes Utf8.decode? Utf8.withoutMark)

/-! ## Errors -/

/-- An error of file access at a path. -/
def error (kind : FileError.Kind) (path : String) : Failure :=
  let reason := match kind with
    | .notFound => "[Errno 2] No such file or directory"
    | .isDirectory => "[Errno 21] Is a directory"
    | .notDirectory => "[Errno 20] Not a directory"
    | .permission => "[Errno 13] Permission denied"
  .file ⟨kind, reason ++ ": " ++ Text.quoted path⟩

/-- The answer of a call unless the world has a fault for it. -/
def unlessFault {α : Type} (w : World) (call : Call) (path : String)
    (answer : Except Failure α) : Except Failure α :=
  match w.fault? call path with
  | some failure => .error failure
  | none => answer

/-! ## Reading -/

/-- What the file at a path holds. -/
def content (w : World) (path : String) : Except Failure Content :=
  unlessFault w .openFile path <|
    match w.file? path with
    | some file => .ok file.content
    | none => .error (error (if w.isDirectory path then .isDirectory else .notFound) path)

/-- The text of a file: UTF-8, less a byte order mark in front. -/
def text (w : World) (path : String) : Except Failure (List Char) := do
  match (← content w path).bytes?.bind fun data => Utf8.decode? (Utf8.withoutMark data) with
  | some s => .ok s
  | none => .error .notUtf8

/-- A text as a JSON document. -/
def document (s : List Char) : Except Failure Json :=
  (Json.read s).mapError Failure.ofReadError

/-- Reads a file as a JSON document. -/
def readJson (path : String) : Query World Json :=
  fun w => ⟨text w path >>= document, []⟩

/-- Reads what a file holds. -/
def read (path : String) : Query World Content :=
  fun w => ⟨content w path, []⟩

/-- When the file at a path was last changed. Directories do not tell. -/
def modified (path : String) : Query World Rat := fun w =>
  ⟨unlessFault w .status path <|
    match w.file? path with
    | some file => .ok file.modified
    | none => if w.isDirectory path then .ok 0 else .error (error .notFound path), []⟩

/-- The names of what lies in the directory at a place, sorted. -/
def namesIn (w : World) (place : Location) : List String :=
  let inside (inner : Location) : Option String :=
    if inner.length = place.length + 1 ∧ place.isPrefixOf inner then inner.getLast? else none
  let found := (w.files.map (·.1) ++ w.directories ++ w.links.map (·.1)).filterMap inside
  found.eraseDups.mergeSort (fun a b => decide (a ≤ b))

/-- The names in the directory at a path, sorted. -/
def list (path : String) : Query World (List String) := fun w =>
  ⟨unlessFault w .list path <|
    if w.isFile path then .error (error .notDirectory path)
    else if w.isDirectory path then .ok (namesIn w (w.locate path))
    else .error (error .notFound path), []⟩

/-! ## Recovery -/

/-- Goes on after an error of file access. -/
def recover {α : Type} (x : Action World α) (handle : Failure → Action World α) :
    Action World α :=
  Action.recover x fun failure =>
    if failure.isFileError then handle failure else Action.fail failure

/-! ## Changing -/

/-- An action that changes the world unless it fails. -/
def change (f : World → Except Failure World) : Action World Unit := fun w =>
  match f w with
  | .ok w' => (.ok (), w')
  | .error failure => (.fail failure, w)

/-- Why the system does not take a path: it has no form in octets, or one that ends too early. -/
def refusal? (path : String) : Option Failure :=
  match Text.octetsError? path with
  | some error => some (.notEncodable error)
  | none => if '\x00' ∈ path.toList then some (.value "embedded null byte") else none

/-- The answer of a call unless the world has a fault for it or the system does not take the path.
    A path that is not taken is not tried in part either: no directory around it is made. Where
    nothing can be done before something is found at the path, this is left out. -/
def unlessRefused {α : Type} (w : World) (call : Call) (path : String)
    (answer : Except Failure α) : Except Failure α :=
  unlessFault w call path <|
    match refusal? path with
    | some failure => .error failure
    | none => answer

/-- Writes a file; its directory must be there. -/
def write (path : String) (content : Content) : Action World Unit :=
  change fun w => unlessRefused w .openFile path <|
    let place := w.locate path
    if w.isDirectory path then .error (error .isDirectory path)
    else if (w.fileAt? place.dropLast).isSome then .error (error .notDirectory path)
    else if w.isDirectoryAt place.dropLast then .ok (w.withFile place ⟨content, w.clock⟩)
    else .error (error .notFound path)

/-- Makes a directory, with those around it; it may be there already. -/
def makeDirectories (path : String) : Action World Unit :=
  change fun w => unlessRefused w .makeDirectory path <|
    let place := w.locate path
    let around := (List.range (place.length + 1)).map place.take
    if around.any fun d => (w.fileAt? d).isSome then .error (error .notDirectory path)
    else .ok (w.withDirectory place)

/-- Removes a file. -/
def remove (path : String) : Action World Unit :=
  change fun w => unlessFault w .remove path <|
    if w.isFile path then .ok (w.withoutFile (w.locate path))
    else .error (error (if w.isDirectory path then .isDirectory else .notFound) path)

/-- Puts a file in the place of another, with its time of change. -/
def replace (source target : String) : Action World Unit :=
  change fun w => unlessFault w .replace target <|
    match w.file? source with
    | none => .error (error .notFound source)
    | some file =>
      if w.isDirectory target then .error (error .isDirectory target)
      else .ok ((w.withoutFile (w.locate source)).withFile (w.locate target) file)

end CompileCommands.Files
