/-
  The entry to use for a file.

  * `Database.firstWhere?`: the first entry with a file that satisfies a condition;
  * `Database.codeEntry?`, `sameNameEntry?`, `entryUnder?`, `firstEntry?`: the conditions;
  * `Database.headerEntry?`: for a header, the entry of a code file of the same path, else of
    the same name, else below the same directory, else the first;
  * `Database.lookup?`: the entry for a file of either kind.
-/
import CompileCommands.Database.Entry
import CompileCommands.Path.Source

namespace CompileCommands.Database

open Text

/-! ## Conditions -/

/-- The first entry that has a file and satisfies a condition. -/
def firstWhere? (condition : Entry → Bool) (entries : List Entry) : Option Entry :=
  entries.find? fun e => e.file ≠ "" && condition e

/-- The entry is for exactly this file. -/
def isFor (file : String) (e : Entry) : Bool :=
  Path.isMatching file e.resolvedFile

/-- The entry's file has this name, in any directory. -/
def hasName (name : String) (e : Entry) : Bool :=
  lower (Path.fileName e.file) = lower name

/-- The entry's file lies below the directory. -/
def isUnder (root : String) (e : Entry) : Bool :=
  Path.isRootedUnder e.resolvedFile root

/-- The first entry for exactly this file. -/
def codeEntry? (file : String) (entries : List Entry) : Option Entry :=
  firstWhere? (isFor file) entries

/-- The first entry whose file has this name. -/
def sameNameEntry? (name : String) (entries : List Entry) : Option Entry :=
  firstWhere? (hasName name) entries

/-- The first entry whose file lies below the directory. -/
def entryUnder? (root : String) (entries : List Entry) : Option Entry :=
  firstWhere? (isUnder root) entries

/-- The first entry that has a file. -/
def firstEntry? (entries : List Entry) : Option Entry :=
  firstWhere? (fun _ => true) entries

/-! ## Files -/

/-- The entry that serves a header. -/
def headerEntry? (header : String) (entries : List Entry) : Option Entry :=
  let paths := Path.candidates header Path.codeExtensions
  (paths.findSome? fun p => codeEntry? p entries)
    <|> (paths.findSome? fun p => sameNameEntry? (Path.fileName p) entries)
    <|> entryUnder? (Path.directoryName header) entries
    <|> firstEntry? entries

/-- The entry that serves a header; that there is none is reported. -/
def searchHeader (header : String) (entries : List Entry) : Outcome (Option Entry) :=
  match headerEntry? header entries with
  | some e => .ok (some e)
  | none => ⟨.ok none, [.headerEntryMissing header]⟩

/-- The entry of a code file; that there is none is reported. -/
def searchCode (file : String) (entries : List Entry) : Outcome (Option Entry) :=
  match codeEntry? file entries with
  | some e => .ok (some e)
  | none => ⟨.ok none, [.entryMissing file]⟩

/-- The entry to use for a file. -/
def lookup (file : String) (entries : List Entry) : Outcome (Option Entry) :=
  match SourceKind.ofPath file with
  | .header => searchHeader file entries
  | .code => searchCode file entries

end CompileCommands.Database
