/-
  Why a computation ends without an answer.

  * `ToolError`: the errors that carry an exit code of their own, by category;
  * `FileError`, `ShapeError`, `SnapshotError`, `RequirementError`, `WithheldError`: errors of
    file access, of documents, of stored snapshots, of installed packages and of arguments;
  * `Incident`: what must never be absorbed, such as lack of memory or an interrupt;
  * `Failure`: all of them, with `Failure.message` and `Failure.isCritical`.
-/
import CompileCommands.Json.Reader
import CompileCommands.Text.Quoted
import CompileCommands.Text.Surrogate
import CompileCommands.Text.Word

namespace CompileCommands

/-! ## Exit codes -/

/-- The codes with which a command ends. -/
inductive ExitCode where
  /-- All went well. -/
  | success
  /-- The arguments were wrong. -/
  | invalidArguments
  /-- Something was not found, or failed. -/
  | runtimeError
  /-- The user interrupted. -/
  | interrupted
  deriving DecidableEq, Repr

/-- The number of an exit code. -/
def ExitCode.toNat : ExitCode → Nat
  | success => 0
  | invalidArguments => 1
  | runtimeError => 2
  | interrupted => 130

/-! ## Errors with an exit code -/

/-- The categories of errors that carry an exit code. -/
inductive ToolError.Category where
  /-- Any other. -/
  | general
  /-- Wrong input. -/
  | validation
  /-- A missing argument. -/
  | argument
  /-- No workspace root. -/
  | workspace
  /-- A failing external program. -/
  | externalTool
  /-- A bootstrap that does not start. -/
  | bootstrap
  deriving DecidableEq, Repr

/-- The category is about wrong input. -/
def ToolError.Category.isValidation : Category → Bool
  | validation | argument | workspace => true
  | general | externalTool | bootstrap => false

/-- The category is about external programs. -/
def ToolError.Category.isExternalTool : Category → Bool
  | externalTool | bootstrap => true
  | general | validation | argument | workspace => false

/-- An error with the code that the command ends with if nothing absorbs it. -/
structure ToolError where
  category : ToolError.Category
  message : String
  exitCode : Nat
  deriving DecidableEq, Repr

namespace ToolError

/-- The exit code of a category: errors of validation mean wrong arguments. -/
def Category.exitCode (category : Category) : ExitCode :=
  if category.isValidation then .invalidArguments else .runtimeError

/-- An error with the exit code of its category. -/
def of (category : Category) (message : String) : ToolError :=
  ⟨category, message, category.exitCode.toNat⟩

/-- A required argument is missing or empty. -/
def emptyArgument (name : String) : ToolError :=
  of .argument (name ++ " must not be empty")

/-- There is no command shell. -/
def noCommandShell : ToolError :=
  of .bootstrap "No command shell found (COMSPEC is not set and cmd.exe is not on PATH)"

/-- A program cannot be started. -/
def cannotStart (program reason : String) : ToolError :=
  of .bootstrap ("Failed to start " ++ program ++ ": " ++ reason)

end ToolError

/-! ## Files and documents -/

/-- The kinds of errors in file access. -/
inductive FileError.Kind where
  /-- Nothing is there. -/
  | notFound
  /-- A directory stands where a file is needed. -/
  | isDirectory
  /-- A file stands where a directory is needed. -/
  | notDirectory
  /-- Access is denied. -/
  | permission
  deriving DecidableEq, Repr

/-- A file cannot be accessed. -/
structure FileError where
  kind : FileError.Kind
  message : String
  deriving DecidableEq, Repr

/-- A document is not of the shape that its reader needs. The argument is the kind found. -/
inductive ShapeError where
  /-- A compilation database is not a list. -/
  | database (found : String)
  /-- An entry of a compilation database is not an object. -/
  | entry (found : String)
  /-- Build settings are not an object. -/
  | settings (found : String)
  /-- The configurations of build settings are not a list. -/
  | configurations (found : String)
  deriving DecidableEq, Repr

/-- The text of a shape error. -/
def ShapeError.message : ShapeError → String
  | database found => "Invalid compile_commands.json format: expected list, got " ++ found
  | entry found => "Invalid compilation database entry: expected object, got " ++ found
  | settings found => "Invalid CMakeSettings.json format: expected object, got " ++ found
  | configurations found =>
    "Invalid CMakeSettings.json format: 'configurations' must be a list, got " ++ found

/-- A stored snapshot cannot be read back. -/
inductive SnapshotError where
  /-- Nothing is stored. -/
  | empty
  /-- What is stored has not the form of a snapshot. -/
  | garbled
  /-- What is stored is well formed, but something else. -/
  | foreign
  /-- What is stored refers to a module that is not there. -/
  | unresolved
  /-- What is stored leads its reader astray. -/
  | inconsistent
  deriving DecidableEq, Repr

/-- The error means that what is stored is damaged. -/
def SnapshotError.isDamage : SnapshotError → Bool
  | empty | garbled | foreign => true
  | unresolved | inconsistent => false

/-- The text of a snapshot error. -/
def SnapshotError.message : SnapshotError → String
  | empty => "Ran out of input"
  | garbled => "invalid load key"
  | foreign => "attribute not found"
  | unresolved => "module not found"
  | inconsistent => "index out of range"

/-! ## Packages and arguments -/

/-- A required package is not as required. -/
inductive RequirementError where
  /-- The package is not installed. -/
  | missing (package minimum : String)
  /-- The package is too old. -/
  | tooOld (package installed minimum : String)
  /-- No version is required of the package. -/
  | unspecified (package : String)
  deriving DecidableEq, Repr

/-- The text of a requirement error. -/
def RequirementError.message : RequirementError → String
  | missing package minimum =>
    package ++ " is not installed. Install with: pip install '" ++ package ++ ">=" ++ minimum ++ "'"
  | tooOld package installed minimum =>
    package ++ " " ++ installed ++ " is too old. Version >=" ++ minimum ++
      " is required. Upgrade with: pip install --upgrade '" ++ package ++ ">=" ++ minimum ++ "'"
  | unspecified package => "No version requirement specified for " ++ package

/-- A switch withholds a value that the command cannot do without. -/
inductive WithheldError where
  /-- The time limit, which is to be compared with zero. -/
  | timeLimit
  /-- The name of a variable, which is to be put in upper case. -/
  | variableName
  deriving DecidableEq, Repr

/-- The text of an error about a withheld value. -/
def WithheldError.message : WithheldError → String
  | timeLimit => "'<=' not supported between instances of 'list' and 'int'"
  | variableName => "'list' object has no attribute 'upper'"

/-! ## Incidents -/

/-- Conditions that recovery must never absorb. -/
inductive Incident where
  /-- Memory is exhausted. -/
  | outOfMemory
  /-- Nesting or recursion is too deep. -/
  | tooDeep
  /-- The program is asked to end, with an exit code. -/
  | exit (code : Nat)
  /-- The user interrupts. -/
  | interrupt
  /-- A suspended computation is abandoned. -/
  | abandoned
  /-- An interrupt signal reaches the command's own handler. -/
  | signal
  deriving DecidableEq, Repr

/-! ## All failures -/

/-- Why a computation ends without an answer. -/
inductive Failure where
  /-- An error with an exit code. -/
  | tool (error : ToolError)
  /-- A document of the wrong shape. -/
  | shape (error : ShapeError)
  /-- A text that is no JSON. -/
  | notJson
  /-- Octets that are no UTF-8. -/
  | notUtf8
  /-- A text that an encoding refuses. -/
  | notEncodable (error : Text.EncodingError)
  /-- An error in file access. -/
  | file (error : FileError)
  /-- A command line that ends inside a quotation or an escape. -/
  | quoting (error : Text.QuotingError)
  /-- A text that is no version. -/
  | invalidVersion (version : String)
  /-- A package that is not as required. -/
  | requirement (error : RequirementError)
  /-- A number of seconds that has no integer part. -/
  | notFinite (value : Binary64)
  /-- A value that is withheld. -/
  | withheld (error : WithheldError)
  /-- A snapshot that cannot be read back. -/
  | snapshot (error : SnapshotError)
  /-- An error of the version control system. -/
  | repository (message : String)
  /-- A value that a component refuses. -/
  | value (message : String)
  /-- A component that fails. -/
  | runtime (message : String)
  /-- A condition that must not be absorbed. -/
  | incident (incident : Incident) (message : String)
  /-- Any other. -/
  | other (message : String)
  deriving DecidableEq, Repr

namespace Failure

/-- The text of a failure. -/
def message : Failure → String
  | tool error => error.message
  | shape error => error.message
  | notJson => "invalid JSON"
  | notUtf8 => "invalid UTF-8"
  | notEncodable error => error.message
  | file error => error.message
  | quoting .openQuotation => "No closing quotation"
  | quoting .openEscape => "No escaped character"
  | invalidVersion version => "Invalid version: " ++ Text.quoted version
  | requirement error => error.message
  | notFinite .nan => "cannot convert float NaN to integer"
  | notFinite _ => "cannot convert float infinity to integer"
  | withheld error => error.message
  | snapshot error => error.message
  | repository message | value message | runtime message | other message => message
  | incident _ message => message

/-- The failure must not be absorbed. -/
def isCritical : Failure → Bool
  | incident .. => true
  | _ => false

/-- The failure is one of file access. -/
def isFileError : Failure → Bool
  | file _ => true
  | _ => false

/-- The exit code that a failure carries. -/
def exitCode? : Failure → Option Nat
  | tool error => some error.exitCode
  | _ => none

/-- The failure of a JSON reader. -/
def ofReadError : Json.ReadError → Failure
  | .malformed => notJson
  | .tooDeep inObject =>
    incident .tooDeep ("maximum recursion depth exceeded while decoding a JSON " ++
      (if inObject then "object" else "array") ++ " from a unicode string")

end Failure

/-- Refuses a text at which an encoding stops. -/
def requireEncoded (error? : Option Text.EncodingError) : Except Failure Unit :=
  match error? with
  | some error => .error (.notEncodable error)
  | none => .ok ()

/-- Refuses a text that is missing or empty. -/
def requireArgument (value : Option String) (name : String) : Except Failure String :=
  match value with
  | none | some "" => .error (.tool (.emptyArgument name))
  | some text => .ok text

end CompileCommands
