/-
  Detection of the programs that the capture of an environment needs.

  * `Tool`: a program, and where it was found;
  * `Detected`: what is remembered of earlier searches;
  * `Tools.shell`: the command shell, by variable or search path; the result of the first
    search is kept, also if nothing was found;
  * `Tools.script`: the bootstrap script below an installation; only a find is kept.
-/
import CompileCommands.Computation
import CompileCommands.World.Basic

namespace CompileCommands

/-! ## Tools -/

/-- Where a tool was found. -/
inductive Tool.Origin where
  /-- By the variable that names the shell. -/
  | shellVariable
  /-- On the search path. -/
  | searchPath
  /-- Below an installation. -/
  | installation
  deriving DecidableEq, Repr

/-- The name of an origin. -/
def Tool.Origin.name : Origin → String
  | shellVariable => "COMSPEC"
  | searchPath => "PATH"
  | installation => "install root"

/-- A program that was found. -/
structure Tool where
  command : String
  origin : Tool.Origin
  deriving DecidableEq, Repr

/-- What is remembered of earlier searches. -/
structure Detected where
  /-- The result of the search for a shell, if there was one. -/
  shell : Option (Option Tool) := none
  /-- The scripts found, by installation. -/
  scripts : Bindings Tool := []
  deriving DecidableEq, Repr

namespace Tools

/-! ## Searches -/

/-- A tool by its command, unless that is missing or empty. -/
def ofCommand? (origin : Tool.Origin) (command : Option String) : Option Tool :=
  (command.filter (· ≠ "")).map fun command => ⟨command, origin⟩

/-- The command shell of the surroundings: the one that the variable names, else the one on
    the search path. -/
def searchShell (w : World) : Option Tool :=
  ofCommand? .shellVariable (w.environment.get? "COMSPEC")
    <|> ofCommand? .searchPath (w.programs.get? "cmd.exe")

/-- Where the bootstrap script of an installation lies. -/
def scriptPath (installation : String) : String :=
  Path.joinAll installation ["Common7", "Tools", "VsDevCmd.bat"]

/-- The bootstrap script of an installation. -/
def searchScript (w : World) (installation : String) : Option Tool :=
  let path := scriptPath installation
  if w.isFile path then some ⟨path, .installation⟩ else none

/-! ## Remembered searches -/

/-- The shell, searched for at most once. -/
def shell (w : World) (known : Detected) : Option Tool × Detected :=
  match known.shell with
  | some found => (found, known)
  | none =>
    let found := searchShell w
    (found, { known with shell := some found })

/-- The bootstrap script, searched for until it is found. -/
def script (w : World) (known : Detected) (installation : String) : Option Tool × Detected :=
  match known.scripts.get? installation with
  | some found => (some found, known)
  | none =>
    match searchScript w installation with
    | some found => (some found, { known with scripts := known.scripts.insert installation found })
    | none => (none, known)

end Tools
end CompileCommands
