/-
  Required packages.

  * `Requirements`: packages with their least versions; `Requirements.standard` are those of
    this library's commands;
  * `Versions`: what a library of versions reads and compares; `Versions.standard` is the order of
    `Version`;
  * `Package.status`: whether a package is installed, in which version, and whether that is
    enough;
  * `Package.demand`: the same, as an error unless it is enough;
  * `Package.require`, `Package.requireAll`: explain what is missing and tell whether all is well;
  * `Package.checkAll`: shows the status of every required package.
-/
import CompileCommands.Package.Version
import CompileCommands.Session
import CompileCommands.Terminal.Style

namespace CompileCommands

/-- Packages, each with the least version that will do. -/
abbrev Requirements := Bindings String

/-- The packages that the commands require. -/
def Requirements.standard : Requirements :=
  [("GitPython", "3.1.40"), ("packaging", "24.0"), ("colorama", "0.4.6")]

/-- A library of versions. -/
structure Versions where
  /-- What it takes for versions. -/
  Carrier : Type
  /-- The version that a text writes. -/
  read? : String → Option Carrier
  /-- A version is at least another. -/
  isAtLeast : Carrier → Carrier → Bool
  /-- A version comes before another. -/
  isBefore : Carrier → Carrier → Bool

/-- The versions of the packages that the commands require. -/
def Versions.standard : Versions where
  Carrier := Version
  read? := Version.read?
  isAtLeast a b := (b.compare a).isLE
  isBefore a b := (a.compare b).isLT

namespace Package

/-! ## Status -/

/-- What is installed of a package. -/
inductive Status where
  /-- Nothing. -/
  | missing
  /-- A version, which may or may not be enough. -/
  | installed (version : String) (isEnough : Bool)
  deriving DecidableEq, Repr

/-- All is well. -/
def Status.isGood : Status → Bool
  | installed _ isEnough => isEnough
  | missing => false

/-- The version that a text writes. -/
def versionOf (versions : Versions) (text : String) : Except Failure versions.Carrier :=
  match versions.read? text with
  | some version => .ok version
  | none => .error (.invalidVersion text)

/-- The version that a text writes is at least that of another. -/
def isAtLeast (versions : Versions) (installed minimum : String) : Except Failure Bool := do
  let a ← versionOf versions installed
  let b ← versionOf versions minimum
  return versions.isAtLeast a b

/-- The version that a text writes comes before that of another. -/
def isOlder (versions : Versions) (installed minimum : String) : Except Failure Bool := do
  let a ← versionOf versions installed
  let b ← versionOf versions minimum
  return versions.isBefore a b

section Checks

variable (versions : Versions)

/-- The status of a package, of which a least version is required. -/
def statusOf (packages : Bindings String) (name minimum : String) : Except Failure Status :=
  match packages.get? name with
  | none => .ok .missing
  | some version => (isAtLeast versions version minimum).map (.installed version)

/-- The least version of a package: the given one, else the required one. -/
def minimumOf (requirements : Requirements) (name : String) :
    (minimum : Option String) → Except Failure String
  | some minimum => .ok minimum
  | none =>
    match requirements.get? name with
    | some minimum => .ok minimum
    | none => .error (.requirement (.unspecified name))

/-- The status of a package. -/
def status (packages : Bindings String) (requirements : Requirements) (name : String)
    (minimum : Option String) : Except Failure Status := do
  statusOf versions packages name (← minimumOf requirements name minimum)

/-- The status of a package that must be there in a sufficient version. -/
def demand (packages : Bindings String) (requirements : Requirements) (name : String)
    (minimum : Option String) : Except Failure Status := do
  let minimum ← minimumOf requirements name minimum
  match ← statusOf versions packages name minimum with
  | .missing => .error (.requirement (.missing name minimum))
  | .installed version false => .error (.requirement (.tooOld name version minimum))
  | .installed version true => .ok (.installed version true)

/-! ## Explanations -/

/-- A package with its least version, as the installer takes it. -/
def quotedRequirement (name minimum : String) : String :=
  "'" ++ name ++ ">=" ++ minimum ++ "'"

/-- The explanation for a package of which no version is known. -/
def explainUnknown (p : Palette) (name : String) : String :=
  p.error ("Unknown package '" ++ name ++ "' - no version requirement defined") true

/-- The explanation for a package that is not installed. -/
def explainMissing (p : Palette) (name minimum context : String) : String :=
  p.error (name ++ " is required for " ++ context ++ ".") true ++
    "Install with: pip install " ++ quotedRequirement name minimum ++ "\n"

/-- The explanation for a package that is too old. -/
def explainOld (p : Palette) (name version minimum context : String) : String :=
  p.error (name ++ " " ++ version ++ " is too old for " ++ context ++ ".") true ++
    "Version >=" ++ minimum ++ " is required.\n" ++
    "Upgrade with: pip install --upgrade " ++ quotedRequirement name minimum ++ "\n"

/-- The purpose named when none is given. -/
def defaultContext : String := "this tool"

/-! ## Requiring packages -/

/-- The version of a package that is installed in a session. -/
def installedIn (name : String) : Action Session (Option String) :=
  Action.view fun s => s.world.packages.get? name

/-- Tells whether a required package is there, and explains it if not. -/
def require (p : Palette) (requirements : Requirements) (context name : String) :
    Action Session Bool := do
  match requirements.get? name with
  | none =>
    Session.complain (explainUnknown p name)
    return false
  | some minimum =>
    match ← installedIn name with
    | none =>
      Session.complain (explainMissing p name minimum context)
      return false
    | some version =>
      if ← Action.lift (isOlder versions version minimum) then
        Session.complain (explainOld p name version minimum context)
        return false
      else return true

/-- Requires one package after the other, up to the first that is not as required. -/
def requireEach (p : Palette) (requirements : Requirements) (context : String) :
    List String → Action Session Bool
  | [] => return true
  | name :: rest => do
    if ← require versions p requirements context name then requireEach p requirements context rest
    else return false

/-- Tells whether all required packages are there, and explains the first that is not. -/
def requireAll (p : Palette) (requirements : Requirements) (context : String) :
    Action Session Bool :=
  requireEach versions p requirements context (requirements.map (·.1))

/-! ## Checking packages -/

/-- The status of a package in a session. -/
def statusIn (name minimum : String) : Action Session Status := fun s =>
  (⟨statusOf versions s.world.packages name minimum, []⟩, s)

/-- Shows the status of a package. -/
def display (p : Palette) (name minimum : String) : Status → Action Session Unit
  | .installed version true => Session.print (p.success (name ++ " " ++ version))
  | .installed version false =>
    Session.complain (p.error (name ++ " " ++ version ++ " (need >=" ++ minimum ++ ")") false)
  | .missing => Session.complain (p.error (name ++ " not installed") false)

/-- Shows the status of packages, and tells whether all are well. -/
def checkEach (p : Palette) : List (String × String) → Action Session Bool
  | [] => return true
  | (name, minimum) :: rest => do
    let status ← statusIn versions name minimum
    display p name minimum status
    return (← checkEach p rest) && status.isGood

/-- The advice to install the required packages. -/
def advice (requirements : Requirements) : String :=
  "Install missing packages with: pip install " ++
    String.intercalate " " (requirements.map fun r => quotedRequirement r.1 r.2) ++ "\n"

/-- Shows the status of all required packages, and tells whether all are well; if not, with
    advice. -/
def checkAll (p : Palette) (requirements : Requirements) : Action Session Bool := do
  if ← checkEach versions p requirements then return true
  else
    Session.complain (advice requirements)
    return false

end Checks

end Package
end CompileCommands
