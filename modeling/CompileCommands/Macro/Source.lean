/-
  Where macros take their values from.

  * `Macro.Source`: environment variables by name; `Source.ofBindings` from a list, with or
    without regard to the case of names;
  * `Macro.Context`: what the builtin macros of one template stand for;
  * `Context.builtin?`: the value of a builtin macro; `Context.digested?`: the text that an
    identifier is made of.
-/
import CompileCommands.Digest.Identifier
import CompileCommands.Json.Value
import CompileCommands.Path.Lexical
import CompileCommands.Text.Case

namespace CompileCommands.Macro

open Text

/-! ## Environment variables -/

/-- The value of an environment variable. -/
abbrev Source := String → Option String

namespace Source

/-- Variables from a list, of which the last one of a name counts. Without regard to case,
    names that agree in upper case are the same. -/
def ofBindings (definitions : List (String × String)) (ignoreCase : Bool) : Source :=
  let key (name : String) : String := if ignoreCase then upper name else name
  let known := Bindings.ofPairs (definitions.map fun v => (key v.1, v.2))
  fun name => known.get? (key name)

end Source

/-! ## Builtin macros -/

/-- What the builtin macros of a template stand for. -/
structure Context where
  /-- The name of the active configuration. -/
  configuration : Option String := none
  /-- The workspace root. -/
  root : Option String := none
  /-- The generator of the configuration. -/
  generator : Option String := none
  /-- The path of the build settings. -/
  settingsFile : Option String := none
  /-- The path of the root descriptor of the project. -/
  descriptor : Option String := none
  deriving DecidableEq, Repr

namespace Context

/-- The name of the directory of the root descriptor, if it has one. -/
def projectName? (ctx : Context) : Option String :=
  (ctx.descriptor.map Path.directory).bind fun dir =>
    if dir = "" then none else some (Path.name (Path.collapse dir))

/-- The value of a builtin macro; case matters in its name. -/
def builtin? (ctx : Context) (name : String) : Option String :=
  match name with
  | "workspaceRoot" => ctx.root
  | "workspaceHash" | "projectHash" => ctx.descriptor.map stableIdentifier
  | "projectFile" => ctx.descriptor
  | "projectDir" => ctx.descriptor.map Path.directory
  | "projectDirName" => ctx.projectName?
  | "thisFile" => ctx.settingsFile
  | "thisFileDir" => ctx.settingsFile.map Path.directory
  | "name" => ctx.configuration
  | "generator" => ctx.generator
  | _ => none

/-- The text of which a builtin macro shows an identifier. -/
def digested? (ctx : Context) (name : String) : Option String :=
  match name with
  | "workspaceHash" | "projectHash" => ctx.descriptor
  | _ => none

end Context
end CompileCommands.Macro
