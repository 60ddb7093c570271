/-
  The output of a shell that prints its environment.

  * `Capture.arguments`: the arguments that make a shell run the bootstrap script and print the
    environment between two marker lines;
  * `Capture.settings`: the settings printed between the markers;
  * `Capture.printed`, `Capture.linesOf`: lines as a shell prints them, and the lines of raw
    output.
-/
import CompileCommands.Json.Value
import CompileCommands.Text.Blank
import CompileCommands.Text.Encoding
import CompileCommands.Text.Line

namespace CompileCommands.Capture

open Text

/-! ## Markers -/

/-- The line before the settings. -/
def beginMarker (id : String) : String := "SONARLINT_BEGIN_CAPTURE " ++ id

/-- The line after the settings. -/
def endMarker (id : String) : String := "SONARLINT_END_CAPTURE " ++ id

/-! ## The command -/

/-- The command that runs the script with its parameters. -/
def scriptCommand (script : String) (params : Option String) : String :=
  let line := "\"" ++ script ++ "\" " ++ params.getD ""
  String.ofList (trimRight line.toList)

/-- The arguments for the shell. -/
def arguments (script : String) (params : Option String) (id : String) : String :=
  String.intercalate " && "
    ["/U /K set VSCMD_SKIP_SENDTELEMETRY=1", scriptCommand script params,
      "echo " ++ beginMarker id, "set", "echo " ++ endMarker id]

/-! ## The settings -/

/-- A line without the characters that end it. -/
def bareLine (line : List Char) : List Char :=
  dropRightWhile (fun c => c = '\r' || c = '\n') line

/-- The setting on a line: what stands before the first equals sign, unless it is blank, and
    what follows. -/
def setting? (line : List Char) : Option (String × String) :=
  match line.dropWhile (· ≠ '=') with
  | [] => none
  | _ :: value =>
    let name := line.takeWhile (· ≠ '=')
    if name.all isBlank then none else some (String.ofList name, String.ofList value)

/-- The settings on lines up to the end marker, in addition to earlier ones. -/
def settingsInside (stop : List Char) (known : Bindings String) :
    List (List Char) → Bindings String
  | [] => known
  | raw :: rest =>
    let line := bareLine raw
    if trim line = stop then known
    else
      match setting? line with
      | some (name, value) => settingsInside stop (known.insert name value) rest
      | none => settingsInside stop known rest

/-- The settings between the first begin marker and the next end marker, or the end of the
    output. -/
def settingsFrom (start stop : List Char) : List (List Char) → Bindings String
  | [] => []
  | raw :: rest =>
    if trim (bareLine raw) = start then settingsInside stop [] rest
    else settingsFrom start stop rest

/-- The settings that a shell printed between the markers with an identifier. -/
def settings (lines : List String) (id : String) : Bindings String :=
  settingsFrom (beginMarker id).toList (endMarker id).toList (lines.map String.toList)

/-! ## Raw output -/

/-- The raw output of a shell that prints lines. -/
def printed (lines : List String) : Bytes :=
  lines.flatMap fun line => Utf16.encode (line.toList ++ ['\r', '\n'])

/-- The lines of raw output, without byte order marks in front. -/
def linesOf (encoding : Encoding) (output : Bytes) : List String :=
  (splitLines ((encoding.decode output).dropWhile (· = '\uFEFF'))).map String.ofList

end CompileCommands.Capture
