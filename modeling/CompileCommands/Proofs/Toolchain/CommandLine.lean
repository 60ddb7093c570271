/-
  The command line of a capture.

  * `Capture.IsParameter`, `Capture.IsQuotable`: what may stand among the parameters of the script,
    and between double quotes;
  * `Capture.toList_scriptCommand`: the script in quotes and its parameters as they are, with
    single spaces between them, and nothing behind the last;
  * `Launch.toList_line`, `Launch.splitWords_line`: so the whole line is made of the spellings of
    its words, and is taken apart into them;
  * `Launcher.commandLine_words`: a process is started with exactly these words.
-/
import CompileCommands.Proofs.Text.Intercalate
import CompileCommands.Proofs.Text.Word
import CompileCommands.Proofs.Toolchain.Capture
import CompileCommands.Toolchain.Launch

namespace CompileCommands

open Text

namespace Capture

/-! ## Words -/

/-- A word of the script's parameters: not empty, and without white space, quotes and
    backslashes. -/
structure IsParameter (word : String) : Prop where
  ne_empty : word ≠ ""
  plain : ∀ c ∈ word.toList, isBlank c = false ∧ c ≠ '\'' ∧ c ≠ '"' ∧ c ≠ '\\'

instance : DecidablePred IsParameter := fun word =>
  decidable_of_iff
    (word ≠ "" ∧ word.toList.all fun c => isBlank c = false ∧ c ≠ '\'' ∧ c ≠ '"' ∧ c ≠ '\\')
    ⟨fun h => ⟨h.1, by simpa using h.2⟩, fun h => ⟨h.ne_empty, by simpa using h.plain⟩⟩

/-- The text can be written between double quotes as it is. -/
def IsQuotable (text : String) : Prop :=
  '"' ∉ text.toList ∧ '\\' ∉ text.toList

instance : DecidablePred IsQuotable := fun text =>
  inferInstanceAs (Decidable ('"' ∉ text.toList ∧ '\\' ∉ text.toList))

theorem isPlain_of_not_isBlank {c : Char} (hblank : isBlank c = false)
    (hmarks : c ≠ '\'' ∧ c ≠ '"' ∧ c ≠ '\\') : isPlain c := by
  have hseparator : isSeparator c = false := by
    rw [← Bool.not_eq_true]
    intro h
    simp only [isSeparator, Bool.or_eq_true, decide_eq_true_eq] at h
    obtain ((rfl | rfl) | rfl) | rfl := h <;> exact absurd hblank (by decide)
  simp [isPlain, isQuoteMark, hseparator, hmarks]

theorem IsParameter.fits {word : String} (h : IsParameter word) : (Spelling.bare word).Fits :=
  ⟨h.ne_empty, fun c hc => isPlain_of_not_isBlank (h.plain c hc).1 (h.plain c hc).2⟩

theorem IsQuotable.fits {text : String} (h : IsQuotable text) : (Spelling.quoted text).Fits := by
  refine fun c hc => ⟨?_, ?_⟩
  · rintro rfl
    exact h.1 hc
  · rintro rfl
    exact h.2 hc

theorem IsHexId.fits {id : String} (h : IsHexId id) : (Spelling.bare id).Fits := by
  refine ⟨h.ne_empty, fun c hc => isPlain_of_not_isBlank (plain_of_mem h hc).1 ?_⟩
  have hdigit := List.all_eq_true.1 h.digits c hc
  refine ⟨?_, ?_, ?_⟩ <;>
  · rintro rfl
    exact absurd hdigit (by decide)

/-! ## The script -/

/-- The script and its parameters, as they are written. -/
def scriptSpellings (script : String) (words : List String) : List Spelling :=
  .quoted script :: words.map .bare

variable {script : String} {words : List String} {params : Option String}

theorem map_text_scriptSpellings (script : String) (words : List String) :
    (scriptSpellings script words).map Spelling.text =
      (Spelling.quoted script).text :: words.map String.toList := by
  rw [scriptSpellings, List.map_cons, List.map_map]
  rfl

theorem map_word_scriptSpellings (script : String) (words : List String) :
    (scriptSpellings script words).map Spelling.word = script :: words := by
  rw [scriptSpellings, List.map_cons, List.map_map]
  exact congrArg (script :: ·) (List.map_id words)

/-- What is written of the script ends with its quote or with a character of a parameter. -/
theorem not_isBlank_of_getLast? (hwords : ∀ word ∈ words, IsParameter word) {c : Char}
    (h : ([' '].intercalate ((scriptSpellings script words).map Spelling.text)).getLast? = some c) :
    isBlank c = false := by
  rw [map_text_scriptSpellings] at h
  obtain rfl | ⟨front, last, rfl⟩ := List.eq_nil_or_concat' words
  · rw [List.map_nil, List.intercalate_singleton, Spelling.text, List.getLast?_concat,
      Option.some.injEq] at h
    rw [← h]
    decide
  · have hlast : IsParameter last := hwords last (by simp)
    have hne : last.toList ≠ [] := by simpa using hlast.ne_empty
    rw [List.map_append, List.map_singleton, ← List.cons_append,
      intercalate_append (List.cons_ne_nil _ _) (List.cons_ne_nil _ _),
      List.intercalate_singleton, List.getLast?_append_of_ne_nil _ hne] at h
    exact (hlast.plain c (List.mem_of_getLast? h)).1

/-- With no parameter, the space behind the script is taken away. -/
theorem toList_scriptCommand (hwords : ∀ word ∈ words, IsParameter word)
    (hparams : params.getD "" = " ".intercalate words) :
    (scriptCommand script params).toList =
      [' '].intercalate ((scriptSpellings script words).map Spelling.text) := by
  have hline : ("\"" ++ script ++ "\" " ++ params.getD "").toList =
      (Spelling.quoted script).text ++ [' '] ++ [' '].intercalate (words.map String.toList) := by
    rw [hparams]
    simp [Spelling.text]
  have hself : trimRight ([' '].intercalate ((scriptSpellings script words).map Spelling.text)) =
      [' '].intercalate ((scriptSpellings script words).map Spelling.text) :=
    dropRightWhile_eq_self fun c => not_isBlank_of_getLast? hwords
  rw [scriptCommand, String.toList_ofList, hline, ← hself, map_text_scriptSpellings]
  cases words with
  | nil =>
    have hblank : ∀ c ∈ [' '], isBlank c := List.forall_mem_singleton.2 rfl
    rw [List.map_nil, List.intercalate_nil, List.append_nil, List.intercalate_singleton]
    exact dropRightWhile_append hblank
  | cons word words => rw [List.map_cons, List.intercalate_cons_cons]

end Capture

/-! ## The line -/

open Capture

namespace Launch

/-- The words of a capture, as they are written. -/
def spellings (executable script : String) (words : List String) (id : String) :
    List Spelling :=
  .quoted executable :: ["/U", "/K", "set", "VSCMD_SKIP_SENDTELEMETRY=1", "&&"].map .bare ++
    scriptSpellings script words ++
    ["&&", "echo", "SONARLINT_BEGIN_CAPTURE", id, "&&", "set", "&&", "echo",
      "SONARLINT_END_CAPTURE", id].map .bare

variable {executable script id : String} {words : List String} {params : Option String}

theorem fits_of_mem_spellings (hexecutable : IsQuotable executable) (hscript : IsQuotable script)
    (hwords : ∀ word ∈ words, IsParameter word) (hid : IsHexId id) :
    ∀ spelling ∈ spellings executable script words id, spelling.Fits := by
  have hscript : ∀ spelling ∈ scriptSpellings script words, spelling.Fits := by
    refine List.forall_mem_cons.2 ⟨hscript.fits, fun spelling h => ?_⟩
    obtain ⟨word, hword, rfl⟩ := List.mem_map.1 h
    exact (hwords word hword).fits
  have hfront : ∀ spelling ∈ ["/U", "/K", "set", "VSCMD_SKIP_SENDTELEMETRY=1", "&&"].map
      Spelling.bare, spelling.Fits := by
    decide
  have hmarkers : ∀ spelling ∈ ["&&", "echo", "SONARLINT_BEGIN_CAPTURE", "&&", "set", "&&",
      "echo", "SONARLINT_END_CAPTURE"].map Spelling.bare, spelling.Fits := by
    decide
  intro spelling h
  obtain h | h := List.mem_append.1 h
  · obtain h | h := List.mem_append.1 h
    · obtain rfl | h := List.mem_cons.1 h
      · exact hexecutable.fits
      · exact hfront spelling h
    · exact hscript spelling h
  · by_cases hspelling : spelling = .bare id
    · exact hspelling ▸ hid.fits
    · exact hmarkers spelling (by simp at h ⊢; tauto)

theorem toList_line (hwords : ∀ word ∈ words, IsParameter word)
    (hparams : params.getD "" = " ".intercalate words) (seconds : Binary64) :
    (Request.line ⟨executable, Capture.arguments script params id, seconds⟩).toList =
      [' '].intercalate ((spellings executable script words id).map Spelling.text) := by
  have hbegin : (beginMarker id).toList = "SONARLINT_BEGIN_CAPTURE ".toList ++ id.toList :=
    String.toList_append
  have hend : (endMarker id).toList = "SONARLINT_END_CAPTURE ".toList ++ id.toList :=
    String.toList_append
  rw [Request.line, Capture.arguments, String.toList_append, String.toList_append,
    String.toList_append, String.toList_intercalate, spellings, List.map_append, List.map_append,
    intercalate_append (by simp) (by simp), intercalate_append (by simp) (by simp [scriptSpellings]),
    ← toList_scriptCommand hwords hparams]
  simp only [List.map_cons, List.map_nil, List.intercalate_cons_cons, List.intercalate_singleton,
    String.toList_append, hbegin, hend, Spelling.text, String.reduceToList, List.append_assoc,
    List.cons_append, List.nil_append]

theorem splitWords_line (hexecutable : IsQuotable executable) (hscript : IsQuotable script)
    (hwords : ∀ word ∈ words, IsParameter word) (hparams : params.getD "" = " ".intercalate words)
    (hid : IsHexId id) (seconds : Binary64) :
    splitWords (Request.line ⟨executable, Capture.arguments script params id, seconds⟩) =
      .ok ([executable, "/U", "/K", "set", "VSCMD_SKIP_SENDTELEMETRY=1", "&&", script] ++ words ++
        ["&&", "echo", "SONARLINT_BEGIN_CAPTURE", id, "&&", "set", "&&", "echo",
          "SONARLINT_END_CAPTURE", id]) := by
  rw [splitWords_joined (fits_of_mem_spellings hexecutable hscript hwords hid)
    (toList_line hwords hparams seconds), spellings, List.map_append, List.map_append,
    map_word_scriptSpellings]
  rfl

end Launch

/-! ## The process -/

section Process

variable {executable script id : String} {words : List String} {params : Option String}

/-- **A process is started with the words of the capture**: on a host where a process is started
    with words, however it behaves, these are the program, its options, the script, its
    parameters, and the commands that print the markers and the environment. White space in the
    program and in the script splits neither, and with no parameter there is no word in its
    place. -/
theorem Launcher.commandLine_words (hexecutable : IsQuotable executable)
    (hscript : IsQuotable script) (hwords : ∀ word ∈ words, IsParameter word)
    (hparams : params.getD "" = " ".intercalate words) (hid : IsHexId id) (encoding : Encoding)
    (behaviour : ProcessBehaviour) (seconds : Binary64) :
    (Launcher.ofProcess encoding behaviour .posix
        ⟨executable, Capture.arguments script params id, seconds⟩).2.map (·.commandLine) =
      [.words ([executable, "/U", "/K", "set", "VSCMD_SKIP_SENDTELEMETRY=1", "&&", script] ++
        words ++ ["&&", "echo", "SONARLINT_BEGIN_CAPTURE", id, "&&", "set", "&&", "echo",
          "SONARLINT_END_CAPTURE", id])] := by
  have hline := Launch.splitWords_line hexecutable hscript hwords hparams hid seconds
  rw [Launcher.ofProcess, Launch.Request.commandLine, hline]
  cases behaviour.startFailure <;> rfl

/-- With white space, single quotes and number signs in the paths, and two parameters. -/
theorem Launcher.commandLine_words_ofSpaced :
    (IsQuotable "C:/Tom's tools #2/cmd.exe" ∧ IsQuotable "/opt/Visual\tStudio /Dev 'Cmd'.bat" ∧
      (∀ word ∈ ["-arch=amd64", "#2"], IsParameter word) ∧
      (some "-arch=amd64 #2").getD "" = " ".intercalate ["-arch=amd64", "#2"] ∧ IsHexId "0f") ∧
    (Launcher.ofProcess .utf16 {} .posix
        ⟨"C:/Tom's tools #2/cmd.exe",
          Capture.arguments "/opt/Visual\tStudio /Dev 'Cmd'.bat" (some "-arch=amd64 #2") "0f",
          .ofInt 30⟩).2.map (·.commandLine) =
      [.words ["C:/Tom's tools #2/cmd.exe", "/U", "/K", "set", "VSCMD_SKIP_SENDTELEMETRY=1", "&&",
        "/opt/Visual\tStudio /Dev 'Cmd'.bat", "-arch=amd64", "#2", "&&", "echo",
        "SONARLINT_BEGIN_CAPTURE", "0f", "&&", "set", "&&", "echo", "SONARLINT_END_CAPTURE",
        "0f"]] :=
  have hexecutable : IsQuotable "C:/Tom's tools #2/cmd.exe" := by decide
  have hscript : IsQuotable "/opt/Visual\tStudio /Dev 'Cmd'.bat" := by decide
  have hwords : ∀ word ∈ ["-arch=amd64", "#2"], IsParameter word := by decide +kernel
  have hparams : (some "-arch=amd64 #2").getD "" = " ".intercalate ["-arch=amd64", "#2"] := by
    decide
  have hid : IsHexId "0f" := ⟨by decide, by decide +kernel⟩
  ⟨⟨hexecutable, hscript, hwords, hparams, hid⟩,
    commandLine_words hexecutable hscript hwords hparams hid .utf16 {} (.ofInt 30)⟩

end Process

end CompileCommands
