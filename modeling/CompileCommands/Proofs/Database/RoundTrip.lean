/-
  Entries written as objects and read back.

  * `Entry.member?_directory`, `Entry.member?_file`, `Entry.member?_arguments`,
    `Entry.member?_command`: what an entry's object has under each name;
  * `Entry.ofJson_toJson`: an entry is read back from its object;
  * `Database.exists_mapM_ofJson`: objects with members of any kind are read as some entries;
  * `Database.ofJson_roundTrip`: the entries of a document are read back, and what was read once is
    read the same again.
-/
import CompileCommands.Database.Entry

namespace CompileCommands

namespace Entry

/-! ## The members of an object -/

theorem member?_directory (e : Entry) : e.toJson.member? "directory" = some (.str e.directory) := by
  simp [toJson, members, Json.member?, Bindings.get?_cons]

theorem member?_file (e : Entry) : e.toJson.member? "file" = some (.str e.file) := by
  simp [toJson, members, Json.member?, Bindings.get?_cons]

theorem member?_arguments (e : Entry) : e.toJson.member? "arguments" =
    e.arguments.map fun words => .arr (words.map .str) := by
  cases harguments : e.arguments <;> cases hcommand : e.command <;>
    simp [toJson, members, Json.member?, Bindings.get?_cons, harguments, hcommand]

theorem member?_command (e : Entry) : e.toJson.member? "command" = e.command.map .str := by
  cases harguments : e.arguments <;> cases hcommand : e.command <;>
    simp [toJson, members, Json.member?, Bindings.get?_cons, harguments, hcommand]

/-! ## Reading -/

/-- Words are texts, and a text is its own plain text. -/
theorem words_map_str (texts : List String) : words (.arr (texts.map .str)) = some texts := by
  have hdisplay : Json.display ∘ Json.str = id := rfl
  rw [words, List.map_map, hdisplay, List.map_id]

/-- An entry is read back from its object: nothing is lost, and nothing is put in for what is
    missing. -/
theorem ofJson_toJson (e : Entry) : ofJson e.toJson = .ok e := by
  have harguments : (e.toJson.member? "arguments").bind words = e.arguments := by
    rw [member?_arguments]
    cases e.arguments with
    | none => rfl
    | some texts => exact words_map_str texts
  have hcommand : e.toJson.text? "command" = e.command := by
    rw [Json.text?, member?_command]
    cases e.command with
    | none => rfl
    | some text => rfl
  have hdirectory : e.toJson.text? "directory" = some e.directory := by
    rw [Json.text?, member?_directory]
    rfl
  have hfile : e.toJson.text? "file" = some e.file := by
    rw [Json.text?, member?_file]
    rfl
  change Except.ok
    { file := (e.toJson.text? "file").getD ""
      directory := (e.toJson.text? "directory").getD ""
      command := e.toJson.text? "command"
      arguments := (e.toJson.member? "arguments").bind words } = Except.ok e
  rw [hfile, hdirectory, hcommand, harguments]
  rfl

end Entry

namespace Database

/-! ## Documents -/

theorem mapM_ofJson_toJson (entries : List Entry) :
    (entries.map Entry.toJson).mapM Entry.ofJson = .ok entries := by
  induction entries with
  | nil => rfl
  | cons e entries ih =>
    rw [List.map_cons, List.mapM_cons, Entry.ofJson_toJson, ih]
    rfl

/-- Members of any kind, or none, make an entry. -/
theorem exists_mapM_ofJson (objects : List (List (String × Json))) :
    ∃ entries, (objects.map Json.obj).mapM Entry.ofJson = .ok entries := by
  induction objects with
  | nil => exact ⟨[], rfl⟩
  | cons members objects ih =>
    obtain ⟨e, he⟩ : ∃ e, Entry.ofJson (.obj members) = .ok e := ⟨_, rfl⟩
    obtain ⟨entries, hentries⟩ := ih
    refine ⟨e :: entries, ?_⟩
    rw [List.map_cons, List.mapM_cons, he, hentries]
    rfl

/-- Entries written as objects are read back exactly, whichever of their parts are there. And a
    list of any objects is read as entries that are read the same again once they are written:
    what is of an unexpected kind is put right at the first reading. -/
theorem ofJson_roundTrip :
    (∀ entries : List Entry, ofJson (.arr (entries.map Entry.toJson)) = .ok entries) ∧
    ∀ objects : List (List (String × Json)), ∃ entries,
      ofJson (.arr (objects.map .obj)) = .ok entries ∧
        ofJson (.arr (entries.map Entry.toJson)) = ofJson (.arr (objects.map .obj)) := by
  refine ⟨mapM_ofJson_toJson, fun objects => ?_⟩
  obtain ⟨entries, hentries⟩ := exists_mapM_ofJson objects
  refine ⟨entries, hentries, ?_⟩
  exact (mapM_ofJson_toJson entries).trans hentries.symm

/-- A list without words stays apart from a missing one, and a word that is no text becomes its
    plain text once. -/
example : (do
    let entries ← ofJson (.arr [.obj [("file", .int 1), ("arguments", .arr [])],
      .obj [("command", .null), ("arguments", .arr [.null, .arr [.str "a"]])]])
    ofJson (.arr (entries.map Entry.toJson))) =
      .ok [{ arguments := some [] }, { arguments := some ["None", "['a']"] }] := by
  rfl

end Database
end CompileCommands
