/-
  A database with its files already seen from their directories.

  * `Entry.resolved`: an entry that names its file as seen from its directory, and no directory;
  * `fileName_resolve`: seen from a directory, a file keeps its name;
  * `conditions_resolved`: whatever the lookup asks of an entry holds of both forms or of neither;
  * `lookup_resolved`: so the lookup chooses by the same position.
-/
import CompileCommands.Proofs.Database.Spelling
import CompileCommands.Proofs.Path.Parts

namespace CompileCommands

namespace Path

/-! ## Files seen from directories -/

theorem not_isRooted_withSlashes {file : String} (h : isAbsolute file = false) :
    isRooted (withSlashes file) = false := by
  rw [isRooted, withSlashes, String.toList_ofList, decide_eq_false_iff_not]
  unfold isAbsolute at h
  cases hfile : file.toList with
  | nil => simp
  | cons c rest =>
    rw [hfile] at h
    simp only [Bool.or_eq_false_iff, decide_eq_false_iff_not] at h
    obtain ⟨⟨hslash, hback⟩, -⟩ := h
    have hc : slash c = c := if_neg hback
    rw [List.map_cons, List.head?_cons, hc, Option.some.injEq]
    exact hslash

theorem fileName_resolve (file dir : String) : fileName (resolve file dir) = fileName file := by
  unfold resolve
  split
  · rfl
  · next h =>
    simp only [not_or, Bool.not_eq_true] at h
    obtain ⟨-, -, habsolute⟩ := h
    have hclosed := (isClosed_append_gap (withSlashes dir)).withSlashes
    rw [join_eq_append (not_isRooted_withSlashes habsolute), fileName, withSlashes_append,
      withSlashes_withSlashes, hclosed.name_append, fileName]

theorem resolve_eq_empty_iff (file dir : String) : resolve file dir = "" ↔ file = "" := by
  unfold resolve
  split
  · rfl
  · next h =>
    simp only [not_or, Bool.not_eq_true] at h
    obtain ⟨hfile, -, habsolute⟩ := h
    have hne : withSlashes file ≠ "" := fun hempty =>
      hfile ((withSlashes_eq_empty_iff file).1 hempty)
    rw [join_eq_append (not_isRooted_withSlashes habsolute)]
    exact iff_of_false (append_ne_empty hne _) hfile

theorem resolve_empty (file : String) : resolve file "" = file :=
  if_pos (.inr (.inl rfl))

end Path

/-- The entry with its file as seen from its directory, and without a directory. -/
def Entry.resolved (e : Entry) : Entry :=
  { e with file := e.resolvedFile, directory := "" }

namespace Entry

variable (e : Entry)

theorem resolvedFile_resolved : e.resolved.resolvedFile = e.resolvedFile :=
  Path.resolve_empty e.resolvedFile

theorem file_resolved_eq_empty_iff : e.resolved.file = "" ↔ e.file = "" :=
  Path.resolve_eq_empty_iff e.file e.directory

theorem fileName_resolved : Path.fileName e.resolved.file = Path.fileName e.file :=
  Path.fileName_resolve e.file e.directory

end Entry

namespace Database

/-! ## The lookup -/

/-- One condition compares the name of the file as written, the others the file as seen from its
    directory, or nothing. -/
theorem conditions_resolved {file : String} {condition : Entry → Bool}
    (h : condition ∈ conditions file) (e : Entry) : condition e.resolved = condition e := by
  have hfor (p : String) : isFor p e.resolved = isFor p e := by
    rw [isFor, isFor, e.resolvedFile_resolved]
  have hname (name : String) : hasName name e.resolved = hasName name e := by
    rw [hasName, hasName, e.fileName_resolved]
  have hunder (root : String) : isUnder root e.resolved = isUnder root e := by
    rw [isUnder, isUnder, e.resolvedFile_resolved]
  unfold conditions at h
  cases hkind : SourceKind.ofPath file with
  | code =>
    rw [hkind, List.mem_singleton] at h
    rw [h, hfor]
  | header =>
    simp only [hkind, List.mem_append, List.mem_map, List.mem_cons, List.not_mem_nil, or_false] at h
    obtain (⟨p, -, rfl⟩ | ⟨p, -, rfl⟩) | rfl | rfl := h
    · exact hfor p
    · exact hname (Path.fileName p)
    · exact hunder (Path.directoryName file)
    · rfl

theorem findIdx?_resolved {condition : Entry → Bool} (h : ∀ e, condition e.resolved = condition e)
    (entries : List Entry) :
    ((entries.map Entry.resolved).findIdx? fun e => e.file ≠ "" && condition e) =
      entries.findIdx? fun e => e.file ≠ "" && condition e := by
  rw [List.findIdx?_map]
  congr 1
  funext e
  simp only [Function.comp_apply, ne_eq, e.file_resolved_eq_empty_iff, h]

theorem firstPosition?_resolved {conditions : List (Entry → Bool)}
    (h : ∀ condition ∈ conditions, ∀ e, condition e.resolved = condition e) (entries : List Entry) :
    firstPosition? conditions (entries.map Entry.resolved) = firstPosition? conditions entries := by
  unfold firstPosition?
  induction conditions with
  | nil => rfl
  | cons condition conditions ih =>
    rw [List.forall_mem_cons] at h
    rw [List.findSome?_cons, List.findSome?_cons, findIdx?_resolved h.1, ih h.2]

/-- **Where an entry says its file lies does not count, only where the file lies.** Let every entry
    of a database name its file as it is seen from its directory, and no directory. For every file,
    the lookup chooses the entry at the same position as before, or none in both cases. -/
theorem lookup_resolved (file : String) (entries : List Entry) :
    position? file (entries.map Entry.resolved) = position? file entries ∧
    Chooses file entries (position? file entries) ∧
    Chooses file (entries.map Entry.resolved) (position? file (entries.map Entry.resolved)) := by
  have hconditions : ∀ condition ∈ conditions file, ∀ e : Entry,
      condition e.resolved = condition e := fun _ hcondition => conditions_resolved hcondition
  exact ⟨firstPosition?_resolved hconditions entries, chooses_position? file entries,
    chooses_position? file _⟩

/-- Among relative files, and one that is absolute, the second is the one for the header in both
    forms. -/
example :
    let entries : List Entry := [{ file := "main.cpp", directory := "/src" },
      { file := "..\\lib\\Widget.cc", directory := "/src/" },
      { file := "C:\\x.cpp", directory := "/src" }]
    position? "/lib/widget.h" entries = some 1 ∧
      entries.map (·.resolved.file) = ["/src/main.cpp", "/src/../lib/Widget.cc", "C:\\x.cpp"] := by
  decide +kernel

end Database
end CompileCommands
