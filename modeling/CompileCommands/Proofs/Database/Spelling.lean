/-
  The lookup under other spellings.

  * `conditions`: what the lookup asks of an entry, one condition after the other;
  * `position?`: the first position at which an entry satisfies the first condition that any entry
    satisfies;
  * `result_lookup`: the lookup gives the entry at this position;
  * `Entry.Respelled`, `conditions_respelled`: the conditions of a file hold of the same entries for
    all spellings of the file and of the entries;
  * `lookup_respelled`: so the lookup chooses by the same position.
-/
import CompileCommands.Proofs.Database.HeaderSearch
import CompileCommands.Proofs.Path.Spelling

namespace CompileCommands

/-- The files and the directories of the entries differ only in their spelling. -/
structure Entry.Respelled (e e' : Entry) : Prop where
  file : Path.Respelled e.file e'.file
  directory : Path.Respelled e.directory e'.directory

namespace Database

/-! ## Positions -/

/-- What the lookup asks of an entry, one condition after the other. -/
def conditions (file : String) : List (Entry → Bool) :=
  match SourceKind.ofPath file with
  | .code => [isFor file]
  | .header =>
    let paths := Path.candidates file Path.codeExtensions
    paths.map isFor ++ paths.map (fun p => hasName (Path.fileName p)) ++
      [isUnder (Path.directoryName file), fun _ => true]

/-- The position of the first entry that has a file and satisfies the first of some conditions that
    any such entry satisfies. -/
def firstPosition? (conditions : List (Entry → Bool)) (entries : List Entry) : Option ℕ :=
  conditions.findSome? fun condition => entries.findIdx? fun e => e.file ≠ "" && condition e

/-- The position of the entry that the lookup chooses. -/
def position? (file : String) (entries : List Entry) : Option ℕ :=
  firstPosition? (conditions file) entries

/-- What the lookup gives is the entry at a position, or none. -/
inductive Chooses (file : String) (entries : List Entry) : Option ℕ → Prop
  | entry {i e} : entries[i]? = some e → (lookup file entries).result = .ok (some e) →
      Chooses file entries (some i)
  | none : (lookup file entries).result = .ok none → Chooses file entries none

variable {file file' : String} {entries entries' : List Entry}

theorem result_lookup_eq_findSome? (file : String) (entries : List Entry) :
    (lookup file entries).result =
      .ok ((conditions file).findSome? fun condition => firstWhere? condition entries) := by
  unfold lookup conditions
  cases SourceKind.ofPath file with
  | code =>
    dsimp only [searchCode]
    rw [List.findSome?_cons, List.findSome?_nil, codeEntry?]
    cases firstWhere? (isFor file) entries with
    | some e => rfl
    | none => rfl
  | header =>
    dsimp only
    have hrest (under : Entry → Bool) :
        ([under, fun _ => true].findSome? fun condition => firstWhere? condition entries) =
          (firstWhere? under entries).or ( firstEntry? entries) := by
      rw [List.findSome?_cons, List.findSome?_cons, List.findSome?_nil, firstEntry?]
      cases firstWhere? under entries with
      | some e => rfl
      | none => cases firstWhere? (fun _ => true) entries <;> rfl
    rw [result_searchHeader, headerEntry?, List.findSome?_append, List.findSome?_append,
      List.findSome?_map, List.findSome?_map, Option.or_assoc, hrest]
    simp only [Option.orElse_eq_orElse, Option.orElse_eq_or]
    rfl

theorem firstWhere?_eq_bind (condition : Entry → Bool) (entries : List Entry) :
    firstWhere? condition entries =
      (entries.findIdx? fun e => e.file ≠ "" && condition e).bind (entries[·]?) := by
  rw [firstWhere?, List.find?_eq_bind_findIdx?_getElem?]

theorem findSome?_firstWhere? (conditions : List (Entry → Bool)) (entries : List Entry) :
    (conditions.findSome? fun condition => firstWhere? condition entries) =
      (firstPosition? conditions entries).bind (entries[·]?) := by
  unfold firstPosition?
  induction conditions with
  | nil => rfl
  | cons condition conditions ih =>
    rw [List.findSome?_cons, List.findSome?_cons, ih, firstWhere?_eq_bind]
    cases h : entries.findIdx? fun e => e.file ≠ "" && condition e with
    | none => rfl
    | some i =>
      obtain ⟨hi, -⟩ := List.findIdx?_eq_some_iff_getElem.1 h
      rw [Option.bind_some, List.getElem?_eq_getElem hi]

theorem lt_length_of_firstPosition? {conditions : List (Entry → Bool)} {i : ℕ}
    (h : firstPosition? conditions entries = some i) : i < entries.length := by
  obtain ⟨condition, -, hi⟩ := List.exists_of_findSome?_eq_some h
  exact (List.findIdx?_eq_some_iff_getElem.1 hi).1

theorem chooses_position? (file : String) (entries : List Entry) :
    Chooses file entries (position? file entries) := by
  have hresult := result_lookup_eq_findSome? file entries
  rw [findSome?_firstWhere?, ← position?] at hresult
  cases hposition : position? file entries with
  | none =>
    rw [hposition] at hresult
    exact .none hresult
  | some i =>
    have hi := List.getElem?_eq_getElem (lt_length_of_firstPosition? hposition)
    rw [hposition, Option.bind_some, hi] at hresult
    exact .entry hi hresult

/-! ## Spellings -/

theorem resolvedFile_respelled {e e' : Entry} (h : e.Respelled e') :
    Path.Respelled e.resolvedFile e'.resolvedFile :=
  h.file.resolve h.directory

/-- Two conditions that hold of the same entries, up to spelling. -/
def Agrees (c c' : Entry → Bool) : Prop :=
  ∀ e e', e.Respelled e' → c e = c' e'

theorem isFor_respelled {p q : String} (h : Path.Respelled p q) : Agrees (isFor p) (isFor q) :=
  fun _ _ he => Path.isMatching_congr h (resolvedFile_respelled he)

theorem isUnder_respelled {p q : String} (h : Path.Respelled p q) :
    Agrees (isUnder p) (isUnder q) :=
  fun _ _ he => Path.isRootedUnder_congr (resolvedFile_respelled he) h

theorem hasName_respelled {p q : String} (h : Path.Respelled p q) :
    Agrees (hasName (Path.fileName p)) (hasName (Path.fileName q)) := by
  intro e e' he
  rw [hasName, hasName, Path.lower_fileName_congr h, Path.lower_fileName_congr he.file]

theorem conditions_respelled (h : Path.Respelled file file') :
    List.Forall₂ Agrees (conditions file) (conditions file') := by
  unfold conditions
  rw [Path.ofPath_congr h]
  cases SourceKind.ofPath file' with
  | code => exact .cons (isFor_respelled h) .nil
  | header =>
    have hcandidates := h.candidates Path.codeExtensions
    have hpaths : List.Forall₂ Agrees ((Path.candidates file Path.codeExtensions).map isFor)
        ((Path.candidates file' Path.codeExtensions).map isFor) := by
      rw [List.forall₂_map_left_iff, List.forall₂_map_right_iff]
      exact hcandidates.imp fun _ _ => isFor_respelled
    have hnames : List.Forall₂ Agrees
        ((Path.candidates file Path.codeExtensions).map fun p => hasName (Path.fileName p))
        ((Path.candidates file' Path.codeExtensions).map fun p => hasName (Path.fileName p)) := by
      rw [List.forall₂_map_left_iff, List.forall₂_map_right_iff]
      exact hcandidates.imp fun _ _ => hasName_respelled
    have hrest : List.Forall₂ Agrees [isUnder (Path.directoryName file), fun _ => true]
        [isUnder (Path.directoryName file'), fun _ => true] :=
      .cons (isUnder_respelled h.directoryName) (.cons (fun _ _ _ => rfl) .nil)
    exact List.rel_append (List.rel_append hpaths hnames) hrest

theorem findIdx?_respelled {c c' : Entry → Bool} (hc : Agrees c c')
    (hentries : List.Forall₂ Entry.Respelled entries entries') :
    (entries.findIdx? fun e => e.file ≠ "" && c e) =
      entries'.findIdx? fun e => e.file ≠ "" && c' e := by
  induction hentries with
  | nil => rfl
  | cons he _ ih =>
    rw [List.findIdx?_cons, List.findIdx?_cons, ih, hc _ _ he]
    simp only [ne_eq, he.file.eq_empty_iff]

theorem firstPosition?_respelled {cs cs' : List (Entry → Bool)} (hcs : List.Forall₂ Agrees cs cs')
    (hentries : List.Forall₂ Entry.Respelled entries entries') :
    firstPosition? cs entries = firstPosition? cs' entries' := by
  unfold firstPosition?
  induction hcs with
  | nil => rfl
  | cons hc _ ih => rw [List.findSome?_cons, List.findSome?_cons, findIdx?_respelled hc hentries, ih]

/-- **The lookup does not depend on spelling.** Let slashes and backslashes be exchanged, and the
    case of letters of ASCII be changed, anywhere in a file that is looked for, and in the files and
    the directories of the entries. The file is of the same kind, and the lookup chooses the entry
    at the same position, or none in both cases. -/
theorem lookup_respelled (hfile : Path.Respelled file file')
    (hentries : List.Forall₂ Entry.Respelled entries entries') :
    SourceKind.ofPath file = SourceKind.ofPath file' ∧
    position? file entries = position? file' entries' ∧
    Chooses file entries (position? file entries) ∧
    Chooses file' entries' (position? file' entries') := by
  have hposition : position? file entries = position? file' entries' :=
    firstPosition?_respelled (conditions_respelled hfile) hentries
  exact ⟨Path.ofPath_congr hfile, hposition, chooses_position? file entries,
    chooses_position? file' entries'⟩

/-- A header and its code file in one spelling, and both in other ones. -/
theorem lookup_respelled_widget :
    SourceKind.ofPath "C:\\Src\\Widget.HPP" = .header ∧
    position? "C:\\Src\\Widget.HPP"
      [{ file := "main.CPP", directory := "c:/src" }, { file := "WIDGET.cxx", directory := "c:\\src" }] =
        some 1 := by
  have hfile : Path.Respelled "c:/src/widget.hpp" "C:\\Src\\Widget.HPP" := by decide +kernel
  have hmain : Entry.Respelled { file := "main.cpp", directory := "c:/src" }
      { file := "main.CPP", directory := "c:/src" } :=
    ⟨by decide +kernel, .refl _⟩
  have hwidget : Entry.Respelled { file := "widget.cxx", directory := "c:/src" }
      { file := "WIDGET.cxx", directory := "c:\\src" } :=
    ⟨by decide +kernel, by decide +kernel⟩
  obtain ⟨hkind, hposition, -, -⟩ :=
    lookup_respelled hfile (.cons hmain (.cons hwidget .nil))
  rw [← hkind, ← hposition]
  exact ⟨by decide +kernel, by decide +kernel⟩

end Database
end CompileCommands
