/-
  The entry for a header, as the entry for the first of its code files that has one.

  * `Database.located`: the entries of the database that is located, if it can be used;
  * `entryFor_eq_bind`: the entry for a file is looked up in them;
  * `HasEntry`: a file that has an entry of its own;
  * `headerEntry?_of_split`: the first code file with an entry decides for the header;
  * `candidates_parts`: the code files lie beside the header, with the extensions of code in the
    place of its own;
  * `entryFor_candidates`: so the header is served as the first of them that has an entry.
-/
import CompileCommands.Database.Resolution
import CompileCommands.Proofs.Path.Parts
import CompileCommands.Proofs.Workspace.Settings
import CompileCommands.World.Description
import Mathlib.Data.List.Forall2

namespace CompileCommands.Database

open Text

variable {file header : String} {entries : List Entry} {locate : Query World (Option String)}
  {w : World}

/-! ## Located databases -/

/-- The entries of the database at a path; none if it is not there, cannot be read or is empty,
    and then the reason is reported. -/
def entriesAt (path : String) : Query World (Option (List Entry)) := do
  if ← Query.view (·.isFile path) then
    match ← load path with
    | none => return none
    | some [] =>
      Query.report (.databaseEmpty path)
      return none
    | some entries => return some entries
  else
    Query.report (.databaseVanished path)
    return none

/-- The entries of the database that `locate` finds. -/
def located (locate : Query World (Option String)) : Query World (Option (List Entry)) := do
  match ← locate with
  | none | some "" => return none
  | some path => entriesAt path

/-- The entry for a file among entries, if there are any. -/
def lookupIn (file : String) : Option (List Entry) → Query World (Option Entry)
  | none => return none
  | some entries => fun _ => lookup file entries

theorem entryIn_eq_bind (path file : String) :
    entryIn path file = entriesAt path >>= lookupIn file := by
  unfold entryIn entriesAt
  rw [bind_assoc]
  refine bind_congr fun isFile => ?_
  split
  · rw [bind_assoc]
    refine bind_congr fun entries => ?_
    match entries with
    | none => rfl
    | some [] => rfl
    | some (e :: entries) => exact (pure_bind (some (e :: entries)) (lookupIn file)).symm
  · rfl

theorem entryFor_eq_bind (hfile : file ≠ "") (locate : Query World (Option String)) :
    entryFor locate (some file) = located locate >>= lookupIn file := by
  have hargument (f : String → Query World (Option Entry)) :
      (Query.lift (.ok file) >>= f) = f file := rfl
  unfold entryFor located
  rw [requireArgument_of_ne hfile, hargument, bind_assoc]
  refine bind_congr fun path => ?_
  match path with
  | none => rfl
  | some path =>
    by_cases hempty : path = ""
    · rw [hempty]
      rfl
    · simp only
      exact entryIn_eq_bind path file

theorem entryFor_of_located (hfile : file ≠ "")
    (h : (located locate w).result = .ok (some entries)) :
    entryFor locate (some file) w = (lookup file entries).after (located locate w).log := by
  rw [entryFor_eq_bind hfile, Query.bind_of_ok h]
  rfl

/-! ## Entries of their own -/

/-- There is an entry for the file. -/
def HasEntry (locate : Query World (Option String)) (w : World) (file : String) : Prop :=
  ∃ e, (entryFor locate (some file) w).result = .ok (some e)

theorem lookup_of_code (hcode : SourceKind.ofPath file = .code) {e : Entry}
    (h : codeEntry? file entries = some e) : lookup file entries = .ok (some e) := by
  unfold lookup searchCode
  simp only [hcode, h]

theorem lookup_of_header (hheader : SourceKind.ofPath header = .header) {e : Entry}
    (h : headerEntry? header entries = some e) : lookup header entries = .ok (some e) := by
  unfold lookup searchHeader
  simp only [hheader, h]

theorem hasEntry_iff (hfile : file ≠ "") (hcode : SourceKind.ofPath file = .code)
    (h : (located locate w).result = .ok (some entries)) :
    HasEntry locate w file ↔ ∃ e, codeEntry? file entries = some e := by
  rw [HasEntry, entryFor_of_located hfile h]
  unfold lookup searchCode
  simp only [hcode, Outcome.after]
  cases codeEntry? file entries with
  | none => exact iff_of_false (fun ⟨_, he⟩ => by cases he) (fun ⟨_, he⟩ => by cases he)
  | some e => exact iff_of_true ⟨e, rfl⟩ ⟨e, rfl⟩

/-- Without entries no file has one. -/
theorem located_of_hasEntry (hfile : file ≠ "") (h : HasEntry locate w file) :
    ∃ entries, (located locate w).result = .ok (some entries) := by
  obtain ⟨e, he⟩ := h
  rw [entryFor_eq_bind hfile] at he
  obtain ⟨found, hfound, he⟩ := Query.result_bind_eq_ok_iff.1 he
  cases found with
  | none => cases he
  | some entries => exact ⟨entries, hfound⟩

/-! ## The first code file -/

theorem headerEntry?_of_split {earlier later : List String} {path : String} {e : Entry}
    (hpaths : Path.candidates header Path.codeExtensions = earlier ++ path :: later)
    (hearlier : ∀ p ∈ earlier, codeEntry? p entries = none)
    (h : codeEntry? path entries = some e) : headerEntry? header entries = some e := by
  have hfirst : (Path.candidates header Path.codeExtensions).findSome?
      (fun p => codeEntry? p entries) = some e :=
    List.findSome?_eq_some_iff.2 ⟨earlier, path, later, hpaths, h, hearlier⟩
  unfold headerEntry?
  dsimp only
  rw [hfirst]
  rfl

/-- The code files for a header lie beside it. Their names have the extensions of code, one after
    the other, in the place of its own, which begins at the last dot of its name. -/
theorem candidates_parts (hheader : SourceKind.ofPath header = .header) :
    ∃ stem extension, Path.fileName header = stem ++ extension ∧ Path.IsStem stem ∧
      Path.IsExtension extension ∧ lower extension ∈ Path.headerExtensions ∧
      List.Forall₂ (fun path extension' => SourceKind.ofPath path = .code ∧
        Path.directoryName path = Path.directoryName header ∧
        Path.fileName path = stem ++ extension')
        (Path.candidates header Path.codeExtensions) Path.codeExtensions := by
  obtain ⟨folder, stem, extension, hparts, hextension⟩ := Path.exists_hasExtension_of_header hheader
  refine ⟨stem, extension, hparts.name, hparts.stem, hparts.extension, hextension, ?_⟩
  rw [hparts.candidates, List.forall₂_map_left_iff, List.forall₂_same]
  intro extension' hmem
  have hpath := hparts.replace (Path.isExtension_codeExtensions extension' hmem)
  exact ⟨hpath.ofPath_eq_code (Path.lower_codeExtensions extension' hmem),
    hpath.directory_eq hparts, hpath.name⟩

theorem isCode_of_mem_candidates (hheader : SourceKind.ofPath header = .header) {path : String}
    (hpath : path ∈ Path.candidates header Path.codeExtensions) :
    path ≠ "" ∧ SourceKind.ofPath path = .code := by
  obtain ⟨folder, stem, extension, hparts, -⟩ := Path.exists_hasExtension_of_header hheader
  rw [hparts.candidates, List.mem_map] at hpath
  obtain ⟨extension', hmem, rfl⟩ := hpath
  have hpath := hparts.replace (Path.isExtension_codeExtensions extension' hmem)
  exact ⟨hpath.ne_empty, hpath.ofPath_eq_code (Path.lower_codeExtensions extension' hmem)⟩

/-- **A header is served as the first of its code files that has an entry.** Wherever the database
    lies and whatever is there, if some code file for a header has an entry, so does a first one,
    and the header gets the same answer, with the same report. The code files are code, lie in the
    directory of the header and have its name, with the extensions of code one after the other in
    the place of the last extension of the name, and of nothing else. -/
theorem entryFor_candidates (hheader : SourceKind.ofPath header = .header)
    (locate : Query World (Option String)) (w : World) :
    ((∃ path ∈ Path.candidates header Path.codeExtensions, HasEntry locate w path) →
      ∃ earlier path later,
        Path.candidates header Path.codeExtensions = earlier ++ path :: later ∧
        (∀ p ∈ earlier, ¬HasEntry locate w p) ∧ HasEntry locate w path ∧
        entryFor locate (some header) w = entryFor locate (some path) w) ∧
    ∃ stem extension, Path.fileName header = stem ++ extension ∧ Path.IsStem stem ∧
      Path.IsExtension extension ∧ lower extension ∈ Path.headerExtensions ∧
      List.Forall₂ (fun path extension' => SourceKind.ofPath path = .code ∧
        Path.directoryName path = Path.directoryName header ∧
        Path.fileName path = stem ++ extension')
        (Path.candidates header Path.codeExtensions) Path.codeExtensions := by
  refine ⟨?_, candidates_parts hheader⟩
  have hcode (path : String) (hpath : path ∈ Path.candidates header Path.codeExtensions) :=
    isCode_of_mem_candidates hheader hpath
  rintro ⟨served, hmem, hserved⟩
  obtain ⟨entries, hentries⟩ := located_of_hasEntry (hcode served hmem).1 hserved
  have hiff (p : String) (hp : p ∈ Path.candidates header Path.codeExtensions) :
      HasEntry locate w p ↔ ∃ e, codeEntry? p entries = some e :=
    hasEntry_iff (hcode p hp).1 (hcode p hp).2 hentries
  have hfound : ((Path.candidates header Path.codeExtensions).findSome?
      fun p => codeEntry? p entries).isSome := by
    obtain ⟨e, he⟩ := (hiff served hmem).1 hserved
    exact List.findSome?_isSome_iff.2 ⟨served, hmem, by rw [he]; rfl⟩
  obtain ⟨e, he⟩ := Option.isSome_iff_exists.1 hfound
  obtain ⟨earlier, path, later, hpaths, hpath, hearlier⟩ := List.findSome?_eq_some_iff.1 he
  have hpathmem : path ∈ Path.candidates header Path.codeExtensions := by
    rw [hpaths]
    exact List.mem_append_right _ List.mem_cons_self
  refine ⟨earlier, path, later, hpaths, fun p hp => ?_, (hiff path hpathmem).2 ⟨e, hpath⟩, ?_⟩
  · rw [hiff p (by rw [hpaths]; exact List.mem_append_left _ hp), hearlier p hp]
    exact fun ⟨_, h⟩ => by cases h
  · rw [entryFor_of_located (hcode path hpathmem).1 hentries,
      entryFor_of_located (Path.ne_empty_of_header hheader) hentries,
      lookup_of_code (hcode path hpathmem).2 hpath,
      lookup_of_header hheader (headerEntry?_of_split hpaths hearlier hpath)]

/-- A database with entries for two of the code files of one header. -/
def widgets : World :=
  ({} : World).placing "/b.d/db.json" ⟨.bytes (Text.utf8Bytes
    "[\x7b\"file\": \"/p.d/.x.tar.c\"\x7d, \x7b\"file\": \"C:/p.d/.x.tar.cxx\"\x7d]"), 0⟩

theorem entryFor_widgets :
    entryFor (return some "/b.d/db.json") (some "C:\\p.d\\.x.tar.H") widgets =
      entryFor (return some "/b.d/db.json") (some "C:/p.d/.x.tar.cxx") widgets := by
  have hheader : SourceKind.ofPath "C:\\p.d\\.x.tar.H" = .header := by decide +kernel
  have hcxx : HasEntry (return some "/b.d/db.json") widgets "C:/p.d/.x.tar.cxx" :=
    ⟨{ file := "C:/p.d/.x.tar.cxx" }, by decide +kernel⟩
  have hcpp : (entryFor (return some "/b.d/db.json") (some "C:/p.d/.x.tar.cpp") widgets).result =
      .ok none := by
    decide +kernel
  have hpaths : Path.candidates "C:\\p.d\\.x.tar.H" Path.codeExtensions =
      ["C:/p.d/.x.tar.cpp", "C:/p.d/.x.tar.cxx", "C:/p.d/.x.tar.cc", "C:/p.d/.x.tar.c"] := by
    decide +kernel
  obtain ⟨hfirst, -⟩ := entryFor_candidates hheader (return some "/b.d/db.json") widgets
  obtain ⟨earlier, path, later, hsplit, hearlier, ⟨e, he⟩, hsame⟩ :=
    hfirst ⟨"C:/p.d/.x.tar.cxx", by rw [hpaths]; decide, hcxx⟩
  rw [hpaths] at hsplit
  match earlier with
  | [] =>
    obtain rfl : _ = path := (List.cons.inj hsplit).1
    rw [hcpp] at he
    cases he
  | [first] =>
    obtain rfl : _ = path := (List.cons.inj (List.cons.inj hsplit).2).1
    exact hsame
  | first :: second :: earlier =>
    obtain rfl : _ = second := (List.cons.inj (List.cons.inj hsplit).2).1
    exact absurd hcxx (hearlier _ (by simp))

end CompileCommands.Database
