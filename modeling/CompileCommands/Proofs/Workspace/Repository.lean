/-
  Libraries that find repositories.

  * `World.exists?_text_iff`, `World.IsTree.isDirectoryAt_of_child`: what is at a directory, and
    what is one, without links;
  * `Repository.Nearest`: the nearest directory at or above a start that holds a repository, and
    `IsNearest`: that holds the marker of one;
  * `Library.Searches`: what the search for a workspace root takes from a library of version
    control; `Searches.between`: from the start up to the repository, every directory has the same
    one;
  * `searches_standard`: the library of the commands is of this kind, and `find?_apply`: what it
    comes to.
-/
import CompileCommands.Proofs.Computation
import CompileCommands.Proofs.Path.Lowest
import CompileCommands.Proofs.World.Tree
import CompileCommands.Workspace.Root

namespace CompileCommands

open CompileCommands.Path (Lexical)

/-! ## Names below a directory -/

namespace World

variable {w : World} {d : Lexical} {name : String}

theorem isLowest_pathOf (h : d.IsLowest) : (pathOf d.names).IsLowest :=
  ⟨nofun, h.names⟩

theorem isLowest_child (h : d.IsLowest) (hname : Path.IsPlain name) : (d.child name).IsLowest := by
  refine ⟨h.anchor, fun n hn => ?_⟩
  rcases List.mem_append.1 hn with hn | hn
  · exact h.names n hn
  · rw [List.mem_singleton.1 hn]
    exact hname

theorem exists?_text_iff (hlinks : w.links = []) (h : d.IsLowest) :
    w.exists? d.text ↔ w.HasAt d.names := by
  rw [exists?_iff_hasAt (Lexical.text_ne_empty h.anchor), locate_of_links hlinks, lexical_text h]

theorem isDirectory_text_iff (hlinks : w.links = []) (h : d.IsLowest) :
    w.isDirectory d.text ↔ w.isDirectoryAt d.names := by
  rw [isDirectory, locate_of_links hlinks, lexical_text h]
  simp [Lexical.text_ne_empty h.anchor]

/-- What holds something is a directory. -/
theorem IsTree.isDirectoryAt_of_child (htree : w.IsTree) (hlinks : w.links = []) (h : d.IsLowest)
    (hname : Path.IsPlain name) (hchild : w.exists? (d.child name).text) :
    w.isDirectoryAt d.names := by
  have hdirectory := htree _ ((exists?_text_iff hlinks (isLowest_child h hname)).1 hchild)
  rwa [Lexical.child, List.dropLast_concat] at hdirectory

end World

namespace Repository

variable {w : World} {d start repository : Lexical}

/-! ## The nearest repository -/

/-- The nearest directory at or above the start that holds a repository. -/
structure Nearest (holds : Lexical → Bool) (start repository : Lexical) : Prop where
  around : repository.Encloses start
  there : holds repository
  nearest : ∀ d, d.Encloses start → holds d → d.Encloses repository

/-- The nearest directory at or above the start that holds the marker of a repository. -/
abbrev IsNearest (w : World) (start repository : Lexical) : Prop :=
  Nearest (isRoot w) start repository

theorem isNearest_iff : IsNearest w start repository ↔ around? w start = some repository := by
  constructor
  · rintro ⟨hencloses, hroot, hinnermost⟩
    cases h : around? w start with
    | none =>
      have hnone := List.find?_eq_none.1 h repository (Lexical.mem_selfAndParents.2 hencloses)
      exact absurd hroot hnone
    | some found =>
      have hfound := Lexical.mem_selfAndParents.1 (List.mem_of_find?_eq_some h)
      have hlength := Lexical.innermost (Lexical.inward_selfAndParents start) h repository
        (Lexical.mem_selfAndParents.2 hencloses) hroot
      have hinner := hinnermost found hfound (List.find?_some h)
      exact congrArg some (hinner.antisymm (hencloses.of_length hfound hlength))
  · intro h
    have hmem := Lexical.mem_selfAndParents.1 (List.mem_of_find?_eq_some h)
    refine ⟨hmem, List.find?_some h, fun d hd hroot => hd.of_length hmem ?_⟩
    exact Lexical.innermost (Lexical.inward_selfAndParents start) h d
      (Lexical.mem_selfAndParents.2 hd) hroot

theorem around?_eq_none_iff : around? w start = none ↔
    ∀ d, d.Encloses start → isRoot w d = false := by
  simp only [around?, List.find?_eq_none, Lexical.mem_selfAndParents, Bool.not_eq_true]

/-! ## Libraries -/

/-- A library that searches the directories at and above a path, up to the first one that holds a
    repository. -/
structure Library.Searches (library : Library) (holds : World → Lexical → Bool) : Prop where
  /-- The repository that is found is the nearest one. -/
  nearest : ∀ {w start repository}, library w start = .ok (some repository) →
    Nearest (holds w) (w.lexical start) repository
  /-- Without faults, it is found for every path that is there. -/
  finds : ∀ {w start repository}, w.faults = [] → w.exists? start →
    Nearest (holds w) (w.lexical start) repository → library w start = .ok (some repository)
  /-- Without links, it does not count how a directory is written. -/
  written : ∀ {w d e}, w.links = [] → d.IsLowest → e.IsLowest → e.names = d.names →
    holds w e = holds w d
  /-- What holds a repository is a directory. -/
  directory : ∀ {w d}, w.IsTree → w.links = [] → d.IsLowest → holds w d →
    w.isDirectoryAt d.names

theorem result_findBy_eq_some_iff {library : Library} {start : String} :
    (findBy library start w).result = .ok (some repository) ↔
      library w start = .ok (some repository) := by
  unfold findBy
  split
  · next h => simp [h, Outcome.ok]
  · next h => simp [h, Outcome.fail]
  · next h => simp [h, Outcome.ok]

/-- Between a start and the repository around it, every directory lies in the same repository. -/
theorem Library.Searches.between {library : Library} {holds : World → Lexical → Bool}
    (hsearch : library.Searches holds) (hlinks : w.links = []) (hstart : start.IsLowest)
    (h : Nearest (holds w) start repository) {place : Location}
    (houter : repository.names <+: place) (hinner : place <+: start.names) :
    Nearest (holds w) (World.pathOf place) (World.pathOf repository.names) := by
  have hrepository := hstart.of_encloses h.around
  refine ⟨World.pathOf_encloses houter, ?_, fun d hd hd' => ?_⟩
  · rw [hsearch.written hlinks hrepository (World.isLowest_pathOf hrepository) rfl]
    exact h.there
  · -- the same directory, written as the start is
    have hwritten : (⟨start.anchor, d.names⟩ : Lexical).Encloses start :=
      ⟨rfl, hd.names.trans hinner⟩
    have hlowest := hstart.of_encloses hwritten
    have hd'' : d.IsLowest := ⟨by rw [hd.anchor]; nofun, hlowest.names⟩
    have hsame := hsearch.written hlinks hd'' hlowest rfl
    exact ⟨hd.anchor, (h.nearest _ hwritten (hsame.trans hd')).names⟩

/-! ## The library of the commands -/

theorem isPlain_marker : Path.IsPlain marker := by
  refine .of_length ?_ ?_ <;> decide

theorem isRoot_iff (hlinks : w.links = []) (h : d.IsLowest) :
    isRoot w d ↔ w.HasAt (d.names ++ [marker]) :=
  World.exists?_text_iff hlinks (World.isLowest_child h isPlain_marker)

theorem standard_eq_some_iff {start : String} : standard w start = .ok (some repository) ↔
    w.fault? .repository start = none ∧ w.exists? start ∧
      IsNearest w (w.lexical start) repository := by
  rw [isNearest_iff]
  unfold standard
  cases w.fault? .repository start with
  | some failure => simp
  | none =>
    cases w.exists? start with
    | false => simp
    | true =>
      cases around? w (w.lexical start) with
      | none => simp
      | some directory => simp

/-- The library of the commands searches for directories that hold the marker. -/
theorem searches_standard : standard.Searches isRoot where
  nearest h := (standard_eq_some_iff.1 h).2.2
  finds hfaults hthere h := standard_eq_some_iff.2 ⟨World.fault?_of_faults hfaults _ _, hthere, h⟩
  written hlinks hd he h := by
    rw [Bool.eq_iff_iff, isRoot_iff hlinks hd, isRoot_iff hlinks he, h]
  directory htree hlinks hd h := htree.isDirectoryAt_of_child hlinks hd isPlain_marker h

/-- What the search with the library of the commands comes to. -/
theorem find?_apply (start : String) (w : World) : find? start w =
    match w.fault? .repository start with
    | some (.repository _) => .ok none
    | some failure => .fail failure
    | none => .ok (if w.exists? start then around? w (w.lexical start) else none) := by
  unfold find? findBy standard
  cases hfault : w.fault? .repository start with
  | some failure => cases failure <;> rfl
  | none =>
    dsimp only
    cases (if w.exists? start then around? w (w.lexical start) else none) <;> rfl

end Repository
end CompileCommands
