/-
  One workspace root for all paths of a workspace.

  * `rootFrom_of_encloses`: a walk that begins at or below a marked root ends at the same root, and
    so does one that begins at the root itself;
  * `encloses_start`: a directory around a path that is there is also around the directory at
    which the search begins;
  * `repository_of_root`: the root that is found belongs to the same repository;
  * `findBy_agree`: all paths of a workspace have its root, and the root is its own, with any
    library that searches the directories around a path; `find?_agree`: with that of the commands.
-/
import CompileCommands.Proofs.Workspace.Root

namespace CompileCommands

open CompileCommands.Path (Lexical)

namespace WorkspaceRoot

variable {w : World} {path other : String} {top bottom inner root repository : Lexical}

/-! ## Walks -/

/-- A walk that begins at or below the root ends at the same root, if the root is marked or the
    walk begins there. -/
theorem rootFrom_of_encloses (h : top.Encloses bottom)
    (hinner : (rootFrom w top bottom).Encloses inner)
    (hroot : isMarked w (rootFrom w top bottom) ∨ inner = rootFrom w top bottom) :
    rootFrom w top inner = rootFrom w top bottom := by
  obtain ⟨htop, hbottom, -, -⟩ := rootOf_rootFrom (w := w) h
  have hwalk : rootFrom w top bottom ∈ walk top bottom := (mem_walk h).2 ⟨htop, hbottom⟩
  have hwalk' : rootFrom w top bottom ∈ walk top inner :=
    (mem_walk (htop.trans hinner)).2 ⟨htop, hinner⟩
  rcases rootFrom_cases w top bottom with ⟨hisTop, hnone⟩ | ⟨-, hmarked, houtermost⟩
  · -- without markers on the way, the walk begins where it ends
    have hunmarked := hnone _ hwalk
    obtain rfl : inner = rootFrom w top bottom := hroot.resolve_left (by simp [hunmarked])
    have hnew := rootOf_rootFrom (w := w) htop
    have houter : (rootFrom w top bottom).Encloses top := by
      rw [hisTop]
      exact .refl top
    exact hnew.around.antisymm (houter.trans hnew.inside)
  · rcases rootFrom_cases w top inner with ⟨-, hnone⟩ | ⟨hmem, hmarked', houtermost'⟩
    · rw [hnone _ hwalk'] at hmarked
      cases hmarked
    · obtain ⟨htop', hinner'⟩ := (mem_walk (htop.trans hinner)).1 hmem
      have houter := hinner'.of_length hinner (houtermost' _ hwalk' hmarked)
      have hlength := houtermost _ ((mem_walk h).2 ⟨htop', houter.trans hbottom⟩) hmarked'
      exact houter.antisymm (hinner.of_length hinner' hlength)

theorem findBy_of_repository {library : Repository.Library}
    (h : (Repository.findBy library (startOf w path).text w).result = .ok (some repository)) :
    (findBy library path w).result =
      .ok (some (rootFrom w (w.realPath repository.text) (w.realPath (startOf w path).text))) := by
  unfold findBy
  rw [Query.result_bind_of_ok (a := startOf w path) rfl, Query.result_bind_of_ok h]
  rfl

/-! ## Starts -/

/-- A directory around a path that is there is also around the directory at which the search
    begins. -/
theorem encloses_start (hlinks : w.links = []) (hrooted : Path.isRooted w.workingDirectory)
    (hdirectory : w.isDirectoryAt root.names) (h : root.Encloses (w.realPath path)) :
    root.Encloses (w.realPath (startOf w path).text) := by
  have hpath := World.isLowest_lexical hrooted path
  rw [World.realPath, World.locate_of_links hlinks] at h
  rw [World.realPath_text hlinks (isLowest_startOf hrooted path)]
  refine ⟨h.anchor, ?_⟩
  have hnames : root.names <+: (w.lexical path).names := h.names
  dsimp only [World.pathOf, startOf]
  split
  · exact hnames
  · next hnot =>
    rw [World.isDirectory_text_iff hlinks hpath] at hnot
    -- the path is no directory, so it does not lead to the root
    have hne : root.names ≠ (w.lexical path).names := fun heq => hnot (heq ▸ hdirectory)
    refine List.prefix_of_prefix_length_le hnames (List.dropLast_prefix _) ?_
    have hlength := hnames.length_le
    have hlt : root.names.length ≠ (w.lexical path).names.length :=
      fun heq => hne (hnames.eq_of_length heq)
    rw [Lexical.parent, List.length_dropLast]
    omega

theorem isPlain_of_mem_markers {marker : String} (h : marker ∈ markers) : Path.IsPlain marker := by
  rw [markers, List.mem_cons, List.mem_singleton] at h
  rcases h with rfl | rfl
  · refine .of_length ?_ ?_ <;> decide
  · refine .of_length ?_ ?_ <;> decide

/-- A marked directory is one. -/
theorem isDirectoryAt_of_isMarked (hlinks : w.links = []) (htree : w.IsTree) (hroot : root.IsLowest)
    (h : isMarked w root) : w.isDirectoryAt root.names := by
  obtain ⟨marker, hmarker, hfile⟩ := List.any_eq_true.1 h
  refine htree.isDirectoryAt_of_child hlinks hroot (isPlain_of_mem_markers hmarker) ?_
  rw [World.exists?, hfile, Bool.true_or]

/-! ## The root as a start -/

section Root

variable {library : Repository.Library} {holds : World → Lexical → Bool}
  (hsearch : library.Searches holds)
include hsearch

theorem isLowest_repository (hrooted : Path.isRooted w.workingDirectory)
    (h : (Repository.findBy library (startOf w path).text w).result = .ok (some repository)) :
    repository.IsLowest :=
  (isLowest_startOf hrooted path).of_encloses (encloses_of_findBy hsearch hrooted h)

variable (hlinks : w.links = []) (htree : w.IsTree) (hrooted : Path.isRooted w.workingDirectory)
  (hrepository : (Repository.findBy library (startOf w path).text w).result = .ok (some repository))
  (hroot : root = rootFrom w (w.realPath repository.text) (w.realPath (startOf w path).text))

include hlinks hrooted hrepository hroot

/-- The names of the repository, of the root and of the start begin alike. -/
theorem names_of_root :
    root = World.pathOf root.names ∧ repository.names <+: root.names ∧
      root.names <+: (startOf w path).names := by
  have hlowest := isLowest_repository hsearch hrooted hrepository
  have hrootOf := rootOf_rootFrom (w := w) (realPath_encloses hsearch hlinks hrooted hrepository)
  rw [← hroot, World.realPath_text hlinks hlowest,
    World.realPath_text hlinks (isLowest_startOf hrooted path)] at hrootOf
  refine ⟨?_, hrootOf.inside.names, hrootOf.around.names⟩
  have hanchor : root.anchor = .root := hrootOf.around.anchor
  rw [World.pathOf, ← hanchor]

theorem isLowest_root : root.IsLowest := by
  obtain ⟨heq, -, hnames⟩ := names_of_root hsearch hlinks hrooted hrepository hroot
  have hstart := isLowest_startOf (w := w) hrooted path
  exact ⟨by rw [heq]; nofun, fun name hname => hstart.names name (hnames.subset hname)⟩

include htree

theorem isDirectoryAt_of_root : w.isDirectoryAt root.names := by
  have hlowest := isLowest_repository hsearch hrooted hrepository
  have hfound := hsearch.nearest (Repository.result_findBy_eq_some_iff.1 hrepository)
  rcases rootFrom_cases w (w.realPath repository.text) (w.realPath (startOf w path).text) with
    ⟨htop, -⟩ | ⟨-, hmarked, -⟩
  · rw [hroot, htop, World.realPath_text hlinks hlowest]
    change w.isDirectoryAt repository.names
    exact hsearch.directory htree hlinks hlowest hfound.there
  · rw [← hroot] at hmarked
    exact isDirectoryAt_of_isMarked hlinks htree
      (isLowest_root hsearch hlinks hrooted hrepository hroot) hmarked

/-- The search that begins at the root begins there, and finds the same repository. -/
theorem repository_of_root (hfaults : w.faults = []) :
    startOf w root.text = root ∧
      (Repository.findBy library (startOf w root.text).text w).result =
        .ok (some (World.pathOf repository.names)) := by
  have hstart := isLowest_startOf (w := w) hrooted path
  have hfound := hsearch.nearest (Repository.result_findBy_eq_some_iff.1 hrepository)
  rw [World.lexical_text hstart] at hfound
  obtain ⟨heq, houter, hinner⟩ := names_of_root hsearch hlinks hrooted hrepository hroot
  have hlowest := isLowest_root hsearch hlinks hrooted hrepository hroot
  have hdirectory := isDirectoryAt_of_root hsearch hlinks htree hrooted hrepository hroot
  have hself : startOf w root.text = root := by
    dsimp only [startOf]
    rw [World.lexical_text hlowest,
      if_pos ((World.isDirectory_text_iff hlinks hlowest).2 hdirectory)]
  refine ⟨hself, ?_⟩
  rw [hself]
  refine Repository.result_findBy_eq_some_iff.2 (hsearch.finds hfaults ?_ ?_)
  · exact (World.exists?_text_iff hlinks hlowest).2 (.inr hdirectory)
  · rw [World.lexical_text hlowest, heq]
    exact hsearch.between hlinks hstart hfound houter hinner

end Root

/-! ## Agreement -/

/-- A library finds the same repository for two paths. -/
def SameRepositoryBy (library : Repository.Library) (w : World) (path other : String) : Prop :=
  ∃ repository repository',
    (Repository.findBy library (startOf w path).text w).result = .ok (some repository) ∧
    (Repository.findBy library (startOf w other).text w).result = .ok (some repository') ∧
    w.realPath repository'.text = w.realPath repository.text

/-- Two paths belong to the same repository. -/
abbrev SameRepository (w : World) (path other : String) : Prop :=
  SameRepositoryBy Repository.standard w path other

/-- All paths of a workspace have the same root, whichever library finds the repositories, as long
    as it searches the directories around a path. -/
theorem findBy_agree {library : Repository.Library} {holds : World → Lexical → Bool}
    (hsearch : library.Searches holds) (hlinks : w.links = []) (hfaults : w.faults = [])
    (htree : w.IsTree) (hrooted : Path.isRooted w.workingDirectory)
    (h : (findBy library path w).result = .ok (some root)) :
    (isMarked w root → ∀ other, w.exists? other → root.Encloses (w.realPath other) →
      SameRepositoryBy library w path other → (findBy library other w).result = .ok (some root)) ∧
    (findBy library root.text w).result = .ok (some root) := by
  obtain ⟨repository, hrepository, hroot⟩ := result_findBy h
  have hencloses := realPath_encloses hsearch hlinks hrooted hrepository
  constructor
  · rintro hmarked other - hother ⟨repository₁, repository₂, hfirst, hsecond, hsame⟩
    obtain rfl : repository = repository₁ :=
      Option.some.inj (Except.ok.inj (hrepository.symm.trans hfirst))
    have hdirectory := isDirectoryAt_of_root hsearch hlinks htree hrooted hrepository hroot
    have hinner := encloses_start hlinks hrooted hdirectory hother
    rw [findBy_of_repository hsecond, hsame, hroot]
    rw [hroot] at hmarked hinner
    rw [rootFrom_of_encloses hencloses hinner (.inl hmarked)]
  · obtain ⟨hself, hfound⟩ :=
      repository_of_root hsearch hlinks htree hrooted hrepository hroot hfaults
    obtain ⟨heq, -, -⟩ := names_of_root hsearch hlinks hrooted hrepository hroot
    have hlowest := isLowest_repository hsearch hrooted hrepository
    have hreal : w.realPath root.text = root := by
      rw [World.realPath_text hlinks (isLowest_root hsearch hlinks hrooted hrepository hroot),
        ← heq]
    have htop : w.realPath (World.pathOf repository.names).text = w.realPath repository.text := by
      rw [World.realPath_text hlinks hlowest,
        World.realPath_text hlinks (World.isLowest_pathOf hlowest)]
      rfl
    rw [findBy_of_repository hfound, hself, hreal, htop, hroot,
      rootFrom_of_encloses hencloses (.refl _) (.inr rfl)]

/-- **All paths of a workspace have the same root.** In a tree without links and faults, let a
    workspace root be found for a path. If it is marked, it is also found for every path that is
    there, at or below it, in the same repository. And whether it is marked or not, it is its own
    workspace root. -/
theorem find?_agree (hlinks : w.links = []) (hfaults : w.faults = []) (htree : w.IsTree)
    (hrooted : Path.isRooted w.workingDirectory) (h : (find? path w).result = .ok (some root)) :
    (isMarked w root → ∀ other, w.exists? other → root.Encloses (w.realPath other) →
      SameRepository w path other → (find? other w).result = .ok (some root)) ∧
    (find? root.text w).result = .ok (some root) :=
  findBy_agree Repository.searches_standard hlinks hfaults htree hrooted h

/-- A project in a repository, with another project inside. -/
def nested : World :=
  (((({ workingDirectory := "/r" } : World).placing "/r/.git/HEAD" ⟨.bytes [], 0⟩).placing
    "/r/a/CMakeLists.txt" ⟨.bytes [], 0⟩).placing "/r/a/b/CMakeLists.txt" ⟨.bytes [], 0⟩).placing
    "/r/a/c.cpp" ⟨.bytes [], 0⟩

/-- The root of the inner project is that of a file of the outer one, and its own. -/
theorem find?_agree_nested :
    (find? "a/d/../c.cpp" nested).result = .ok (some ⟨.root, ["r", "a"]⟩) ∧
      (find? "/r/a" nested).result = .ok (some ⟨.root, ["r", "a"]⟩) := by
  have htree : nested.IsTree :=
    ((((World.IsTree.of_empty rfl rfl).placing _ _).placing _ _).placing _ _).placing _ _
  have hroot : (find? "/r/a/b/x.cpp" nested).result = .ok (some ⟨.root, ["r", "a"]⟩) := by
    decide +kernel
  have hsame : SameRepository nested "/r/a/b/x.cpp" "a/d/../c.cpp" :=
    ⟨⟨.root, ["r"]⟩, ⟨.root, ["r"]⟩, by decide +kernel, by decide +kernel, rfl⟩
  obtain ⟨hothers, hself⟩ := find?_agree rfl rfl htree (by decide) hroot
  exact ⟨hothers (by decide +kernel) _ (by decide +kernel) (by decide +kernel) hsame, hself⟩

end WorkspaceRoot
end CompileCommands
