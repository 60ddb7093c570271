/-
  The workspace root and the repository.

  * `mem_walk`, `walk_eq`: the directories looked at lie between the repository and the start, if
    the repository encloses the start, and else are all directories around the start;
  * `RootOf`: the root is decided by the directories between the repository and the start;
  * `realPath_encloses`: without links, the repository encloses the start;
  * `findBy_encloses`: when the repository encloses the root that is found, with any library that
    searches the directories around a path; `find?_encloses`: with that of the commands.
-/
import CompileCommands.Proofs.Workspace.Repository

namespace CompileCommands

namespace WorkspaceRoot

open CompileCommands.Path (Lexical)

/-! ## The walk -/

section Walk

variable {last top bottom d : Lexical} {l : List Lexical}

theorem upTo_sublist (last : Lexical) (l : List Lexical) : (upTo last l).Sublist l := by
  induction l with
  | nil => exact .slnil
  | cons directory outer ih =>
    rw [upTo]
    split
    · exact (List.nil_sublist outer).cons_cons directory
    · exact ih.cons_cons directory

theorem upTo_of_not_mem (h : last ∉ l) : upTo last l = l := by
  induction l with
  | nil => rfl
  | cons directory outer ih =>
    rw [List.mem_cons, not_or] at h
    rw [upTo, if_neg (Ne.symm h.1), ih h.2]

theorem mem_upTo (hl : Lexical.Inward l) (hlast : last ∈ l) :
    d ∈ upTo last l ↔ d ∈ l ∧ last.names.length ≤ d.names.length := by
  induction l with
  | nil => cases hlast
  | cons directory outer ih =>
    obtain ⟨hfirst, hrest⟩ := List.pairwise_cons.1 hl
    rw [upTo, List.mem_cons]
    split
    · next h =>
      subst h
      constructor
      · rintro (rfl | hd)
        · exact ⟨List.mem_cons_self, Nat.le_refl _⟩
        · cases hd
      · rintro ⟨hd, hlength⟩
        rcases List.mem_cons.1 hd with rfl | hd
        · exact Or.inl rfl
        · exact absurd (hfirst d hd) (by omega)
    · next h =>
      have houter : last ∈ outer := (List.mem_cons.1 hlast).resolve_left (Ne.symm h)
      rw [ih hrest houter, List.mem_cons]
      constructor
      · rintro (rfl | ⟨hd, hlength⟩)
        · exact ⟨Or.inl rfl, Nat.le_of_lt (hfirst last houter)⟩
        · exact ⟨Or.inr hd, hlength⟩
      · rintro ⟨rfl | hd, hlength⟩
        · exact Or.inl rfl
        · exact Or.inr ⟨hd, hlength⟩

theorem inward_walk (top bottom : Lexical) : Lexical.Inward (walk top bottom) :=
  (Lexical.inward_selfAndParents bottom).sublist (upTo_sublist _ _)

/-- The walk from a start that the repository encloses ends at the repository. -/
theorem mem_walk (h : top.Encloses bottom) :
    d ∈ walk top bottom ↔ top.Encloses d ∧ d.Encloses bottom := by
  rw [walk, mem_upTo (Lexical.inward_selfAndParents bottom) (Lexical.mem_selfAndParents.2 h),
    Lexical.mem_selfAndParents]
  constructor
  · rintro ⟨hd, hlength⟩
    exact ⟨h.of_length hd hlength, hd⟩
  · rintro ⟨htop, hd⟩
    exact ⟨hd, htop.names.length_le⟩

/-- The walk from any other start does not meet the repository and goes on to the file system's
    root. -/
theorem walk_eq (h : ¬top.Encloses bottom) : walk top bottom = bottom.selfAndParents :=
  upTo_of_not_mem fun hmem => h (Lexical.mem_selfAndParents.1 hmem)

end Walk

/-! ## The root -/

variable {w : World} {path : String} {top bottom root : Lexical}

/-- The root is the outermost marked directory between the repository and the start, or the
    repository itself if none of them is marked. -/
structure RootOf (w : World) (repository start root : Lexical) : Prop where
  inside : repository.Encloses root
  around : root.Encloses start
  marked : root = repository ∨ isMarked w root
  outermost : ∀ d, isMarked w d → repository.Encloses d → d.Encloses start → root.Encloses d

/-- The outermost marked directory of the walk, or else the repository. -/
def rootFrom (w : World) (top bottom : Lexical) : Lexical :=
  ((walk top bottom).filter (isMarked w)).getLast?.getD top

theorem result_findBy {library : Repository.Library}
    (h : (findBy library path w).result = .ok (some root)) : ∃ repository,
      (Repository.findBy library (startOf w path).text w).result = .ok (some repository) ∧
        root = rootFrom w (w.realPath repository.text) (w.realPath (startOf w path).text) := by
  unfold findBy at h
  rw [Query.result_bind_of_ok (a := startOf w path) rfl] at h
  cases hfound : (Repository.findBy library (startOf w path).text w).result with
  | error failure =>
    rw [Query.result_bind_of_error hfound] at h
    cases h
  | ok found =>
    rw [Query.result_bind_of_ok hfound] at h
    cases found with
    | none => cases h
    | some repository =>
      refine ⟨repository, rfl, ?_⟩
      dsimp only at h
      rw [Query.result_bind_of_ok (a := w.realPath repository.text) rfl,
        Query.result_bind_of_ok (a := w.realPath (startOf w path).text) rfl] at h
      exact (Option.some.inj (Except.ok.inj h)).symm

/-- What the last marked directory of the walk is. -/
theorem rootFrom_cases (w : World) (top bottom : Lexical) :
    (rootFrom w top bottom = top ∧ ∀ d ∈ walk top bottom, isMarked w d = false) ∨
      (rootFrom w top bottom ∈ walk top bottom ∧ isMarked w (rootFrom w top bottom) ∧
        ∀ d ∈ walk top bottom, isMarked w d →
          (rootFrom w top bottom).names.length ≤ d.names.length) := by
  unfold rootFrom
  cases hlast : ((walk top bottom).filter (isMarked w)).getLast? with
  | none =>
    rw [List.getLast?_eq_none_iff, List.filter_eq_nil_iff] at hlast
    exact Or.inl ⟨rfl, fun d hd => by simpa using hlast d hd⟩
  | some d =>
    obtain ⟨hmem, houtermost⟩ := Lexical.outermost ((inward_walk top bottom).filter _) hlast
    obtain ⟨hd, hmarked⟩ := List.mem_filter.1 hmem
    refine Or.inr ⟨hd, hmarked, fun e he hmarked => ?_⟩
    exact houtermost e (List.mem_filter.2 ⟨he, hmarked⟩)

theorem rootOf_rootFrom (h : top.Encloses bottom) :
    RootOf w top bottom (rootFrom w top bottom) := by
  rcases rootFrom_cases w top bottom with ⟨hroot, hnone⟩ | ⟨hmem, hmarked, houtermost⟩
  · rw [hroot]
    refine ⟨.refl top, h, Or.inl rfl, fun d hd htop hbottom => ?_⟩
    rw [hnone d ((mem_walk h).2 ⟨htop, hbottom⟩)] at hd
    cases hd
  · obtain ⟨htop, hbottom⟩ := (mem_walk h).1 hmem
    refine ⟨htop, hbottom, Or.inr hmarked, fun d hd htop hd' => ?_⟩
    exact hbottom.of_length hd' (houtermost d ((mem_walk h).2 ⟨htop, hd'⟩) hd)

/-- From a start that the repository does not enclose, only a walk without markers leads to the
    repository. -/
theorem encloses_rootFrom_iff (h : ¬top.Encloses bottom) :
    top.Encloses (rootFrom w top bottom) ↔ ∀ d, d.Encloses bottom → isMarked w d = false := by
  have hwalk (d : Lexical) : d ∈ walk top bottom ↔ d.Encloses bottom := by
    rw [walk_eq h, Lexical.mem_selfAndParents]
  constructor
  · intro hroot d hd
    rcases rootFrom_cases w top bottom with ⟨-, hnone⟩ | ⟨hmem, -, -⟩
    · exact hnone d ((hwalk d).2 hd)
    · exact absurd (hroot.trans ((hwalk _).1 hmem)) h
  · intro hnone
    rcases rootFrom_cases w top bottom with ⟨hroot, -⟩ | ⟨hmem, hmarked, -⟩
    · rw [hroot]
      exact .refl top
    · rw [hnone _ ((hwalk _).1 hmem)] at hmarked
      cases hmarked

theorem isLowest_startOf (hrooted : Path.isRooted w.workingDirectory) (path : String) :
    (startOf w path).IsLowest := by
  have hpath := World.isLowest_lexical hrooted path
  dsimp only [startOf]
  split
  · exact hpath
  · exact hpath.of_encloses (Lexical.parent_encloses _)

section Library

variable {library : Repository.Library} {holds : World → Lexical → Bool}
  (hsearch : library.Searches holds)
include hsearch

/-- The repository of a path encloses the directory at which the search begins. -/
theorem encloses_of_findBy (hrooted : Path.isRooted w.workingDirectory) {repository : Lexical}
    (h : (Repository.findBy library (startOf w path).text w).result = .ok (some repository)) :
    repository.Encloses (startOf w path) := by
  have hnearest := hsearch.nearest (Repository.result_findBy_eq_some_iff.1 h)
  rw [World.lexical_text (isLowest_startOf hrooted path)] at hnearest
  exact hnearest.around

/-- Without links, a directory and the repository around it lie where their names say. -/
theorem realPath_encloses (hlinks : w.links = []) (hrooted : Path.isRooted w.workingDirectory)
    {repository : Lexical}
    (h : (Repository.findBy library (startOf w path).text w).result = .ok (some repository)) :
    (w.realPath repository.text).Encloses (w.realPath (startOf w path).text) := by
  have hstart := isLowest_startOf hrooted path
  have hencloses := encloses_of_findBy hsearch hrooted h
  rw [World.realPath_text hlinks hstart, World.realPath_text hlinks (hstart.of_encloses hencloses)]
  exact World.pathOf_encloses hencloses.names

/-- What the root has to do with the repository does not depend on which library finds it, as long
    as it is one that encloses the path. -/
theorem findBy_encloses (h : (findBy library path w).result = .ok (some root)) : ∃ repository,
    (Repository.findBy library (startOf w path).text w).result = .ok (some repository) ∧
      ((w.realPath repository.text).Encloses root ↔
        (w.realPath repository.text).Encloses (w.realPath (startOf w path).text) ∨
          ∀ d, d.Encloses (w.realPath (startOf w path).text) → isMarked w d = false) ∧
      ((w.realPath repository.text).Encloses (w.realPath (startOf w path).text) →
        RootOf w (w.realPath repository.text) (w.realPath (startOf w path).text) root) ∧
      (w.links = [] → Path.isRooted w.workingDirectory →
        (w.realPath repository.text).Encloses (w.realPath (startOf w path).text)) := by
  obtain ⟨repository, hrepository, hroot⟩ := result_findBy h
  rw [hroot]
  refine ⟨repository, hrepository, ?_, rootOf_rootFrom,
    fun hlinks hrooted => realPath_encloses hsearch hlinks hrooted hrepository⟩
  by_cases hinside :
      (w.realPath repository.text).Encloses (w.realPath (startOf w path).text)
  · exact iff_of_true (rootOf_rootFrom hinside).inside (Or.inl hinside)
  · rw [encloses_rootFrom_iff hinside]
    constructor
    · exact Or.inr
    · rintro (hinside' | hnone)
      · exact absurd hinside' hinside
      · exact hnone

end Library

/-- **When the workspace root lies in the repository.** Links followed, the root that is found for
    a path is enclosed by its repository exactly if the repository encloses the directory at
    which the search begins, or no directory at or around that one is marked. In the first case
    the root is the outermost marked directory between the two, or the repository itself, so that
    no marker above or beside the repository decides it. Without links it is always the first
    case. -/
theorem find?_encloses (h : (find? path w).result = .ok (some root)) :
    ∃ repository, (Repository.find? (startOf w path).text w).result = .ok (some repository) ∧
      ((w.realPath repository.text).Encloses root ↔
        (w.realPath repository.text).Encloses (w.realPath (startOf w path).text) ∨
          ∀ d, d.Encloses (w.realPath (startOf w path).text) → isMarked w d = false) ∧
      ((w.realPath repository.text).Encloses (w.realPath (startOf w path).text) →
        RootOf w (w.realPath repository.text) (w.realPath (startOf w path).text) root) ∧
      (w.links = [] → Path.isRooted w.workingDirectory →
        (w.realPath repository.text).Encloses (w.realPath (startOf w path).text)) :=
  findBy_encloses Repository.searches_standard h

/-- A repository that is entered through a link, and a marker above it. -/
def linked : World where
  files := [(["CMakeLists.txt"], ⟨.bytes [], 0⟩), (["r", ".git", "HEAD"], ⟨.bytes [], 0⟩),
    (["r", "src", "CMakeLists.txt"], ⟨.bytes [], 0⟩)]
  directories := [["r"], ["r", ".git"], ["r", "src"]]
  links := [(["l"], "/r")]

/-- The marker above the repository does not decide. -/
theorem find?_linked :
    (find? "/l/src/a.cpp" linked).result = .ok (some ⟨.root, ["r", "src"]⟩) ∧
      RootOf linked ⟨.root, ["r"]⟩ ⟨.root, ["r", "src"]⟩ ⟨.root, ["r", "src"]⟩ := by
  have hroot : (find? "/l/src/a.cpp" linked).result = .ok (some ⟨.root, ["r", "src"]⟩) := by
    decide +kernel
  obtain ⟨repository, hrepository, -, hinside, -⟩ := find?_encloses hroot
  have hfound : (Repository.find? (startOf linked "/l/src/a.cpp").text linked).result =
      .ok (some ⟨.root, ["l"]⟩) := by
    decide +kernel
  obtain rfl : ⟨.root, ["l"]⟩ = repository :=
    Option.some.inj (Except.ok.inj (hfound.symm.trans hrepository))
  have htop : linked.realPath (Lexical.text ⟨.root, ["l"]⟩) = ⟨.root, ["r"]⟩ := by decide +kernel
  have hstart : linked.realPath (startOf linked "/l/src/a.cpp").text = ⟨.root, ["r", "src"]⟩ := by
    decide +kernel
  rw [htop, hstart] at hinside
  exact ⟨hroot, hinside (by decide)⟩

/-- A repository with a link that leads out of it, to the marked directory above it. -/
def straying : World where
  files := [(["p", "CMakeLists.txt"], ⟨.bytes [], 0⟩),
    (["p", "r", ".git", "HEAD"], ⟨.bytes [], 0⟩)]
  directories := [["p"], ["p", "r"], ["p", "r", ".git"]]
  links := [(["p", "r", "up"], "/p")]

/-- Through the link, the root that is found lies above the repository. -/
theorem find?_straying :
    (find? "/p/r/up" straying).result = .ok (some ⟨.root, ["p"]⟩) ∧
      (Repository.find? (startOf straying "/p/r/up").text straying).result =
        .ok (some ⟨.root, ["p", "r"]⟩) ∧
      ¬(straying.realPath (Lexical.text ⟨.root, ["p", "r"]⟩)).Encloses ⟨.root, ["p"]⟩ := by
  decide +kernel

end WorkspaceRoot
end CompileCommands
