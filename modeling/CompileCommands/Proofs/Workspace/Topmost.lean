/-
  The topmost marked directory.

  * `IsTopmost`: the topmost marked directory between a repository and a start, or the repository
    if none is marked;
  * `isMarked_congr`: without links, it does not matter how a directory is written;
  * `isTopmost_rootFrom`: what the walk from the start to the repository leads to;
  * `find?_eq_ok`: without faults, the search for a workspace root answers;
  * `find?_topmost`: when it finds no root, and which root it finds.
-/
import CompileCommands.Proofs.Workspace.Agreement

namespace CompileCommands

open CompileCommands.Path (Lexical)

theorem World.isFile_text {w : World} {d : Lexical} (hlinks : w.links = []) (h : d.IsLowest) :
    w.isFile d.text = (w.fileAt? d.names).isSome := by
  rw [isFile, file?_of_ne_empty w (Lexical.text_ne_empty h.anchor), locate_of_links hlinks,
    lexical_text h]

namespace WorkspaceRoot

/-! ## The topmost directory -/

/-- The topmost marked directory between a repository and a start, both included, or the repository
    if no directory between them is marked. -/
inductive IsTopmost (w : World) (repository start : Lexical) : Lexical → Prop
  /-- The directory is marked, and encloses all that are. -/
  | marked {root} : isMarked w root → repository.Encloses root → root.Encloses start →
      (∀ d, isMarked w d → repository.Encloses d → d.Encloses start → root.Encloses d) →
      IsTopmost w repository start root
  /-- No directory is marked. -/
  | unmarked : (∀ d, repository.Encloses d → d.Encloses start → isMarked w d = false) →
      IsTopmost w repository start repository

variable {w : World} {path : String} {start repository root d e : Lexical}

theorem IsTopmost.around (h : IsTopmost w repository start root)
    (hstart : repository.Encloses start) : root.Encloses start := by
  cases h with
  | marked _ _ haround => exact haround
  | unmarked => exact hstart

theorem IsTopmost.unique {root' : Lexical} (h : IsTopmost w repository start root)
    (h' : IsTopmost w repository start root') : root' = root := by
  cases h with
  | marked hmarked hinside haround htopmost =>
    cases h' with
    | marked hmarked' hinside' haround' htopmost' =>
      exact (htopmost' _ hmarked hinside haround).antisymm (htopmost _ hmarked' hinside' haround')
    | unmarked hnone =>
      rw [hnone root hinside haround] at hmarked
      cases hmarked
  | unmarked hnone =>
    cases h' with
    | marked hmarked' hinside' haround' =>
      rw [hnone root' hinside' haround'] at hmarked'
      cases hmarked'
    | unmarked => rfl

/-- The walk from a start that the repository encloses leads to the topmost directory. -/
theorem isTopmost_rootFrom (h : repository.Encloses start) :
    IsTopmost w repository start (rootFrom w repository start) := by
  rcases rootFrom_cases w repository start with ⟨hroot, hnone⟩ | ⟨hmem, hmarked, htopmost⟩
  · rw [hroot]
    exact .unmarked fun d hinside haround => hnone d ((mem_walk h).2 ⟨hinside, haround⟩)
  · obtain ⟨hinside, haround⟩ := (mem_walk h).1 hmem
    refine .marked hmarked hinside haround fun d hd hinside' haround' => ?_
    exact haround.of_length haround' (htopmost d ((mem_walk h).2 ⟨hinside', haround'⟩) hd)

/-! ## Places -/

section Places

variable (hlinks : w.links = [])
include hlinks

/-- Without links, only the names of a directory count. -/
theorem isMarked_congr (hd : d.IsLowest) (he : e.IsLowest) (h : e.names = d.names) :
    isMarked w e = isMarked w d := by
  have hmarker : ∀ marker ∈ markers,
      w.isFile (e.child marker).text = w.isFile (d.child marker).text := by
    intro marker hmarker
    have hplain := isPlain_of_mem_markers hmarker
    rw [World.isFile_text hlinks (World.isLowest_child he hplain),
      World.isFile_text hlinks (World.isLowest_child hd hplain), Lexical.child, Lexical.child, h]
  rw [isMarked, isMarked, Bool.eq_iff_iff, List.any_eq_true, List.any_eq_true]
  exact exists_congr fun marker => and_congr_right fun h => by rw [hmarker marker h]

/-- Without links, the topmost directory is the same whether or not the start is written with two
    slashes in front. -/
theorem IsTopmost.pathOf (hstart : start.IsLowest) (haround : repository.Encloses start)
    (h : IsTopmost w repository start root) :
    IsTopmost w (World.pathOf repository.names) (World.pathOf start.names)
      (World.pathOf root.names) := by
  -- a directory on the way, written as the start is
  have hwritten (d : Lexical) (hinside : (World.pathOf repository.names).Encloses d)
      (houtside : d.Encloses (World.pathOf start.names)) :
      isMarked w d = isMarked w ⟨start.anchor, d.names⟩ ∧
        repository.Encloses ⟨start.anchor, d.names⟩ ∧
        Lexical.Encloses ⟨start.anchor, d.names⟩ start := by
    have hencloses : Lexical.Encloses ⟨start.anchor, d.names⟩ start := ⟨rfl, houtside.names⟩
    have hlowest := hstart.of_encloses hencloses
    refine ⟨isMarked_congr hlinks hlowest ⟨?_, hlowest.names⟩ rfl, ?_, hencloses⟩
    · rw [houtside.anchor]
      nofun
    · exact ⟨haround.anchor, hinside.names⟩
  cases h with
  | marked hmarked hinside houtside htopmost =>
    have hlowest := hstart.of_encloses houtside
    refine .marked ?_ (World.pathOf_encloses hinside.names) (World.pathOf_encloses houtside.names)
      fun d hd hinside' houtside' => ?_
    · rw [isMarked_congr hlinks hlowest (World.isLowest_pathOf hlowest) rfl]
      exact hmarked
    · obtain ⟨hsame, hinside'', houtside''⟩ := hwritten d hinside' houtside'
      rw [hsame] at hd
      exact ⟨houtside'.anchor.symm, (htopmost _ hd hinside'' houtside'').names⟩
  | unmarked hnone =>
    refine .unmarked fun d hinside' houtside' => ?_
    obtain ⟨hsame, hinside'', houtside''⟩ := hwritten d hinside' houtside'
    rw [hsame, hnone _ hinside'' houtside'']

/-- The walk along real paths leads to the real path of the topmost directory. -/
theorem rootFrom_realPath (hstart : start.IsLowest) (haround : repository.Encloses start)
    (h : IsTopmost w repository start root) :
    rootFrom w (w.realPath repository.text) (w.realPath start.text) = w.realPath root.text := by
  rw [World.realPath_text hlinks (hstart.of_encloses haround), World.realPath_text hlinks hstart,
    World.realPath_text hlinks (hstart.of_encloses (h.around haround))]
  exact (h.pathOf hlinks hstart haround).unique
    (isTopmost_rootFrom (World.pathOf_encloses haround.names))

end Places

/-! ## The search -/

/-- Without faults, the search answers, and nothing is logged. -/
theorem find?_eq_ok (hfaults : w.faults = []) (path : String) : find? path w =
    .ok ((if w.exists? (startOf w path).text then
        Repository.around? w (w.lexical (startOf w path).text) else none).map fun repository =>
      rootFrom w (w.realPath repository.text) (w.realPath (startOf w path).text)) := by
  have hrepository : Repository.find? (startOf w path).text w =
      .ok (if w.exists? (startOf w path).text then
        Repository.around? w (w.lexical (startOf w path).text) else none) := by
    rw [Repository.find?_apply, World.fault?_of_faults hfaults]
  unfold find? findBy
  rw [Query.view_bind, ← Repository.find?, Query.bind_of_eq_ok hrepository]
  generalize (if w.exists? (startOf w path).text then
    Repository.around? w (w.lexical (startOf w path).text) else none) = found
  cases found <;> rfl

/-- **The workspace root is the topmost marked directory of the repository.** In a tree without
    links and faults, the search for the workspace root of a path comes to an end. It finds none
    exactly if the directory at which it begins is not there, or no directory at or above that one
    is a repository's. Otherwise it finds the topmost marked directory from there up to the nearest
    repository, or the repository itself if none of them is marked. The root is given by its real
    path, which differs from the way in which the directory is written only if the path begins with
    exactly two slashes. -/
theorem find?_topmost (hlinks : w.links = []) (hfaults : w.faults = [])
    (hrooted : Path.isRooted w.workingDirectory) (path : String) :
    (∃ found, find? path w = .ok found) ∧
    (find? path w = .ok none ↔ w.exists? (startOf w path).text = false ∨
      ∀ d, d.Encloses (startOf w path) → Repository.isRoot w d = false) ∧
    (∀ root, find? path w = .ok (some root) ↔ w.exists? (startOf w path).text ∧
      ∃ repository top, Repository.IsNearest w (startOf w path) repository ∧
        IsTopmost w repository (startOf w path) top ∧ root = w.realPath top.text) ∧
    ∀ d, d.Encloses (startOf w path) → (startOf w path).anchor ≠ .doubleRoot →
      w.realPath d.text = d := by
  have hstart := isLowest_startOf (w := w) hrooted path
  have hfind := find?_eq_ok hfaults path
  rw [World.lexical_text hstart] at hfind
  refine ⟨⟨_, hfind⟩, ?none, fun root => ?some, ?written⟩
  case none =>
    rw [hfind]
    cases hthere : w.exists? (startOf w path).text with
    | false => simp
    | true => simp [Outcome.ok, Repository.around?_eq_none_iff]
  case some =>
    have hok : find? path w = .ok (some root) ↔ w.exists? (startOf w path).text ∧
        ∃ repository, Repository.around? w (startOf w path) = some repository ∧
          rootFrom w (w.realPath repository.text) (w.realPath (startOf w path).text) = root := by
      rw [hfind]
      cases w.exists? (startOf w path).text with
      | false => simp [Outcome.ok]
      | true => simp [Outcome.ok]
    rw [hok]
    refine and_congr_right fun _ => exists_congr fun repository => ?_
    rw [← Repository.isNearest_iff]
    constructor
    · rintro ⟨hnearest, rfl⟩
      have htop := isTopmost_rootFrom (w := w) hnearest.around
      exact ⟨_, hnearest, htop, rootFrom_realPath hlinks hstart hnearest.around htop⟩
    · rintro ⟨top, hnearest, htop, rfl⟩
      exact ⟨hnearest, rootFrom_realPath hlinks hstart hnearest.around htop⟩
  case written =>
    intro d hd hanchor
    have hroot : d.anchor = .root := by
      rw [← hd.anchor] at hanchor
      have hlowest := hstart.of_encloses hd
      cases hd' : d.anchor with
      | relative => exact absurd hd' hlowest.anchor
      | root => rfl
      | doubleRoot => exact absurd hd' hanchor
    rw [World.realPath_text hlinks (hstart.of_encloses hd), World.pathOf, ← hroot]

/-- Of two marked directories in the repository, the outer one is found. -/
theorem find?_topmost_nested :
    find? "a/d/../b/x.cpp" nested = .ok (some ⟨.root, ["r", "a"]⟩) ∧
      ∃ repository, IsTopmost nested repository ⟨.root, ["r", "a", "b"]⟩ ⟨.root, ["r", "a"]⟩ := by
  obtain ⟨⟨found, hfind⟩, -, hsome, hwritten⟩ :=
    find?_topmost (w := nested) rfl rfl (by decide) "a/d/../b/x.cpp"
  have hroot : (find? "a/d/../b/x.cpp" nested).result = .ok (some ⟨.root, ["r", "a"]⟩) := by
    decide +kernel
  have hstart : startOf nested "a/d/../b/x.cpp" = ⟨.root, ["r", "a", "b"]⟩ := by
    decide +kernel
  rw [hfind] at hroot
  obtain rfl : found = some ⟨.root, ["r", "a"]⟩ := Except.ok.inj hroot
  obtain ⟨-, repository, top, hnearest, htop, htext⟩ := (hsome _).1 hfind
  rw [hstart] at htop hwritten hnearest
  rw [hwritten top (htop.around hnearest.around) nofun] at htext
  exact ⟨hfind, repository, htext ▸ htop⟩

end WorkspaceRoot
end CompileCommands
