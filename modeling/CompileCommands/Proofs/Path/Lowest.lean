/-
  Paths in lowest terms that begin at the root.

  * `Lexical.IsLowest`: a path that begins at the root and has only plain names;
  * `Lexical.isLowest_ofText`: every text that begins with a slash stands for such a path;
  * `Lexical.ofText_text`: the text of such a path stands for the path itself;
  * `World.lexical_text`, `World.realPath_text`: such a path does not depend on the working
    directory, and without links it leads to the place of its names;
  * `World.lexical_eq_of_absolute`: paths with the same absolute form are the same in lowest terms;
  * `World.lexical_join_below`, `World.lexical_append_slash`: a path below a directory, or behind a
    slash, and `World.lexical_join`: a name below a directory;
  * `World.lexical_join_congr`, `World.lexical_joinAll_congr`: below directories that are the same
    in lowest terms everything is;
  * `World.locate_join_ne`: different names lead to different places.
-/
import CompileCommands.Proofs.Path.Enclosing
import CompileCommands.Proofs.Path.Reduced
import CompileCommands.Proofs.World.Files

namespace CompileCommands

namespace Path
namespace Lexical

/-! ## Texts -/

/-- The path begins at the root, and each of its names leads one step down. -/
structure IsLowest (p : Lexical) : Prop where
  anchor : p.anchor ≠ .relative
  names : ∀ name ∈ p.names, IsPlain name

theorem IsLowest.of_encloses {d p : Lexical} (h : p.IsLowest) (hd : d.Encloses p) : d.IsLowest :=
  ⟨hd.anchor ▸ h.anchor, fun name hname => h.names name (hd.names.subset hname)⟩

theorem isLowest_ofText {p : String} (h : isRooted p) : (ofText p).IsLowest :=
  have hanchor : (ofText p).anchor ≠ .relative := isRooted_iff.1 h
  ⟨hanchor, (isReduced_ofText p).isPlain hanchor⟩

theorem isRooted_text {p : Lexical} (h : p.anchor ≠ .relative) : isRooted p.text := by
  rw [isRooted, toList_text (.inl h), decide_eq_true_iff]
  cases hanchor : p.anchor with
  | relative => exact absurd hanchor h
  | root => rfl
  | doubleRoot => rfl

/-- The text of a path in lowest terms stands for the path. -/
theorem ofText_text {p : Lexical} (h : p.IsLowest) : ofText p.text = p :=
  (IsReduced.of_isPlain h.names).ofText_text

theorem text_ne_empty {p : Lexical} (h : p.anchor ≠ .relative) : p.text ≠ "" := by
  intro hempty
  have hrooted := isRooted_text h
  rw [hempty] at hrooted
  exact absurd hrooted (by decide)

end Lexical
end Path

/-! ## In a world -/

namespace World

open CompileCommands.Path (Lexical IsPlain)

variable {w : World} {p : Lexical} {d d' name : String}

/-- In a rooted working directory, every path has an absolute form in lowest terms. -/
theorem isLowest_lexical (hrooted : Path.isRooted w.workingDirectory) (path : String) :
    (w.lexical path).IsLowest := by
  refine Lexical.isLowest_ofText ?_
  rw [Path.anchored]
  split
  · next h => exact h
  · next h =>
    have hne : w.workingDirectory ≠ "" := by
      rintro hempty
      rw [hempty] at hrooted
      exact absurd hrooted (by decide)
    rw [Path.join_eq_append (by simpa using h), String.append_assoc, Path.isRooted_append hne]
    exact hrooted

/-- In a rooted working directory, paths with the same absolute form are the same in lowest
    terms. -/
theorem lexical_eq_of_absolute (hrooted : Path.isRooted w.workingDirectory)
    (h : w.absolute d = w.absolute d') : w.lexical d = w.lexical d' := by
  rw [← Lexical.ofText_text (isLowest_lexical hrooted d),
    ← Lexical.ofText_text (isLowest_lexical hrooted d')]
  exact congrArg Lexical.ofText h

theorem lexical_text (h : p.IsLowest) : w.lexical p.text = p := by
  rw [lexical, Path.anchored, if_pos (Lexical.isRooted_text h.anchor), Lexical.ofText_text h]

theorem locate_absolute (hlinks : w.links = []) (hrooted : Path.isRooted w.workingDirectory)
    (path : String) : w.locate (w.absolute path) = w.locate path := by
  rw [locate_of_links hlinks, locate_of_links hlinks, absolute,
    lexical_text (isLowest_lexical hrooted path)]

theorem pathOf_encloses {front place : Location} (h : front <+: place) :
    (pathOf front).Encloses (pathOf place) :=
  ⟨rfl, h⟩

theorem realPath_text (hlinks : w.links = []) (h : p.IsLowest) :
    w.realPath p.text = pathOf p.names := by
  rw [realPath, locate_of_links hlinks, lexical_text h]

theorem lexical_join_below (hd : d ≠ "") {path : String} (hpath : Path.isRooted path = false) :
    w.lexical (Path.join d path) = (w.lexical d).below path := by
  rw [lexical, lexical, Path.anchored_join hd hpath,
    Lexical.ofText_join (Path.anchored_ne_empty hd _) hpath]

theorem lexical_join (hd : d ≠ "") (hname : IsPlain name) :
    w.lexical (Path.join d name) = (w.lexical d).child name := by
  rw [lexical_join_below hd hname.not_isRooted, Lexical.below_of_isPlain hname]

theorem lexical_join_text (h : p.IsLowest) (hname : IsPlain name) :
    w.lexical (Path.join p.text name) = p.child name := by
  rw [lexical_join (Lexical.text_ne_empty h.anchor) hname, lexical_text h]

/-- Behind a slash, what stands in front counts only in lowest terms, unless it is only slashes. -/
theorem lexical_append_slash (hd : ∃ c ∈ d.toList, c ≠ '/') (path : String) :
    w.lexical (d ++ "/" ++ path) = (w.lexical d).below path := by
  have hne := Path.ne_empty_of_ne_slash hd
  obtain ⟨front, hfront⟩ := Path.exists_anchored_eq w.workingDirectory d
  have hchar : ∃ c ∈ (Path.anchored w.workingDirectory d).toList, c ≠ '/' := by
    obtain ⟨c, hc, hslash⟩ := hd
    refine ⟨c, ?_, hslash⟩
    rw [hfront, String.toList_append]
    exact List.mem_append_right _ hc
  rw [lexical, lexical, String.append_assoc, Path.anchored_append hne, ← String.append_assoc,
    Lexical.ofText_append_slash hchar]

/-- Directories that are the same in lowest terms have the same below them. -/
theorem lexical_join_congr (hd : d ≠ "") (hd' : d' ≠ "") (h : w.lexical d = w.lexical d')
    (path : String) : w.lexical (Path.join d path) = w.lexical (Path.join d' path) := by
  cases hpath : Path.isRooted path with
  | true => rw [Path.join, Path.join, if_pos hpath, if_pos hpath]
  | false => rw [lexical_join_below hd hpath, lexical_join_below hd' hpath, h]

theorem lexical_joinAll_congr (hd : d ≠ "") (hd' : d' ≠ "") (h : w.lexical d = w.lexical d')
    (parts : List String) :
    w.lexical (Path.joinAll d parts) = w.lexical (Path.joinAll d' parts) := by
  induction parts generalizing d d' with
  | nil => exact h
  | cons p parts ih =>
    exact ih (Path.join_ne_empty hd p) (Path.join_ne_empty hd' p) (lexical_join_congr hd hd' h p)

theorem locate_join (hlinks : w.links = []) (hd : d ≠ "") (hname : IsPlain name) :
    w.locate (Path.join d name) = w.locate d ++ [name] := by
  rw [locate_of_links hlinks, locate_of_links hlinks, lexical_join hd hname]
  rfl

/-- Paths with different last names lead to different places. -/
theorem locate_join_ne (hlinks : w.links = []) {name' : String} (hd : d ≠ "") (hd' : d' ≠ "")
    (hname : IsPlain name) (hname' : IsPlain name') (hne : name ≠ name') :
    w.locate (Path.join d name) ≠ w.locate (Path.join d' name') := by
  rw [locate_join hlinks hd hname, locate_join hlinks hd' hname']
  intro h
  have hlast := List.append_inj_right' h rfl
  exact hne (List.singleton_inj.1 hlast)

end World
end CompileCommands
