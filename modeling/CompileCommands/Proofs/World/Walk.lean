/-
  Paths taken from directory to directory.

  * `World.step?`, `World.walk?`: a walk along the names of a path, with links followed, in which
    `..` leads back from the directory that was reached;
  * `World.entered?`: the directory to which a path leads; a file leads nowhere;
  * `Resolution.walking`: the system takes paths in this way;
  * `walk?_eq_lowest`: without links, a walk that is not cut short ends where the text says;
    `entered?_congr`: so two spellings of one path enter the same directory, if both enter one;
  * `wayTo_congr`: from the same directory on they are taken the same way.
-/
import CompileCommands.Proofs.Path.Lowest

namespace CompileCommands

open CompileCommands.Path (IsPlain lowest descend)

namespace Path

/-- The names between the slashes of a path. -/
def names (p : String) : List String :=
  (pieces p.toList).map String.ofList

/-- A name below a directory stands behind the names of the directory, but for an empty one behind
    a slash at its end. -/
theorem names_join {d name : String} (hd : d ≠ "") (hname : IsPlain name) :
    ∃ front, names (join d name) = front ++ [name] ∧
      (names d = front ∨ names d = front ++ [""]) := by
  have hpieces : pieces name.toList = [name.toList] := List.splitOn_eq_singleton hname.slash
  rw [join_eq_append hname.not_isRooted]
  by_cases hlast : d.toList.getLast? = some '/'
  · obtain ⟨front, hfront⟩ := List.getLast?_eq_some_iff.1 hlast
    refine ⟨(pieces front).map String.ofList, ?_, .inr ?_⟩
    · have hgap : gap d = "" := if_pos (.inr hlast)
      have hboth : pieces (front ++ '/' :: name.toList) = pieces front ++ pieces name.toList :=
        List.splitOn_append_cons_self front name.toList
      rw [hgap, String.append_empty, names, String.toList_append, hfront, List.append_assoc,
        List.singleton_append, hboth, hpieces, List.map_append, List.map_singleton,
        String.ofList_toList]
    · rw [names, hfront, pieces, List.splitOn_append_cons_self, List.splitOn_nil, List.map_append]
      rfl
  · refine ⟨names d, ?_, .inl rfl⟩
    have hgap : gap d = "/" := if_neg (by simp [hd, hlast])
    have hslash : "/".toList = ['/'] := by decide
    have hboth : pieces (d.toList ++ '/' :: name.toList) = pieces d.toList ++ pieces name.toList :=
      List.splitOn_append_cons_self d.toList name.toList
    rw [hgap, names, String.toList_append, String.toList_append, hslash, List.append_assoc,
      List.singleton_append, hboth, hpieces, List.map_append, List.map_singleton,
      String.ofList_toList, names]

end Path

/-! ## Walks -/

namespace World

variable (w : World)

/-- One step from a place. What leads on from there, and `..`, is only found in a directory. -/
def step? (place : Location) (name : String) : Option Location :=
  if name = "" ∨ name = "." then some place
  else if w.isDirectoryAt place then
    some (if name = ".." then place.dropLast else w.follow linkLimit (place ++ [name]))
  else none

/-- The place at the end of a walk along names. -/
def walkFrom? (place : Location) (names : List String) : Option Location :=
  names.foldlM w.step? place

/-- The place to which a path leads, seen from the working directory. -/
def walk? (path : String) : Option Location :=
  w.walkFrom? [] (Path.names (Path.anchored w.workingDirectory path))

/-- The directory to which a path leads. -/
def entered? (path : String) : Option Location :=
  (w.walk? path).filter w.isDirectoryAt

/-- A path whose directory is reached by a walk; its last name stays as it is. -/
def walked? (path : String) : Option String :=
  let names := Path.names (Path.anchored w.workingDirectory path)
  (w.walkFrom? [] names.dropLast).map fun place =>
    Path.join (pathOf place).text (names.getLastD "")

variable {w}

theorem walkFrom?_concat_empty (place : Location) (names : List String) :
    w.walkFrom? place (names ++ [""]) = w.walkFrom? place names := by
  have hstay (reached : Location) : w.step? reached "" = some reached := if_pos (.inl rfl)
  unfold walkFrom?
  rw [List.foldlM_append]
  simp only [List.foldlM_cons, List.foldlM_nil, hstay]
  exact bind_pure _

section Join

variable {d name : String} (hd : d ≠ "") (hname : IsPlain name)
include hd hname

theorem exists_names_join : ∃ front,
    Path.names (Path.anchored w.workingDirectory (Path.join d name)) = front ++ [name] ∧
      w.walkFrom? [] front = w.walk? d := by
  rw [Path.anchored_join hd hname.not_isRooted, walk?]
  obtain ⟨front, hnames, hfront | hfront⟩ :=
    Path.names_join (Path.anchored_ne_empty hd w.workingDirectory) hname
  · exact ⟨front, hnames, by rw [hfront]⟩
  · exact ⟨front, hnames, by rw [hfront, walkFrom?_concat_empty]⟩

/-- A name below a path is found in the directory to which the path leads. -/
theorem walk?_join : w.walk? (Path.join d name) =
    (w.entered? d).map fun place => w.follow linkLimit (place ++ [name]) := by
  obtain ⟨front, hnames, hfront⟩ := exists_names_join (w := w) hd hname
  have hstep (place : Location) : w.step? place name =
      if w.isDirectoryAt place then some (w.follow linkLimit (place ++ [name])) else none := by
    rw [step?, if_neg (by simp [hname.empty, hname.dot]), if_neg hname.dots]
  have hwalk : w.walk? (Path.join d name) = (w.walk? d).bind (w.step? · name) := by
    rw [← hfront, walk?, hnames, walkFrom?, List.foldlM_append]
    simp only [List.foldlM_cons, List.foldlM_nil, bind_pure]
    rfl
  rw [hwalk, entered?]
  cases w.walk? d with
  | none => rfl
  | some place =>
    rw [Option.bind_some, hstep, Option.filter_some]
    split <;> rfl

theorem walked?_join : w.walked? (Path.join d name) =
    (w.walk? d).map fun place => Path.join (pathOf place).text name := by
  obtain ⟨front, hnames, hfront⟩ := exists_names_join (w := w) hd hname
  rw [walked?, hnames, List.dropLast_concat, hfront]
  simp

end Join

end World

/-- The system takes a path from directory to directory, as they are in this world. -/
def Resolution.walking (w : World) : Resolution where
  way? := w.walked?
  keeps hd hname h := by
    rw [World.walked?_join hd hname] at h
    obtain ⟨place, -, rfl⟩ := Option.map_eq_some_iff.1 h
    exact ⟨_, Path.Lexical.text_ne_empty (show Path.Anchor.root ≠ .relative by decide), rfl⟩

namespace World

/-- The world in which the system takes paths in this way. -/
def walking (w : World) : World :=
  { w with resolution := .walking w }

/-- How the system takes paths does not count for the way from directory to directory. -/
theorem resolution_walking (w : World) : w.walking.resolution = .walking w.walking := by
  have hdirectory (place : Location) : w.walking.isDirectoryAt place = w.isDirectoryAt place := rfl
  have hlinks : w.walking.links = w.links := rfl
  have hstep : w.walking.step? = w.step? := by
    funext place name
    rw [step?, step?, hdirectory, follow_congr hlinks]
  have hwalked : w.walking.walked? = w.walked? := by
    funext path
    have hworking : w.walking.workingDirectory = w.workingDirectory := rfl
    rw [walked?, walked?, walkFrom?, walkFrom?, hstep, hworking]
  exact Resolution.ext hwalked.symm

end World

/-! ## Spellings -/

namespace World

variable {w : World} {p q : String}

theorem descend_back {place : Location} (hdots : ".." ∉ place) :
    descend true place.reverse ".." = place.dropLast.reverse := by
  obtain rfl | ⟨front, last, rfl⟩ := List.eq_nil_or_concat' place
  · rfl
  · have hlast : last ≠ ".." := by
      rintro rfl
      exact hdots (by simp)
    rw [List.dropLast_concat, List.reverse_append, List.reverse_singleton, List.singleton_append]
    unfold descend
    rw [if_neg (by decide), if_pos rfl]
    exact if_neg hlast

/-- Without links, a step leads where the text says, and never to a name `..`. -/
theorem reverse_of_step (hlinks : w.links = []) {place next : Location} {name : String}
    (hdots : ".." ∉ place) (h : w.step? place name = some next) :
    next.reverse = descend true place.reverse name ∧ ".." ∉ next := by
  unfold step? at h
  split at h
  · next hstay =>
    cases h
    unfold descend
    rw [if_pos hstay]
    exact ⟨rfl, hdots⟩
  · next hmoves =>
    split at h
    · obtain rfl := Option.some.inj h
      by_cases hback : name = ".."
      · rw [if_pos hback, hback, descend_back hdots]
        exact ⟨rfl, fun hmem => hdots ((List.dropLast_sublist place).subset hmem)⟩
      · rw [if_neg hback, follow_of_links hlinks]
        unfold descend
        rw [if_neg hmoves, if_neg hback, List.reverse_append, List.reverse_singleton,
          List.singleton_append]
        exact ⟨rfl, by simp [hdots, Ne.symm hback]⟩
    · cases h

/-- Without links, a walk that is not cut short ends where the text says. -/
theorem walkFrom?_eq_lowest (hlinks : w.links = []) {place reached : Location} {names : List String}
    (hdots : ".." ∉ place) (h : w.walkFrom? place names = some reached) :
    reached = lowest true place.reverse names := by
  induction names generalizing place with
  | nil =>
    obtain rfl : place = reached := Option.some.inj h
    exact (List.reverse_reverse place).symm
  | cons name names ih =>
    have hsteps : (w.step? place name).bind (w.walkFrom? · names) = some reached := h
    obtain ⟨next, hstep, hrest⟩ := Option.bind_eq_some_iff.1 hsteps
    obtain ⟨hnext, hdotsNext⟩ := reverse_of_step hlinks hdots hstep
    rw [ih hdotsNext hrest, hnext, lowest, lowest, List.foldl_cons]

theorem walk?_eq_lowest (hlinks : w.links = []) (hdirectory : Path.isRooted w.workingDirectory)
    {reached : Location} (h : w.walk? p = some reached) : reached = (w.lexical p).names := by
  have hanchor := (isLowest_lexical hdirectory p).anchor
  rw [walkFrom?_eq_lowest hlinks List.not_mem_nil h, lexical, Path.Lexical.ofText]
  rw [lexical, Path.Lexical.ofText] at hanchor
  rw [decide_eq_true hanchor]
  rfl

/-- Two spellings of one path enter the same directory, if both enter one. -/
theorem entered?_congr (hlinks : w.links = []) (hdirectory : Path.isRooted w.workingDirectory)
    (h : w.lexical p = w.lexical q) (hboth : (w.entered? p).isSome = (w.entered? q).isSome) :
    w.entered? p = w.entered? q := by
  cases hp : w.entered? p with
  | none =>
    rw [hp] at hboth
    exact (Option.not_isSome_iff_eq_none.1 (by rw [← hboth]; simp)).symm
  | some place =>
    rw [hp] at hboth
    obtain ⟨place', hq⟩ := Option.isSome_iff_exists.1 hboth.symm
    rw [hq, walk?_eq_lowest hlinks hdirectory (Option.filter_eq_some_iff.1 hp).1,
      walk?_eq_lowest hlinks hdirectory (Option.filter_eq_some_iff.1 hq).1, h]

/-- What lies below a directory is taken the same way from both spellings. -/
theorem wayTo_congr (hwalks : w.resolution = .walking w) (hp : p ≠ "") (hq : q ≠ "")
    {folder name : String} (hfolder : IsPlain folder) (hname : IsPlain name)
    (h : w.entered? p = w.entered? q) :
    w.wayTo (Path.join (Path.join p folder) name) =
      w.wayTo (Path.join (Path.join q folder) name) := by
  have hway (d : String) (hd : d ≠ "") :
      w.resolution.way? (Path.join (Path.join d folder) name) =
        ((w.entered? d).map fun place => w.follow linkLimit (place ++ [folder])).map
          fun place => Path.join (pathOf place).text name := by
    rw [← walk?_join hd hfolder, ← walked?_join (Path.join_ne_empty hd folder) hname, hwalks]
    rfl
  rw [wayTo, wayTo, hway p hp, hway q hq, h]

end World
end CompileCommands
