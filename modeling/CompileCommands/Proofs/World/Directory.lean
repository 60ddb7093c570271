/-
  What lies in a directory.

  * `SlashFree`: no name on the way to a place holds a slash; `slashFree_locate`: no path leads to
    another place;
  * `World.IsNamed`: so it is with all places in a world; `isNamed_ofJson`: it is so in every
    described world;
  * `HoldsNoLink`: there is no link directly in a directory;
  * `locate_join_of_holdsNoLink`: a name in such a directory leads to the place below it, whatever
    links lead to the directory;
  * `mem_namesIn_iff`, `nodup_namesIn`: the names in a directory, each of them once.
-/
import CompileCommands.Proofs.Path.Lowest
import Mathlib.Data.List.Induction

namespace CompileCommands

open CompileCommands.Path (IsPlain)

/-! ## Names without slashes -/

/-- No name on the way to the place holds a slash. -/
def SlashFree (place : Location) : Prop :=
  ∀ name ∈ place, '/' ∉ name.toList

instance (place : Location) : Decidable (SlashFree place) :=
  inferInstanceAs (Decidable (∀ name ∈ place, '/' ∉ name.toList))

theorem slashFree_descend (anchored : Bool) {names : List String} {name : String}
    (hnames : SlashFree names) (hname : '/' ∉ name.toList) :
    SlashFree (Path.descend anchored names name) := by
  unfold Path.descend
  split
  · exact hnames
  · split
    · next hdots =>
      subst hdots
      cases names with
      | nil => cases anchored <;> simp [SlashFree]
      | cons inner outer =>
        dsimp only
        split
        · next hinner => exact List.forall_mem_cons.2 ⟨by decide, hinner ▸ hnames⟩
        · exact (List.forall_mem_cons.1 hnames).2
    · exact List.forall_mem_cons.2 ⟨hname, hnames⟩

/-- By induction on the names. -/
theorem slashFree_lowest (anchored : Bool) {start names : List String} (hstart : SlashFree start)
    (hnames : SlashFree names) : SlashFree (Path.lowest anchored start names) := by
  simp only [SlashFree, Path.lowest, List.mem_reverse]
  induction names generalizing start with
  | nil => exact hstart
  | cons name names ih =>
    obtain ⟨hname, hnames⟩ := List.forall_mem_cons.1 hnames
    exact ih (slashFree_descend anchored hstart hname) hnames

theorem slashFree_pieces (text : String) :
    SlashFree ((Path.pieces text.toList).map String.ofList) := by
  intro name hname
  obtain ⟨piece, hpiece, rfl⟩ := List.mem_map.1 hname
  rw [String.toList_ofList]
  exact Path.slash_not_mem_of_mem_pieces _ piece hpiece

namespace World

variable {v w : World} {place : Location}

theorem slashFree_throughLink {link rest : Location} (hlink : SlashFree link)
    (hrest : SlashFree rest) (target : String) : SlashFree (throughLink link target rest) := by
  refine slashFree_lowest true ?_ ?_
  · split
    · exact fun name hname => by cases hname
    · intro name hname
      exact hlink name (List.dropLast_subset _ (List.mem_reverse.1 hname))
  · intro name hname
    obtain hname | hname := List.mem_append.1 hname
    · exact slashFree_pieces target name hname
    · exact hrest name hname

theorem slashFree_followOnce {next : Location} (hplace : SlashFree place)
    (h : w.followOnce? place = some next) : SlashFree next := by
  obtain ⟨⟨front, rest⟩, hcut, hnext⟩ := List.exists_of_findSome?_eq_some h
  obtain ⟨k, -, hk⟩ := List.mem_map.1 hcut
  obtain ⟨target, -, rfl⟩ := Option.map_eq_some_iff.1 hnext
  cases hk
  refine slashFree_throughLink (fun name hname => ?_) (fun name hname => ?_) target
  · exact hplace name (List.mem_of_mem_take hname)
  · exact hplace name (List.mem_of_mem_drop hname)

/-- By induction on the links that are followed. -/
theorem slashFree_follow (hplace : SlashFree place) (fuel : Nat) :
    SlashFree (w.follow fuel place) := by
  induction fuel generalizing place with
  | zero => exact hplace
  | succ fuel ih =>
    rw [follow]
    split
    · next next hnext => exact ih (slashFree_followOnce hplace hnext)
    · exact hplace

/-- No path leads to a place whose names hold slashes. -/
theorem slashFree_locate (w : World) (path : String) : SlashFree (w.locate path) := by
  refine slashFree_follow (slashFree_lowest _ ?_ (slashFree_pieces _)) _
  exact fun name hname => by cases hname

/-- All files and directories lie at places whose names hold no slashes. -/
structure IsNamed (w : World) : Prop where
  files : ∀ entry ∈ w.files, SlashFree entry.1
  directories : ∀ place ∈ w.directories, SlashFree place

namespace IsNamed

theorem withFile (h : w.IsNamed) (hplace : SlashFree place) (file : File) :
    (w.withFile place file).IsNamed :=
  ⟨List.forall_mem_cons.2 ⟨hplace, fun entry hentry => h.files entry (List.mem_filter.1 hentry).1⟩,
    h.directories⟩

theorem withoutFile (h : w.IsNamed) (place : Location) : (w.withoutFile place).IsNamed :=
  ⟨fun entry hentry => h.files entry (List.mem_filter.1 hentry).1, h.directories⟩

theorem withDirectory (h : w.IsNamed) (hplace : SlashFree place) :
    (w.withDirectory place).IsNamed := by
  refine ⟨h.files, fun q hq => ?_⟩
  obtain hq | hq := List.mem_append.1 hq
  · exact h.directories q hq
  · obtain ⟨k, -, rfl⟩ := List.mem_map.1 (List.mem_filter.1 hq).1
    exact fun name hname => hplace name (List.mem_of_mem_take hname)

theorem making (h : w.IsNamed) (path : String) : (w.making path).IsNamed :=
  h.withDirectory (slashFree_locate w path)

theorem placing (h : w.IsNamed) (path : String) (file : File) : (w.placing path file).IsNamed := by
  refine (h.withDirectory fun name hname => ?_).withFile (slashFree_locate w path) file
  exact slashFree_locate w path name (List.dropLast_subset _ hname)

theorem of_empty (hfiles : w.files = []) (hdirectories : w.directories = []) : w.IsNamed := by
  constructor
  · simp [hfiles]
  · simp [hdirectories]

end IsNamed

/-- It is so in every described world: what lies in it was put there by paths. -/
theorem isNamed_ofJson (document : Json) : (ofJson document).IsNamed := by
  have hbare (directory : String) : (bare document directory).IsNamed := .of_empty rfl rfl
  refine List.foldlRecOn _ _ ?_ fun w hw entry _ => hw.placing _ _
  refine List.foldlRecOn _ _ ?_ fun w hw path _ => hw.making _
  refine IsNamed.making ?_ _
  exact List.foldlRecOn _ _ (hbare _) fun w hw entry _ => ⟨hw.files, hw.directories⟩

theorem mem_files_of_fileAt? {file : File} (h : w.fileAt? place = some file) :
    place ∈ w.files.map (·.1) := by
  obtain ⟨front, rest, hfiles, -⟩ := List.lookup_eq_some_iff.1 h
  rw [hfiles]
  simp

/-! ## Below a directory -/

/-- There is no link directly in the directory. -/
def HoldsNoLink (w : World) (place : Location) : Prop :=
  ∀ name, w.links.lookup (place ++ [name]) = none

theorem holdsNoLink_of_links (h : w.links = []) (place : Location) : w.HoldsNoLink place := by
  intro name
  rw [h]
  rfl

theorem cuts_concat (place : Location) (name : String) :
    cuts (place ++ [name]) =
      (cuts place).map (fun cut => (cut.1, cut.2 ++ [name])) ++ [(place ++ [name], [])] := by
  have hlast : ((place ++ [name]).take (place.length + 1), (place ++ [name]).drop (place.length + 1))
      = (place ++ [name], []) := by
    rw [List.take_of_length_le (by simp), List.drop_of_length_le (by simp)]
  rw [cuts, List.length_append, List.length_singleton, List.range_succ, List.map_append,
    List.map_singleton, hlast, cuts, List.map_map]
  congr 1
  refine List.map_congr_left fun k hk => ?_
  have hle : k + 1 ≤ place.length := List.mem_range.1 hk
  rw [Function.comp_apply, List.take_append_of_le_length hle, List.drop_append_of_le_length hle]

theorem throughLink_concat (link : Location) (target : String) (rest : Location) {name : String}
    (hname : IsPlain name) :
    throughLink link target (rest ++ [name]) = throughLink link target rest ++ [name] := by
  rw [throughLink, ← List.append_assoc, Path.lowest_concat_plain hname]
  rfl

/-- The links on the way to a name in a directory are those on the way to the directory, and one
    that may stand under the name. -/
theorem followOnce_concat (w : World) (place : Location) {name : String} (hname : IsPlain name) :
    w.followOnce? (place ++ [name]) =
      ((w.followOnce? place).map (· ++ [name])).or
        ((w.links.lookup (place ++ [name])).map fun target =>
          throughLink (place ++ [name]) target []) := by
  rw [followOnce?, cuts_concat, List.findSome?_append, followOnce?, List.findSome?_map,
    List.map_findSome?]
  congr 1
  · congr 1
    funext cut
    dsimp only [Function.comp_apply]
    rw [Option.map_map]
    congr 1
    funext target
    exact throughLink_concat _ _ _ hname
  · rw [List.findSome?_cons]
    split
    · next h => exact h.symm
    · next h => exact h.symm

/-- By induction on the links that are followed. -/
theorem follow_concat {name : String} (hname : IsPlain name) (fuel : Nat) (place : Location)
    (h : w.HoldsNoLink (w.follow fuel place)) :
    w.follow fuel (place ++ [name]) = w.follow fuel place ++ [name] := by
  induction fuel generalizing place with
  | zero => rfl
  | succ fuel ih =>
    rw [follow] at h
    rw [follow, follow, followOnce_concat w place hname]
    cases hnext : w.followOnce? place with
    | some next =>
      rw [hnext] at h
      exact ih next h
    | none =>
      rw [hnext] at h
      rw [h name]
      rfl

/-- A name in a directory without links leads one step down. -/
theorem locate_join_of_holdsNoLink {directory name : String}
    (h : w.HoldsNoLink (w.locate directory)) (hd : directory ≠ "") (hname : IsPlain name) :
    w.locate (Path.join directory name) = w.locate directory ++ [name] := by
  rw [locate, lexical_join hd hname]
  exact follow_concat hname _ _ h

end World

/-! ## Listings -/

namespace Files

variable {w : World} {place : Location}

theorem mem_namesIn_iff {name : String} : name ∈ namesIn w place ↔
    place ++ [name] ∈ w.files.map (·.1) ++ w.directories ++ w.links.map (·.1) := by
  rw [namesIn, List.mem_mergeSort, List.mem_eraseDups, List.mem_filterMap]
  constructor
  · rintro ⟨inner, hinner, h⟩
    split at h
    · next hinside =>
      obtain ⟨rest, rfl⟩ := List.isPrefixOf_iff_prefix.1 hinside.2
      obtain ⟨n, rfl⟩ := List.length_eq_one_iff.1 (by simpa using hinside.1 : rest.length = 1)
      rw [List.getLast?_concat] at h
      cases h
      exact hinner
    · cases h
  · intro h
    refine ⟨_, h, ?_⟩
    rw [if_pos ⟨by simp, List.isPrefixOf_iff_prefix.2 (List.prefix_append _ _)⟩,
      List.getLast?_concat]

/-- By induction from the end: a name is kept where it stands for the first time. -/
theorem nodup_eraseDups (names : List String) : names.eraseDups.Nodup := by
  induction names using List.reverseRecOn with
  | nil => exact List.nodup_nil
  | append_singleton names name ih =>
    rw [List.eraseDups_append]
    by_cases hname : name ∈ names
    · have hnothing : [name].removeAll names = [] := by simp [List.removeAll, hname]
      rw [hnothing, List.eraseDups_nil, List.append_nil]
      exact ih
    · have hsame : [name].removeAll names = [name] := by simp [List.removeAll, hname]
      rw [hsame, List.eraseDups_cons, List.filter_nil, List.eraseDups_nil]
      refine List.nodup_append.2 ⟨ih, List.pairwise_singleton _ name, fun n hn n' hn' => ?_⟩
      rw [List.mem_eraseDups] at hn
      rw [List.mem_singleton.1 hn']
      exact fun h => hname (h ▸ hn)

theorem nodup_namesIn (w : World) (place : Location) : (namesIn w place).Nodup := by
  rw [namesIn, (List.mergeSort_perm _ _).nodup_iff]
  exact nodup_eraseDups _

theorem list_eq_ok {path : String} {names : List String} (h : (list path w).result = .ok names) :
    w.isDirectory path ∧ names = namesIn w (w.locate path) := by
  have hnames := unlessFault_eq_ok h
  split at hnames
  · cases hnames
  · split at hnames
    · next hdirectory =>
      cases hnames
      exact ⟨hdirectory, rfl⟩
    · cases hnames

theorem exists_list {path : String} (hfault : w.fault? .list path = none)
    (hfile : w.isFile path = false) (hdirectory : w.isDirectory path) :
    ∃ names, (list path w).result = .ok names := by
  dsimp only [list, unlessFault]
  rw [hfault, hfile, hdirectory]
  exact ⟨_, rfl⟩

end Files
end CompileCommands
