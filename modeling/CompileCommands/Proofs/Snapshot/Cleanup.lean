/-
  What a cleanup takes away.

  * `isNamed_step`, `isNamed_run`: what happens to stored snapshots puts no slash in a name;
  * `isExpired`: the file at a path is too old, and neither asking for its time nor removing it
    fails;
  * `ends_removeOld`: of some files at different places, just the expired ones are removed and
    counted, whatever goes wrong with the others;
  * `Expired`: a snapshot in the store that a cleanup takes away;
  * `cleanup_takes`: a cleanup takes away these and nothing else, and counts them.
-/
import CompileCommands.Proofs.Snapshot.Atomic
import CompileCommands.Proofs.Snapshot.Trouble
import CompileCommands.Proofs.World.Directory
import CompileCommands.Proofs.World.Removal

namespace CompileCommands.Snapshot

open CompileCommands.Action (Ends)
open World (Alike)

/-! ## Names -/

section Names

variable {w : World}

theorem isNamed_ensureStore (h : w.IsNamed) (base : String) :
    (ensureStore base w).2.IsNamed := by
  obtain hsame | ⟨-, hmade⟩ := ensureStore_cases w base
  · rw [hsame]
    exact h
  · rw [hmade]
    exact h.withDirectory (World.slashFree_locate w _)

theorem isNamed_save (h : w.IsNamed) (base : String) (params : Option String)
    (environment : Environment) (script : String) :
    (save base params environment script w).2.IsNamed := by
  have hensured := isNamed_ensureStore h base
  refine save_state w base params environment script hensured (fun u p hu => hu.withoutFile p)
    (fun modified _ _ => ?_) fun u file hu _ => ?_
  · exact hensured.withFile (World.slashFree_locate _ _) _
  · exact (hu.withoutFile _).withFile (World.slashFree_locate u _) file

theorem isNamed_step (h : w.IsNamed) (e : Event) : (e.apply w).IsNamed := by
  have hremove (u : World) (place : Location) (hu : u.IsNamed) : (u.withoutFile place).IsNamed :=
    hu.withoutFile place
  cases e with
  | save base params environment script => exact isNamed_save h base params environment script
  | load base params script limit => exact (load_keeps hremove base params script limit).apply h
  | cleanup base limit => exact (cleanup_keeps hremove base limit).apply h
  | write path file => exact h.placing path file
  | delete path => exact h.withoutFile _
  | tick time => exact ⟨h.files, h.directories⟩

theorem isNamed_run (h : w.IsNamed) (events : List Event) : (run w events).IsNamed :=
  List.foldlRecOn (motive := World.IsNamed) events Event.apply h fun _ hu e _ => isNamed_step hu e

end Names

/-! ## One file -/

section One

variable {v w : World} {limit : Rat} {path : String}

/-- The file at the path was last changed too long ago, and neither asking for its time nor
    removing it runs into a fault. -/
def isExpired (limit : Rat) (w : World) (path : String) : Bool :=
  (w.file? path).any (fun file => isOlder file.modified limit w) &&
    (w.fault? .status path).isNone && (w.fault? .remove path).isNone

theorem isOlder_congr (halike : v.Alike w) (hclock : w.clock = v.clock) (modified limit : Rat) :
    isOlder modified limit w = isOlder modified limit v := by
  rw [isOlder, isOlder, halike.rounding, hclock]

theorem isExpired_congr (halike : v.Alike w) (hclock : w.clock = v.clock)
    (hfile : w.file? path = v.file? path) : isExpired limit w path = isExpired limit v path := by
  simp only [isExpired, hfile, halike.fault?, isOlder_congr halike hclock]

/-- An old file: it is removed, unless that fails. -/
theorem ends_removeIfOld_of_old {modified : Rat}
    (hmodified : (Files.modified path w).result = .ok modified) (hold : isOlder modified limit w)
    {result : Except Failure Unit} (hremove : Ends (Files.remove path) w result v) :
    Ends (removeIfOld path limit) w (result.map fun _ => true) v := by
  refine .bind_ok (.ask hmodified) (.bind_ok (.view _ w) ?_)
  rw [if_pos hold]
  cases result with
  | ok _ => exact .bind_ok hremove (.pure true v)
  | error failure => exact .bind_error hremove

theorem ends_removeIfOld_of_young {modified : Rat}
    (hmodified : (Files.modified path w).result = .ok modified)
    (hyoung : isOlder modified limit w = false) :
    Ends (removeIfOld path limit) w (.ok false) w := by
  refine .bind_ok (.ask hmodified) (.bind_ok (.view _ w) ?_)
  rw [hyoung]
  exact .pure false w

theorem isExpired_iff : isExpired limit w path ↔
    ∃ modified, (Files.modified path w).result = .ok modified ∧ isOlder modified limit w ∧
      w.fault? .remove path = none ∧ w.isFile path := by
  dsimp only [isExpired, Files.modified, Files.unlessFault, World.isFile]
  cases w.fault? .status path with
  | some failure => simp
  | none =>
    cases w.file? path with
    | some file => simp
    | none => simp

/-- Looking at a file ends with an error of file access, or as it is expired or not. -/
theorem ends_removeIfOld (hstatus : w.OnlyFileErrors .status path)
    (hremove : w.OnlyFileErrors .remove path) :
    (isExpired limit w path = false ∧
      ∃ failure, failure.isFileError ∧ Ends (removeIfOld path limit) w (.error failure) w) ∨
    Ends (removeIfOld path limit) w (.ok (isExpired limit w path))
      (if isExpired limit w path then w.withoutFile (w.locate path) else w) := by
  cases hmodified : (Files.modified path w).result with
  | error failure =>
    refine .inl ⟨?_, failure, ?_, .bind_error (.ask hmodified)⟩
    · rw [Bool.eq_false_iff, Ne, isExpired_iff, hmodified]
      rintro ⟨_, ⟨⟩, -⟩
    · exact Files.failsOnly_modified (fun _ => rfl) hstatus failure hmodified
  | ok modified =>
    cases hold : isOlder modified limit w with
    | false =>
      have hexpired : isExpired limit w path = false := by
        rw [Bool.eq_false_iff, Ne, isExpired_iff, hmodified]
        rintro ⟨_, ⟨⟩, hold', -⟩
        exact absurd hold' (Bool.eq_false_iff.1 hold)
      rw [hexpired]
      exact .inr (ends_removeIfOld_of_young hmodified hold)
    | true =>
      obtain ⟨hfault, hfile, hends⟩ | ⟨hkept, failure, herror, hends⟩ :=
        Files.ends_remove_cases hremove
      · rw [isExpired_iff.2 ⟨modified, hmodified, hold, hfault, hfile⟩]
        exact .inr (ends_removeIfOld_of_old hmodified hold hends)
      · refine .inl ⟨?_, failure, herror, ends_removeIfOld_of_old hmodified hold hends⟩
        rw [Bool.eq_false_iff, Ne, isExpired_iff]
        rintro ⟨_, -, -, hremoved⟩
        exact hkept hremoved

/-- An error in the access to a file counts as a file that is not expired. -/
theorem ends_sweep (limit : Rat) (hstatus : w.OnlyFileErrors .status path)
    (hremove : w.OnlyFileErrors .remove path) :
    Ends (Files.recover (removeIfOld path limit) fun failure => do
        Action.report (.cleanupFailed path failure)
        return false) w (.ok (isExpired limit w path))
      (if isExpired limit w path then w.withoutFile (w.locate path) else w) := by
  obtain ⟨hexpired, failure, herror, hends⟩ | hends := ends_removeIfOld hstatus hremove
  · rw [hexpired]
    exact Files.ends_recover_of_file hends herror (.bind_ok (.report _ w) (.pure false w))
  · exact .recover_ok hends

end One

/-! ## Some files -/

section Some

variable {w : World} {limit : Rat}

theorem ends_removeOld_cons {path : String} {rest : List String} {removed : Bool} {count : Nat}
    {w' w'' : World}
    (hsweep : Ends (Files.recover (removeIfOld path limit) fun failure => do
        Action.report (.cleanupFailed path failure)
        return false) w (.ok removed) w')
    (hrest : Ends (removeOld limit rest) w' (.ok count) w'') :
    Ends (removeOld limit (path :: rest)) w (.ok (count + removed.toNat)) w'' :=
  .bind_ok hsweep (.bind_ok hrest (.pure _ w''))

/-- Of files at different places, just the expired ones are removed and counted. By induction on
    the files: the removal of the first one leaves the others as they are. -/
theorem ends_removeOld (limit : Rat) (paths : List String)
    (hfaults : ∀ path ∈ paths, w.OnlyFileErrors .status path ∧ w.OnlyFileErrors .remove path)
    (hplaces : (paths.map w.locate).Nodup) :
    Ends (removeOld limit paths) w (.ok (paths.filter (isExpired limit w)).length)
      (w.without ((paths.filter (isExpired limit w)).map w.locate)) := by
  induction paths generalizing w with
  | nil =>
    rw [List.filter_nil, List.map_nil, World.without_nil]
    exact .pure 0 w
  | cons path rest ih =>
    obtain ⟨⟨hstatus, hremove⟩, hrest⟩ := List.forall_mem_cons.1 hfaults
    obtain ⟨hnew, hnodup⟩ := List.nodup_cons.1 hplaces
    have hsweep := ends_sweep limit hstatus hremove
    cases hexpired : isExpired limit w path with
    | false =>
      rw [hexpired] at hsweep
      rw [List.filter_cons_of_neg (by rw [hexpired]; exact Bool.false_ne_true)]
      exact ends_removeOld_cons hsweep (ih hrest hnodup)
    | true =>
      rw [hexpired] at hsweep
      have halike : w.Alike (w.withoutFile (w.locate path)) :=
        (Alike.refl w).withoutFile (w.locate path)
      have hsame : rest.filter (isExpired limit (w.withoutFile (w.locate path))) =
          rest.filter (isExpired limit w) := by
        refine List.filter_congr fun other hother => isExpired_congr halike rfl ?_
        have hne : w.locate other ≠ w.locate path := fun h =>
          hnew (h ▸ List.mem_map_of_mem hother)
        rw [World.file?, World.file?, halike.locate, World.fileAt?_withoutFile, if_neg hne]
      have hlocate : (w.withoutFile (w.locate path)).locate = w.locate := funext halike.locate
      have hremoved := ih (w := w.withoutFile (w.locate path)) (fun other hother =>
        (hrest other hother).imp halike.onlyFileErrors halike.onlyFileErrors) (hlocate.symm ▸ hnodup)
      rw [hsame, hlocate] at hremoved
      rw [List.filter_cons_of_pos hexpired, List.map_cons, World.without_cons, List.length_cons]
      exact ends_removeOld_cons hsweep hremoved

end Some

/-! ## The store -/

section Store

variable {w : World} {base : String} {limit : Rat}

/-- A snapshot in the store that a cleanup takes away: its file was last changed more than so many
    hours ago, and neither asking for its time nor removing it runs into a fault. -/
structure Expired (w : World) (base : String) (limit : Rat) (name : String) : Prop where
  stored : isStoredName name
  old : ∃ file, w.fileAt? (w.locate (storePath base) ++ [name]) = some file ∧
    w.rounding (limit * hour) < w.rounding (w.clock - file.modified)
  status : w.fault? .status (Path.join (storePath base) name) = none
  remove : w.fault? .remove (Path.join (storePath base) name) = none

/-- The place of a name in the store. -/
def placeOf (w : World) (base name : String) : Location :=
  w.locate (storePath base) ++ [name]

theorem placeOf_injective (w : World) (base : String) : Function.Injective (placeOf w base) :=
  fun _ _ h => List.singleton_inj.1 (List.append_cancel_left h)

/-- The names of the snapshots that a cleanup takes away. -/
def expiredNames (w : World) (base : String) (limit : Rat) : List String :=
  ((Files.namesIn w (w.locate (storePath base))).filter isStoredName).filter fun name =>
    isExpired limit w (Path.join (storePath base) name)

theorem nodup_expiredNames (w : World) (base : String) (limit : Rat) :
    (expiredNames w base limit).Nodup :=
  ((Files.nodup_namesIn w _).filter _).filter _

theorem isPlain_of_isStoredName {name : String} (hstored : isStoredName name)
    (hslash : '/' ∉ name.toList) : Path.IsPlain name := by
  refine .of_length hslash ?_
  rw [isStoredName, Bool.and_eq_true, List.isPrefixOf_iff_prefix] at hstored
  have hstart : fileStart.toList.length = 14 := by decide
  have hlength := hstored.1.length_le
  rw [hstart, String.length_toList] at hlength
  omega

theorem isExpired_join_iff {name : String}
    (hlocate : w.locate (Path.join (storePath base) name) = placeOf w base name)
    (hname : Path.IsPlain name) (hstored : isStoredName name) :
    isExpired limit w (Path.join (storePath base) name) ↔ Expired w base limit name := by
  have hne : Path.join (storePath base) name ≠ "" := by
    rw [Path.join_eq_append hname.not_isRooted]
    exact Path.append_ne_empty hname.empty _
  rw [isExpired, World.file?_of_ne_empty w hne, hlocate, Bool.and_eq_true, Bool.and_eq_true,
    Option.any_eq_true, Option.isNone_iff_eq_none, Option.isNone_iff_eq_none]
  constructor
  · rintro ⟨⟨⟨file, hfile, hold⟩, hstatus⟩, hremove⟩
    exact ⟨hstored, ⟨file, hfile, of_decide_eq_true hold⟩, hstatus, hremove⟩
  · rintro ⟨-, ⟨file, hfile, hold⟩, hstatus, hremove⟩
    exact ⟨⟨⟨file, hfile, decide_eq_true hold⟩, hstatus⟩, hremove⟩

/-- Nothing happens where the store cannot be listed. -/
theorem ends_cleanup_of_unlisted {failure : Failure} (hfailure : failure.isFileError)
    (h : (Files.list (storePath base) w).result = .error failure) :
    Ends (cleanup base limit) w (.ok 0) w := by
  refine .bind_ok (.view _ w) ?_
  split
  · refine .bind_ok (Files.ends_recover_of_file (.ask (Query.result_bind_of_error h)) hfailure
      (.bind_ok (.report _ w) (.pure [] w))) (.bind_ok (.pure 0 w) ?_)
    exact .pure 0 w
  · exact .pure 0 w

theorem ends_cleanup_of_listed {names : List String} {count : Nat} {w' : World}
    (h : (Files.list (storePath base) w).result = .ok names)
    (hremoved : Ends (removeOld limit ((names.filter isStoredName).map
      (Path.join (storePath base)))) w (.ok count) w') :
    Ends (cleanup base limit) w (.ok count) w' := by
  have hthere : w.exists? (storePath base) = true := by
    rw [World.exists?, (Files.list_eq_ok h).1, Bool.or_true]
  refine .bind_ok (.view _ w) ?_
  rw [hthere, if_pos rfl]
  refine .bind_ok (.recover_ok (.ask (Query.result_bind_of_ok h))) (.bind_ok hremoved ?_)
  split
  · exact .bind_ok (.report _ w') (.pure count w')
  · exact .pure count w'

section Linkless

variable (hnamed : w.IsNamed) (hlinks : w.HoldsNoLink (w.locate (storePath base)))
include hnamed hlinks

/-- What is listed in the store lies there, under a name without slashes. -/
theorem slash_not_mem_of_listed {name : String}
    (h : name ∈ Files.namesIn w (w.locate (storePath base))) : '/' ∉ name.toList := by
  have hlast : name ∈ placeOf w base name := List.mem_append_right _ List.mem_cons_self
  obtain hplace | hlink := List.mem_append.1 (Files.mem_namesIn_iff.1 h)
  · obtain hfile | hdirectory := List.mem_append.1 hplace
    · obtain ⟨entry, hentry, hplace⟩ := List.mem_map.1 hfile
      exact hnamed.files entry hentry name (hplace ▸ hlast)
    · exact hnamed.directories _ hdirectory name hlast
  · obtain ⟨entry, hentry, hplace⟩ := List.mem_map.1 hlink
    have hnone := List.lookup_eq_none_iff.1 (hlinks name) entry hentry
    simp [hplace] at hnone

omit hnamed in
theorem locate_stored {name : String} (hstored : isStoredName name) (hslash : '/' ∉ name.toList) :
    w.locate (Path.join (storePath base) name) = placeOf w base name :=
  World.locate_join_of_holdsNoLink hlinks (storePath_ne_empty base)
    (isPlain_of_isStoredName hstored hslash)

theorem locate_listed {names : List String} {name : String}
    (hlisted : (Files.list (storePath base) w).result = .ok names)
    (hname : name ∈ names.filter isStoredName) :
    w.locate (Path.join (storePath base) name) = placeOf w base name := by
  obtain ⟨hname, hstored⟩ := List.mem_filter.1 hname
  rw [(Files.list_eq_ok hlisted).2] at hname
  exact locate_stored hlinks hstored (slash_not_mem_of_listed hnamed hlinks hname)

theorem mem_expiredNames_iff {name : String} :
    name ∈ expiredNames w base limit ↔ Expired w base limit name := by
  rw [expiredNames, List.mem_filter, List.mem_filter]
  constructor
  · rintro ⟨⟨hlisted, hstored⟩, hexpired⟩
    have hslash := slash_not_mem_of_listed hnamed hlinks hlisted
    exact (isExpired_join_iff (locate_stored hlinks hstored hslash)
      (isPlain_of_isStoredName hstored hslash) hstored).1 hexpired
  · intro h
    obtain ⟨file, hfile, -⟩ := h.old
    have hlisted : name ∈ Files.namesIn w (w.locate (storePath base)) := by
      rw [Files.mem_namesIn_iff, List.append_assoc, List.mem_append]
      exact .inl (World.mem_files_of_fileAt? hfile)
    have hslash := slash_not_mem_of_listed hnamed hlinks hlisted
    exact ⟨⟨hlisted, h.stored⟩, (isExpired_join_iff (locate_stored hlinks h.stored hslash)
      (isPlain_of_isStoredName h.stored hslash) h.stored).2 h⟩

/-- Where the store can be listed, the expired snapshots are taken away and counted. -/
theorem ends_cleanup (limit : Rat) {names : List String}
    (hlisted : (Files.list (storePath base) w).result = .ok names)
    (hstatus : ∀ name, w.OnlyFileErrors .status (Path.join (storePath base) name))
    (hremove : ∀ name, w.OnlyFileErrors .remove (Path.join (storePath base) name)) :
    Ends (cleanup base limit) w (.ok (expiredNames w base limit).length)
      (w.without ((expiredNames w base limit).map (placeOf w base))) := by
  have hnames := (Files.list_eq_ok hlisted).2
  have hplaces : ((names.filter isStoredName).map (Path.join (storePath base))).map w.locate =
      (names.filter isStoredName).map (placeOf w base) := by
    rw [List.map_map]
    refine List.map_congr_left fun name hname => ?_
    rw [Function.comp_apply, locate_listed hnamed hlinks hlisted hname]
  have hnodup : ((names.filter isStoredName).map (placeOf w base)).Nodup := by
    rw [hnames]
    exact List.Nodup.map (placeOf_injective w base) ((Files.nodup_namesIn w _).filter _)
  have hexpired : ((names.filter isStoredName).map (Path.join (storePath base))).filter
      (isExpired limit w) = (expiredNames w base limit).map (Path.join (storePath base)) := by
    rw [expiredNames, List.filter_map, hnames]
    rfl
  have hgone : ((expiredNames w base limit).map (Path.join (storePath base))).map w.locate =
      (expiredNames w base limit).map (placeOf w base) := by
    rw [List.map_map]
    refine List.map_congr_left fun name hname => ?_
    rw [expiredNames, ← hnames] at hname
    rw [Function.comp_apply, locate_listed hnamed hlinks hlisted (List.mem_filter.1 hname).1]
  have hremoved := ends_removeOld limit
    ((names.filter isStoredName).map (Path.join (storePath base))) ?_ (hplaces.symm ▸ hnodup)
  · rw [hexpired, hgone, List.length_map] at hremoved
    exact ends_cleanup_of_listed hlisted hremoved
  · intro path hpath
    obtain ⟨name, -, rfl⟩ := List.mem_map.1 hpath
    exact ⟨hstatus name, hremove name⟩

/-- The files that are gone after a cleanup of a store that can be listed. -/
theorem lost_cleanup (limit : Rat) {names : List String}
    (hlisted : (Files.list (storePath base) w).result = .ok names)
    (hstatus : ∀ name, w.OnlyFileErrors .status (Path.join (storePath base) name))
    (hremove : ∀ name, w.OnlyFileErrors .remove (Path.join (storePath base) name)) :
    w.lost (cleanup base limit w).2 = placeOf w base '' {name | Expired w base limit name} := by
  have hthere : ∀ p ∈ (expiredNames w base limit).map (placeOf w base), (w.fileAt? p).isSome := by
    intro p hp
    obtain ⟨name, hname, rfl⟩ := List.mem_map.1 hp
    obtain ⟨file, hfile, -⟩ := ((mem_expiredNames_iff hnamed hlinks).1 hname).old
    exact Option.isSome_of_eq_some hfile
  rw [(ends_cleanup hnamed hlinks limit hlisted hstatus hremove).state, World.lost_without hthere]
  ext place
  simp only [List.mem_map, mem_expiredNames_iff hnamed hlinks, Set.mem_image, Set.mem_ofPred_eq]

/-- Whatever fails, the files that are gone after a cleanup were too old. -/
theorem old_of_mem_lost {place : Location} (h : place ∈ w.lost (cleanup base limit w).2) :
    ∃ name file, place = placeOf w base name ∧ w.fileAt? place = some file ∧
      w.rounding (limit * hour) < w.rounding (w.clock - file.modified) := by
  let old (place : Location) : Prop := ∃ name file, place = placeOf w base name ∧
    w.fileAt? place = some file ∧ w.rounding (limit * hour) < w.rounding (w.clock - file.modified)
  have hcleanup : w.Within (cleanup base limit w).2 ∧
      ∀ place ∈ w.lost (cleanup base limit w).2, old place := by
    refine cleanup_state (P := fun u => w.Within u ∧ ∀ place ∈ w.lost u, old place) ⟨.refl w, ?_⟩ ?_
    · rw [World.lost_self]
      exact fun place hplace => hplace.elim
    · rintro names hlisted name hname u file ⟨hu, hlost⟩ hfile hold
      refine ⟨hu.withoutFile _, fun q hq => ?_⟩
      have hplace : u.locate (Path.join (storePath base) name) = placeOf w base name := by
        rw [hu.alike.locate, locate_listed hnamed hlinks hlisted hname]
      obtain ⟨hthere, hgone⟩ := hq
      rw [World.fileAt?_withoutFile, hplace] at hgone
      split at hgone
      · next hq =>
        have hfile := hu.files _ file (World.fileAt?_of_file? hfile)
        rw [hplace, ← hq] at hfile
        rw [isOlder_congr hu.alike hu.clock] at hold
        exact ⟨name, file, hq, hfile, of_decide_eq_true hold⟩
      · exact hlost q ⟨hthere, hgone⟩
  exact hcleanup.2 place h

/-- **A cleanup takes away the expired snapshots and nothing else.** Let there be no links directly
    in the store, and let what goes wrong with listing it, with asking for the time of a file in
    it and with removing one be errors of file access. Then a cleanup answers. Where the store
    cannot be listed it does nothing and answers with zero. Otherwise the files that are gone are
    those directly in the store that have the name of a snapshot, were last changed too long ago,
    and for which neither asking for the time nor removing the file runs into a fault. Nothing
    else changes in the world, and the answer is the number of the files that are gone. -/
theorem cleanup_takes (limit : Rat) (hlist : w.OnlyFileErrors .list (storePath base))
    (hstatus : ∀ name, w.OnlyFileErrors .status (Path.join (storePath base) name))
    (hremove : ∀ name, w.OnlyFileErrors .remove (Path.join (storePath base) name)) :
    ∃ (count : Nat) (after : World), Ends (cleanup base limit) w (.ok count) after ∧
      (∀ failure, (Files.list (storePath base) w).result = .error failure →
        count = 0 ∧ after = w) ∧
      (∀ names, (Files.list (storePath base) w).result = .ok names →
        w.lost after = placeOf w base '' {name | Expired w base limit name}) ∧
      (∀ place, place ∉ w.lost after → after.fileAt? place = w.fileAt? place) ∧
      after = { w with files := after.files } ∧
      (w.lost after).encard = count := by
  cases hlisted : (Files.list (storePath base) w).result with
  | error failure =>
    have hfailure : failure.isFileError :=
      Files.failsOnly_list (fun _ => rfl) hlist failure hlisted
    refine ⟨0, w, ends_cleanup_of_unlisted hfailure hlisted, fun _ _ => ⟨rfl, rfl⟩, nofun,
      fun _ _ => rfl, rfl, ?_⟩
    rw [World.lost_self, Set.encard_empty]
    rfl
  | ok names =>
    have hends := ends_cleanup hnamed hlinks limit hlisted hstatus hremove
    have hlost := lost_cleanup hnamed hlinks limit hlisted hstatus hremove
    rw [hends.state] at hlost
    refine ⟨_, _, hends, nofun, fun _ _ => hlost, fun place hplace => ?_, rfl, ?_⟩
    · rw [World.fileAt?_without, if_neg]
      rintro hmem
      obtain ⟨name, hname, rfl⟩ := List.mem_map.1 hmem
      rw [hlost] at hplace
      exact hplace ⟨name, (mem_expiredNames_iff hnamed hlinks).1 hname, rfl⟩
    · have hnames : {name | Expired w base limit name} =
          {name | name ∈ expiredNames w base limit} :=
        Set.ext fun name => (mem_expiredNames_iff hnamed hlinks).symm
      rw [hlost, (placeOf_injective w base).encard_image, hnames,
        World.encard_mem (nodup_expiredNames w base limit)]

end Linkless
end Store

/-- Two hours have passed. One file of this store was changed after the first hour, the others only
    at the start. Of these one cannot be asked for its time, one cannot be removed, and one does not
    have the name of a snapshot. A directory does have such a name. -/
def mixedStore : World where
  files := [(["c", ".compdb_cache", "toolchain_env_0.pickle"], ⟨.bytes [], 0⟩),
    (["c", ".compdb_cache", "toolchain_env_1.pickle"], ⟨.bytes [], 0⟩),
    (["c", ".compdb_cache", "toolchain_env_2.pickle"], ⟨.bytes [], 0⟩),
    (["c", ".compdb_cache", "toolchain_env_3.pickle"], ⟨.bytes [], 3600⟩),
    (["c", ".compdb_cache", "toolchain_env_4.pickle.tmp"], ⟨.bytes [], 0⟩)]
  directories := [["c"], ["c", ".compdb_cache"],
    ["c", ".compdb_cache", "toolchain_env_5.pickle"]]
  links := [(["l"], "/c")]
  clock := 7200
  faults := [⟨.status, ["c", ".compdb_cache", "toolchain_env_0.pickle"],
      Files.error .permission "/c/.compdb_cache/toolchain_env_0.pickle"⟩,
    ⟨.remove, ["c", ".compdb_cache", "toolchain_env_1.pickle"],
      Files.error .permission "/c/.compdb_cache/toolchain_env_1.pickle"⟩]

theorem cleanup_mixedStore :
    ∃ after, Ends (cleanup "/l" 1) mixedStore (.ok 1) after ∧
      mixedStore.lost after = {["c", ".compdb_cache", "toolchain_env_2.pickle"]} := by
  have hplace : mixedStore.locate (storePath "/l") = ["c", ".compdb_cache"] := by decide +kernel
  have hfaults (call : Call) (path : String) : mixedStore.OnlyFileErrors call path := by
    refine .of_faults ?_ call path
    decide
  have hnamed : mixedStore.IsNamed := ⟨by decide, by decide⟩
  have hlinks : mixedStore.HoldsNoLink (mixedStore.locate (storePath "/l")) := by
    intro name
    rw [hplace]
    rfl
  obtain ⟨hfault, hfile, hdirectory⟩ : (mixedStore.fault? .list (storePath "/l")).isNone ∧
      mixedStore.isFile (storePath "/l") = false ∧ mixedStore.isDirectory (storePath "/l") := by
    decide +kernel
  obtain ⟨names, hlisted⟩ :=
    Files.exists_list (Option.isNone_iff_eq_none.1 hfault) hfile hdirectory
  obtain ⟨count, after, hends, -, hgone, -, -, hcount⟩ :=
    cleanup_takes hnamed hlinks 1 (hfaults _ _) (fun _ => hfaults _ _) fun _ => hfaults _ _
  have hexpired (name : String) :
      Expired mixedStore "/l" 1 name ↔ name = "toolchain_env_2.pickle" := by
    constructor
    · rintro ⟨hstored, ⟨file, hfile, hold⟩, hstatus, hremove⟩
      rw [hplace] at hfile
      have hname : name = "toolchain_env_0.pickle" ∨ name = "toolchain_env_1.pickle" ∨
          name = "toolchain_env_2.pickle" ∨ name = "toolchain_env_3.pickle" ∨
          name = "toolchain_env_4.pickle.tmp" := by
        simpa [mixedStore] using World.mem_files_of_fileAt? hfile
      obtain rfl | rfl | rfl | rfl | rfl := hname
      · exact absurd hstatus (by decide +kernel)
      · exact absurd hremove (by decide +kernel)
      · rfl
      · cases hfile
        exact absurd hold (by decide +kernel)
      · exact absurd hstored (by decide)
    · rintro rfl
      refine ⟨by decide, ⟨⟨.bytes [], 0⟩, ?_, by decide +kernel⟩, by decide +kernel, by decide +kernel⟩
      rw [hplace]
      rfl
  have hlost : mixedStore.lost after = {["c", ".compdb_cache", "toolchain_env_2.pickle"]} := by
    simp only [hgone names hlisted, hexpired, Set.ofPred_eq_eq_singleton, Set.image_singleton]
    rw [placeOf, hplace]
    rfl
  rw [hlost, Set.encard_singleton] at hcount
  have hone : count = 1 := (Nat.cast_inj.1 hcount).symm
  exact ⟨after, hone ▸ hends, hlost⟩

end CompileCommands.Snapshot
