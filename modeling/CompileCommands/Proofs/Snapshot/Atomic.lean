/-
  A save happens as a whole or not at all.

  * `isValid_congr`, `load_congr`: what a load looks at: the place of the snapshot, the script and
    the time;
  * `ensureStore_cases`: the directory of the store is made where nothing is, with those around it;
  * `isPlainTree_step`, `isPlainTree_run`: what happens to stored snapshots leaves a world a tree;
  * `InPlace`, `Untouched`: the world after a save, and after an attempt at one;
  * `save_allOrNothing`: one of the two holds, whatever fails.
-/
import CompileCommands.Proofs.Snapshot.Run
import CompileCommands.Proofs.World.Agreement
import CompileCommands.Proofs.World.Tree

namespace CompileCommands.Snapshot

open World (Alike AgreeAt)

/-! ## What a load looks at -/

section Congruence

variable {v w : World} {base : String} {params : Option String} {script : String}

theorem isRecent_congr (halike : v.Alike w) (hclock : w.clock = v.clock) (m : Metadata)
    (limit : Option Rat) : m.isRecent limit w = m.isRecent limit v := by
  cases limit with
  | none => rfl
  | some hours =>
    have hage : m.age w = m.age v := by
      rw [Metadata.age, Metadata.age, halike.rounding, hclock]
    simp only [Metadata.isRecent, hage]

theorem isValid_congr (halike : v.Alike w) (hclock : w.clock = v.clock)
    (hscript : v.AgreeAt script w) (m : Metadata) (params : Option String) (limit : Option Rat) :
    isValid m params script limit w = isValid m params script limit v := by
  unfold isValid
  split
  · rfl
  · refine Query.bind_congr (Query.view_congr hscript.exists?) fun there => ?_
    split
    · refine Query.bind_congr (Files.modified_congr halike hscript) fun modified => ?_
      split
      · rfl
      · exact Query.view_congr (isRecent_congr halike hclock m limit)
    · rfl

theorem readValid_congr (halike : v.Alike w) (hclock : w.clock = v.clock) {file : String}
    (hfile : v.AgreeAt file w) (hscript : v.AgreeAt script w) (params : Option String)
    (limit : Option Rat) :
    readValid file params script limit w = readValid file params script limit v := by
  have hread : read file w = read file v := by
    refine Query.bind_congr ?_ fun _ => rfl
    rw [Files.read, Files.read, Files.content_congr halike hfile]
  refine Query.bind_congr hread fun stored => ?_
  refine Query.bind_congr (isValid_congr halike hclock hscript _ params limit) fun valid => ?_
  cases valid with
  | false => rfl
  | true => rfl

theorem fst_discard_congr (halike : v.Alike w) {file : String} (hfile : v.AgreeAt file w) :
    (discard file w).1 = (discard file v).1 := by
  unfold discard Files.recover
  refine Action.fst_recover_congr (Files.fst_remove_congr halike hfile) fun failure => ?_
  split
  · exact Action.fst_pure_congr _ _ _
  · exact Action.fst_fail_congr _ _ _

/-- A load ends alike in two worlds that agree on the snapshot, on the script and on the time. -/
theorem load_congr (halike : v.Alike w) (hclock : w.clock = v.clock)
    (hpath : v.AgreeAt (path base params) w) (hscript : v.AgreeAt script w) (limit : Option Rat) :
    (load base params script limit w).1 = (load base params script limit v).1 := by
  unfold load
  rw [Action.view_bind, Action.view_bind, hpath.exists?]
  cases v.exists? (path base params) with
  | false => rfl
  | true =>
    rw [if_pos rfl]
    refine Action.fst_recover_congr (Action.fst_ask_congr
      (readValid_congr halike hclock hpath hscript params limit)) fun failure => ?_
    split
    · refine Action.fst_bind_congr (Action.fst_report_congr _ _ _) fun _ => ?_
      refine Action.fst_bind_congr (fst_discard_congr halike hpath) fun _ => ?_
      exact Action.fst_pure_congr _ _ _
    · exact Action.fst_fail_congr _ _ _

theorem load_of_not_exists (h : w.exists? (path base params) = false) (limit : Option Rat) :
    load base params script limit w = (.ok none, w) := by
  unfold load
  rw [Action.view_bind, h]
  rfl

end Congruence

/-! ## The directory of the store -/

variable (w : World) (base : String) (params : Option String) (environment : Environment)
  (script : String)

theorem ensureStore_cases :
    (ensureStore base w).2 = w ∨ w.exists? (storePath base) = false ∧
      (ensureStore base w).2 = w.withDirectory (w.locate (storePath base)) := by
  let made (v : World) : Prop := v = w ∨
    w.exists? (storePath base) = false ∧ v = w.withDirectory (w.locate (storePath base))
  have hmake : Action.Spec (fun v => v = w ∧ w.exists? (storePath base) = false)
      (Files.makeDirectories (storePath base)) (fun _ => made) fun _ => made := by
    refine Files.makeDirectories_spec ?_ ?_
    · rintro v ⟨rfl, hnothing⟩
      exact .inr ⟨hnothing, rfl⟩
    · rintro v failure ⟨rfl, -⟩
      exact .inl rfl
  have hensure : Action.Spec (fun v => v = w) (ensureStore base) (fun _ => made)
      fun _ => made := by
    refine .bind (M := fun there v => v = w ∧ there = w.exists? (storePath base)) (.view ?_)
      fun there => .ite (fun _ => .pure fun v h => .inl h.1) fun hthere =>
        .bind (M := fun _ => made) (Files.recover_spec (M := fun _ => made) ?_
          (fun failure => .report fun v h => h) fun failure v h => h) fun _ => .pure fun _ h => h
    · rintro v rfl
      exact ⟨rfl, rfl⟩
    · exact hmake.mono (fun v h => ⟨h.1, h.2 ▸ Bool.not_eq_true _ ▸ hthere⟩) (fun _ _ h => h)
        fun _ _ h => h
  exact hensure.state rfl

variable {w}

/-- What lies in the store does not become a directory by making the directory of the store. -/
theorem ensureStore_agreeAt {path name : String}
    (hpath : w.locate path = w.locate (storePath base) ++ [name]) :
    w.AgreeAt path (ensureStore base w).2 := by
  obtain hsame | ⟨-, hmade⟩ := ensureStore_cases w base
  · rw [hsame]
    exact .refl w path
  · rw [hmade]
    refine .of_place ((Alike.refl w).withDirectory _) rfl (Bool.eq_iff_iff.2 ?_)
    rw [World.isDirectoryAt_withDirectory_iff, or_iff_left_iff_imp, hpath]
    intro hprefix
    have hlength := hprefix.length_le
    rw [List.length_append, List.length_singleton] at hlength
    omega

/-! ## Trees -/

section Trees

/-- A tree without links. -/
def IsPlainTree (w : World) : Prop :=
  w.links = [] ∧ w.IsTree

theorem isPlainTree_save (h : IsPlainTree w) :
    IsPlainTree (save base params environment script w).2 := by
  have hensured : IsPlainTree (ensureStore base w).2 :=
    (ensureStore_keeps (P := IsPlainTree) (fun u place hu => ⟨hu.1, hu.2.withDirectory place⟩)
      base).apply h
  refine save_state w base params environment script hensured ?_ ?_ ?_
  · exact fun u place hu => ⟨hu.1, hu.2.withoutFile place⟩
  · exact fun modified _ haround => ⟨hensured.1, hensured.2.withFile haround _⟩
  -- The file moves within the directory of the store.
  · rintro u file ⟨hlinks, htree⟩ hfile
    refine ⟨hlinks, (htree.withoutFile _).withFile ?_ file⟩
    have haround := htree _ (.inl (Option.isSome_of_eq_some hfile))
    rw [locate_temporaryPath hlinks, List.dropLast_concat] at haround
    rwa [locate_path hlinks, List.dropLast_concat,
      World.isDirectoryAt_congr (World.directories_withoutFile _ _)]

theorem isPlainTree_step (h : IsPlainTree w) (e : Event) : IsPlainTree (e.apply w) := by
  have hremove (u : World) (place : Location) (hu : IsPlainTree u) :
      IsPlainTree (u.withoutFile place) :=
    ⟨hu.1, hu.2.withoutFile place⟩
  cases e with
  | save base params environment script =>
    exact isPlainTree_save base params environment script h
  | load base params script limit => exact (load_keeps hremove base params script limit).apply h
  | cleanup base limit => exact (cleanup_keeps hremove base limit).apply h
  | write path file => exact ⟨h.1, h.2.placing path file⟩
  | delete path => exact hremove w _ h
  | tick time => exact h

theorem isPlainTree_run (h : IsPlainTree w) (events : List Event) : IsPlainTree (run w events) :=
  List.foldlRecOn (motive := IsPlainTree) events Event.apply h fun _ hu e _ => isPlainTree_step hu e

end Trees

/-! ## After a save -/

/-- The snapshot is in place, with the time that the script has, and nothing is left beside it. -/
structure InPlace (now : Rat) (w : World) : Prop where
  stored : ∃ modified, (Files.modified script w).result = .ok modified ∧
    w.file? (path base params) =
      some ⟨.snapshot ⟨⟨paramsOf params, modified, now⟩, environment⟩, now⟩
  alone : w.exists? (temporaryPath base params) = false

/-- There is the same at the place of the snapshot as before, and at any time the same is loaded
    from it. -/
structure Untouched (v w : World) : Prop where
  file : w.file? (path base params) = v.file? (path base params)
  exists? : w.exists? (path base params) = v.exists? (path base params)
  load : v.IsTree → ∀ script limit time,
    v.locate script ≠ v.locate (temporaryPath base params) →
      (Snapshot.load base params script limit { w with clock := time }).1 =
        (Snapshot.load base params script limit { v with clock := time }).1

theorem inPlace_replaced (hlinks : w.links = []) {v : World} (hv : w.Alike v)
    (hclock : v.clock = w.clock) (hpath : w.locate script ≠ w.locate (path base params))
    (htemporary : w.locate script ≠ w.locate (temporaryPath base params)) {modified : Rat}
    (hmodified : (Files.modified script v).result = .ok modified)
    (hdirectory : v.isDirectory (temporaryPath base params) = false) :
    InPlace base params environment script w.clock
      (replaced v base params environment modified) := by
  have halike : v.Alike (replaced v base params environment modified) :=
    (((Alike.refl v).withFile _ _).withoutFile _).withFile _ _
  have hscript : v.AgreeAt script (replaced v base params environment modified) := by
    refine .of_place halike ?_ (World.isDirectoryAt_congr (directories_replaced ..) _)
    rw [← hv.locate, ← hv.locate] at hpath htemporary
    rw [replaced, World.fileAt?_withFile, if_neg hpath, World.fileAt?_withoutFile,
      if_neg htemporary, World.fileAt?_withFile, if_neg htemporary]
  refine ⟨⟨modified, ?_, ?_⟩, ?_⟩
  · rw [Files.modified_congr halike hscript, hmodified]
  · rw [World.file?_of_ne_empty _ (path_ne_empty base params), halike.locate, replaced,
      World.fileAt?_withFile, if_pos rfl, fileOf, hclock]
  · have hne : v.locate (temporaryPath base params) ≠ v.locate (path base params) := by
      rw [hv.locate, hv.locate]
      exact (locate_temporaryPath_ne hlinks base base params params).symm
    have hfile : (replaced v base params environment modified).file?
        (temporaryPath base params) = none := by
      rw [World.file?_of_ne_empty _ (temporaryPath_ne_empty base params), halike.locate, replaced,
        World.fileAt?_withFile, if_neg hne, World.fileAt?_withoutFile, if_pos rfl]
    have hdirectory' : (replaced v base params environment modified).isDirectory
        (temporaryPath base params) = false := by
      rw [← hdirectory, World.isDirectory, World.isDirectory, halike.locate,
        World.isDirectoryAt_congr (directories_replaced ..)]
    rw [World.exists?, World.isFile, hfile, hdirectory']
    rfl

theorem untouched_of_onlyAt (hlinks : w.links = []) {w' : World}
    (h : (ensureStore base w).2.OnlyAt (w.locate (temporaryPath base params)) w') :
    Untouched base params w w' := by
  have hstore : w.Alike (ensureStore base w).2 :=
    (ensureStore_sameBut w base []).alike
  have hagree : w.AgreeAt (path base params) w' := by
    refine (ensureStore_agreeAt base (locate_path hlinks base params)).trans (h.agreeAt ?_)
    rw [hstore.locate]
    exact locate_temporaryPath_ne hlinks base base params params
  refine ⟨hagree.file, hagree.exists?, fun htree script limit time hscript => ?_⟩
  obtain hsame | ⟨hnothing, -⟩ := ensureStore_cases w base
  · rw [hsame] at h
    have halike : Alike { w with clock := time } { w' with clock := time } :=
      ((Alike.refl w).tick time).symm.trans (h.alike.tick time)
    have hticked {path : String} (hpath : w.AgreeAt path w') :
        AgreeAt { w with clock := time } path { w' with clock := time } :=
      ((AgreeAt.refl w path).tick time).symm.trans (hpath.tick time)
    exact load_congr halike rfl (hticked hagree) (hticked (h.agreeAt hscript)) limit
  -- Where the store was not there, no snapshot was, and there is none afterwards.
  · have hempty : ¬w.HasAt (w.locate (storePath base)) := by
      rw [← World.exists?_iff_hasAt (storePath_ne_empty base), hnothing]
      exact Bool.false_ne_true
    have hbefore : w.exists? (path base params) = false := by
      have hno := htree.not_hasAt_concat hempty (fileName params)
      rwa [← locate_path hlinks, ← World.exists?_iff_hasAt (path_ne_empty base params),
        Bool.not_eq_true] at hno
    rw [load_of_not_exists ((hagree.tick time).exists?.trans hbefore),
      load_of_not_exists (((AgreeAt.refl w _).tick time).exists?.trans hbefore)]

/-- **A save happens as a whole or not at all.** In a world without links, let an environment be
    saved for a script that is neither the file of the snapshot nor the one written first,
    whatever calls fail. After an answer of success the snapshot is in place. In every other case
    the snapshot of before is untouched, and loaded as before. If the answer is a failure and
    removing files works, the file written first is gone. -/
theorem save_allOrNothing (hlinks : w.links = [])
    (hpath : w.locate script ≠ w.locate (path base params))
    (htemporary : w.locate script ≠ w.locate (temporaryPath base params)) :
    ((save base params environment script w).1.result = .ok true →
      InPlace base params environment script w.clock (save base params environment script w).2) ∧
    ((save base params environment script w).1.result ≠ .ok true →
      Untouched base params w (save base params environment script w).2) ∧
    ((save base params environment script w).1.result = .ok false →
      w.fault? .remove (temporaryPath base params) = none →
      w.isDirectory (temporaryPath base params) = false →
      (save base params environment script w).2.exists? (temporaryPath base params) = false) := by
  have hspec := save_exact w base params environment script
  have hstore := ensureStore_sameBut w base []
  refine ⟨fun hresult => ?_, fun hresult => ?_, fun hresult hfault hdirectory => ?_⟩
  · obtain ⟨modified, hmodified, hdirectory, hafter⟩ := (hspec.of_ok rfl hresult).1 rfl
    rw [hafter]
    exact inPlace_replaced base params environment script hlinks hstore.alike hstore.clock hpath
      htemporary hmodified hdirectory
  · refine untouched_of_onlyAt base params hlinks ?_
    cases houtcome : (save base params environment script w).1.result with
    | error failure => exact hspec.of_error rfl houtcome
    | ok saved =>
      cases saved with
      | true => exact absurd houtcome hresult
      | false => exact ((hspec.of_ok rfl houtcome).2 rfl).1
  · obtain ⟨hafter, hgone⟩ := (hspec.of_ok rfl hresult).2 rfl
    have hlocate := (hstore.alike.trans hafter.alike).locate (temporaryPath base params)
    have hfile : (save base params environment script w).2.file? (temporaryPath base params) =
        none := by
      rw [World.file?_of_ne_empty _ (temporaryPath_ne_empty base params), hlocate]
      exact hgone hfault
    have hnone : (save base params environment script w).2.isDirectory
        (temporaryPath base params) = false := by
      rw [World.isDirectory, hlocate, World.isDirectoryAt_congr hafter.directories,
        ← hstore.alike.locate, ← World.isDirectory,
        (ensureStore_agreeAt base (locate_temporaryPath hlinks base params)).directory, hdirectory]
    rw [World.exists?, World.isFile, hfile, hnone]
    rfl

/-- A snapshot is in place, and from then on no other one can be put there. -/
def stuck : World :=
  (run {} [.write "/s" ⟨.bytes [], 5⟩, .save "/c" none [("A", "a")] "/s"]).withFault .replace
    (path "/c" none) (some (Files.error .permission (path "/c" none)))

/-- The old environment is still loaded, an hour after an attempt to save another one. -/
theorem load_stuck :
    (save "/c" none [("A", "b")] "/s" stuck).1.result = .ok false ∧
    (save "/c" none [("A", "b")] "/s" stuck).2.exists? (temporaryPath "/c" none) = false ∧
    (load "/c" none "/s" (some 2)
      { (save "/c" none [("A", "b")] "/s" stuck).2 with clock := 3600 }).1.result =
        .ok (some [("A", "a")]) := by
  obtain ⟨hlinks, hpath, htemporary, hresult, hfault, hdirectory, hbefore⟩ :
      stuck.links = [] ∧
      stuck.locate "/s" ≠ stuck.locate (path "/c" none) ∧
      stuck.locate "/s" ≠ stuck.locate (temporaryPath "/c" none) ∧
      (save "/c" none [("A", "b")] "/s" stuck).1.result = .ok false ∧
      (stuck.fault? .remove (temporaryPath "/c" none)).isNone ∧
      stuck.isDirectory (temporaryPath "/c" none) = false ∧
      (load "/c" none "/s" (some 2) { stuck with clock := 3600 }).1.result =
        .ok (some [("A", "a")]) := by
    decide +kernel
  have htree : stuck.IsTree := (isPlainTree_run ⟨rfl, .of_empty rfl rfl⟩ _).2.withFault _ _ _
  obtain ⟨-, huntouched, hgone⟩ :=
    save_allOrNothing "/c" none [("A", "b")] "/s" hlinks hpath htemporary
  refine ⟨hresult, hgone hresult (Option.isNone_iff_eq_none.1 hfault) hdirectory, ?_⟩
  have hload := (huntouched (by rw [hresult]; nofun)).load htree "/s" (some 2) 3600 htemporary
  rw [hload, hbefore]

end CompileCommands.Snapshot
