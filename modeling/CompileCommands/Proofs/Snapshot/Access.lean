/-
  What saving, loading and cleaning up do to the files.

  * `locate_path`, `locate_temporaryPath_ne`: where snapshots lie, and that no snapshot is written
    first where another one is kept;
  * `save_exact`, `save_spec`: a save that succeeds puts one file in place, and any other leaves
    all files as they are, whatever fails;
  * `save_stages`, `save_state`: what holds after a save, step by step;
  * `load_keeps`, `cleanup_keeps`: loading and cleaning up keep what removing files keeps;
  * `cleanup_state`: what holds after a cleanup, file by file;
  * `Serves`, `isValid_of_faults`: when a snapshot serves;
  * `result_load_of_none`, `load_of_snapshot`: what is loaded where there is no file, and
    where there is a snapshot;
  * `exists_of_load`: nothing is loaded from anywhere else.
-/
import CompileCommands.Proofs.Path.Lowest
import CompileCommands.Proofs.Text.Hex
import CompileCommands.Snapshot.Store

namespace CompileCommands

open Text

theorem mem_hexDigits_of_mem_digestKey {value : String} {c : Char}
    (h : c ∈ (digestKey value).toList) : c ∈ hexDigits := by
  rw [digestKey, String.toList_ofList] at h
  exact mem_hexDigits_of_mem_hexBytes (List.mem_of_mem_take h)

theorem slash_not_mem_digestKey (value : String) : '/' ∉ (digestKey value).toList :=
  fun h => absurd (mem_hexDigits_of_mem_digestKey h) (by decide)

namespace Snapshot

open World (Alike SameBut Within)

/-! ## Places -/

theorem isPlain_fileName_append (params : Option String) {ending : String}
    (h : '/' ∉ ending.toList) : Path.IsPlain (fileName params ++ ending) := by
  refine .of_length ?_ ?_
  · simp only [fileName, String.toList_append, List.mem_append, not_or]
    exact ⟨⟨⟨by decide, slash_not_mem_digestKey _⟩, by decide⟩, h⟩
  · have hstart : fileStart.length = 14 := by decide
    simp only [fileName, String.length_append, hstart]
    omega

theorem isPlain_fileName (params : Option String) : Path.IsPlain (fileName params) := by
  have h : Path.IsPlain (fileName params ++ "") := isPlain_fileName_append params (by decide)
  rwa [String.append_empty] at h

theorem storePath_ne_empty (base : String) : storePath base ≠ "" := by
  rw [storePath, Path.join_eq_append (by decide)]
  exact Path.append_ne_empty (by decide) _

theorem path_ne_empty (base : String) (params : Option String) : path base params ≠ "" := by
  rw [path, Path.join_eq_append (isPlain_fileName params).not_isRooted]
  exact Path.append_ne_empty (isPlain_fileName params).empty _

theorem temporaryPath_ne_empty (base : String) (params : Option String) :
    temporaryPath base params ≠ "" :=
  Path.append_ne_empty (by decide) _

theorem locate_path {w : World} (hlinks : w.links = []) (base : String) (params : Option String) :
    w.locate (path base params) = w.locate (storePath base) ++ [fileName params] :=
  World.locate_join hlinks (storePath_ne_empty base) (isPlain_fileName params)

theorem isPlain_temporaryName (params : Option String) : Path.IsPlain (fileName params ++ ".tmp") :=
  isPlain_fileName_append params (by decide)

/-- A snapshot is first written in the directory of the store, too. -/
theorem temporaryPath_eq_join (base : String) (params : Option String) :
    temporaryPath base params = Path.join (storePath base) (fileName params ++ ".tmp") := by
  rw [temporaryPath, path, Path.join_eq_append (isPlain_fileName params).not_isRooted,
    Path.join_eq_append (isPlain_temporaryName params).not_isRooted, String.append_assoc]

theorem locate_temporaryPath {w : World} (hlinks : w.links = []) (base : String)
    (params : Option String) :
    w.locate (temporaryPath base params) =
      w.locate (storePath base) ++ [fileName params ++ ".tmp"] := by
  rw [temporaryPath_eq_join]
  exact World.locate_join hlinks (storePath_ne_empty base) (isPlain_temporaryName params)

/-- No snapshot is written first at a place where a snapshot is kept. -/
theorem locate_temporaryPath_ne {w : World} (hlinks : w.links = []) (base base' : String)
    (params params' : Option String) :
    w.locate (path base params) ≠ w.locate (temporaryPath base' params') := by
  rw [locate_path hlinks, locate_temporaryPath hlinks]
  intro h
  have hname := congrArg List.getLast? h
  rw [List.getLast?_concat, List.getLast?_concat, Option.some.injEq] at hname
  have hlast := congrArg (fun name : String => name.toList.getLast?) hname
  simp [fileName, fileEnd] at hlast

/-! ## Saving -/

section Saving

theorem ensureStore_keeps {P : World → Prop}
    (hP : ∀ w place, P w → P (w.withDirectory place)) (base : String) :
    Action.Keeps P (ensureStore base) := by
  refine .bind (.view _) fun there => .ite (.pure _) (.bind ?_ fun _ => .pure _)
  refine Files.recover_keeps ?_ fun _ => .report _
  exact Files.makeDirectories_spec (fun w hw => hP w _ hw) fun w _ hw => hw

theorem ensureStore_sameBut (v : World) (base : String) (place : Location) :
    v.SameBut place (ensureStore base v).2 :=
  (ensureStore_keeps (fun _ p h => h.withDirectory p) base).apply (.refl v place)

theorem file?_ensureStore (v : World) (base path : String) :
    (ensureStore base v).2.file? path = v.file? path := by
  have hsame := ensureStore_sameBut v base (v.locate path ++ [""])
  rw [World.file?, World.file?, hsame.alike.locate, hsame.files _ (by simp)]

theorem discard_spec {P Q : World → Prop} {file : String}
    (hremoved : ∀ w, P w → Q (w.withoutFile (w.locate file)))
    (hkept : ∀ w, P w → (w.fault? .remove file = none → w.isFile file = false) → Q w) :
    Action.Spec P (discard file) (fun _ => Q) fun _ => Q := by
  refine Files.recover_spec (M := fun _ => Q) ?_ (fun _ => .pure fun _ h => h) fun _ _ h => h
  exact Files.remove_spec (fun w hw _ => hremoved w hw) fun w _ hw h => hkept w hw h

theorem discard_keeps {P : World → Prop} {file : String}
    (hP : ∀ w, P w → P (w.withoutFile (w.locate file))) : Action.Keeps P (discard file) :=
  discard_spec hP fun _ hw _ => hw

variable (v : World) (base : String) (params : Option String) (environment : Environment)
  (script : String)

/-- The file that a save puts in place. -/
def fileOf (modified : Rat) : File :=
  ⟨.snapshot ⟨⟨paramsOf params, modified, v.clock⟩, environment⟩, v.clock⟩

/-- The world after writing a file beside the place of the snapshot and then putting it there. -/
def replaced (modified : Rat) : World :=
  ((v.withFile (v.locate (temporaryPath base params)) (fileOf v params environment modified)
    ).withoutFile (v.locate (temporaryPath base params))).withFile (v.locate (path base params))
      (fileOf v params environment modified)

theorem replaced_sameBut (modified : Rat) :
    (v.withFile (v.locate (path base params)) (fileOf v params environment modified)).SameBut
      (v.locate (temporaryPath base params)) (replaced v base params environment modified) := by
  have hplace : (v.withFile (v.locate (path base params))
      (fileOf v params environment modified)).Alike v := ((Alike.refl v).withFile _ _).symm
  refine ⟨hplace.trans ((((Alike.refl v).withFile _ _).withoutFile _).withFile _ _), ?_,
    fun q hq => ?_⟩
  · simp only [replaced, World.clock_withFile, World.clock_withoutFile]
  · rw [replaced, World.fileAt?_withFile, World.fileAt?_withFile, World.fileAt?_withoutFile,
      if_neg hq, World.fileAt?_withFile, if_neg hq]

theorem directories_replaced (modified : Rat) :
    (replaced v base params environment modified).directories = v.directories := by
  simp only [replaced, World.directories_withFile, World.directories_withoutFile]

/-- Writing first beside the place and then putting the file there. -/
theorem store_spec :
    Action.Spec (fun w => w = v) (store base params environment script)
      (fun _ w => ∃ modified, (Files.modified script v).result = .ok modified ∧
        v.isDirectory (temporaryPath base params) = false ∧
        w = replaced v base params environment modified)
      (fun _ w => v.OnlyAt (v.locate (temporaryPath base params)) w) := by
  have hsame : v.OnlyAt (v.locate (temporaryPath base params)) v := .refl _ _
  refine .bind (M := fun modified w => w = v ∧ (Files.modified script v).result = .ok modified)
    (.ask ?_ ?_) fun modified => ?_
  · rintro w modified rfl h
    exact ⟨rfl, h⟩
  · rintro w failure rfl -
    exact hsame
  refine .bind (M := fun now w => now = v.clock ∧ w = v ∧
    (Files.modified script v).result = .ok modified) (.view ?_) fun now => ?_
  · rintro w ⟨rfl, h⟩
    exact ⟨rfl, rfl, h⟩
  refine .bind (M := fun _ w => (Files.modified script v).result = .ok modified ∧
    v.isDirectory (temporaryPath base params) = false ∧
    w = v.withFile (v.locate (temporaryPath base params)) (fileOf v params environment modified))
    (Files.write_spec ?_ ?_) fun _ => Files.replace_spec ?_ ?_
  · rintro w ⟨rfl, rfl, h⟩ hdirectory -
    exact ⟨h, hdirectory, rfl⟩
  · rintro w failure ⟨-, rfl, -⟩
    exact hsame
  · rintro w file ⟨h, hdirectory, rfl⟩ hfile
    refine ⟨modified, h, hdirectory, ?_⟩
    have hfile := World.fileAt?_of_file? hfile
    have halike : v.Alike (v.withFile (v.locate (temporaryPath base params))
        (fileOf v params environment modified)) := (Alike.refl v).withFile _ _
    rw [halike.locate, World.fileAt?_withFile, if_pos rfl] at hfile
    rw [halike.locate, halike.locate, ← Option.some.inj hfile]
    rfl
  · rintro w failure ⟨-, -, rfl⟩
    exact hsame.withFile _

/-- A save either puts one file in place, with the time of the script as it is when the directory
    is there, or changes no file but the one that is written first. That one is removed unless
    this fails, or another failure gets through. -/
theorem save_exact :
    Action.Spec (fun w => w = v) (save base params environment script)
      (fun saved w =>
        (saved = true → ∃ modified,
          (Files.modified script (ensureStore base v).2).result = .ok modified ∧
          (ensureStore base v).2.isDirectory (temporaryPath base params) = false ∧
          w = replaced (ensureStore base v).2 base params environment modified) ∧
        (saved = false →
          (ensureStore base v).2.OnlyAt (v.locate (temporaryPath base params)) w ∧
          (v.fault? .remove (temporaryPath base params) = none →
            w.fileAt? (v.locate (temporaryPath base params)) = none)))
      (fun _ w => (ensureStore base v).2.OnlyAt (v.locate (temporaryPath base params)) w) := by
  have halike : v.Alike (ensureStore base v).2 :=
    (ensureStore_sameBut v base (v.locate (temporaryPath base params))).alike
  have hlocate := halike.locate
  have htemporary := temporaryPath_ne_empty base params
  refine .bind (.self (ensureStore base) v fun _ => .refl _ _) fun _ => ?_
  refine Files.recover_spec
    (M := fun _ => (ensureStore base v).2.OnlyAt (v.locate (temporaryPath base params)))
    (.bind ((store_spec _ base params environment script).mono (fun _ h => h) (fun _ _ h => h) ?_)
      fun _ => .pure ?_) (fun failure => ?_) fun _ _ h => h
  · intro failure w h
    rw [hlocate] at h
    exact h
  · exact fun w h => ⟨fun _ => h, nofun⟩
  -- After the failure: the file that was written first is removed, if it is there.
  refine .bind
    (M := fun _ => (ensureStore base v).2.OnlyAt (v.locate (temporaryPath base params)))
    (.report fun _ h => h) fun _ => ?_
  refine .bind (M := fun there w => there = w.exists? (temporaryPath base params) ∧
    (ensureStore base v).2.OnlyAt (v.locate (temporaryPath base params)) w)
    (.view fun _ h => ⟨rfl, h⟩) fun there => ?_
  refine .ite (fun hthere => .bind (M := fun _ w =>
    (ensureStore base v).2.OnlyAt (v.locate (temporaryPath base params)) w ∧
      (v.fault? .remove (temporaryPath base params) = none →
        w.fileAt? (v.locate (temporaryPath base params)) = none))
    ((discard_spec ?_ ?_).mono (fun _ h => h.2) (fun _ _ h => h) fun _ _ h => h.1)
    fun _ => .pure ?_) fun hthere => .pure ?_
  · intro w hw
    rw [hw.alike.locate, hlocate]
    refine ⟨hw.withoutFile, fun _ => ?_⟩
    rw [World.fileAt?_withoutFile, if_pos rfl]
  · intro w hw hkept
    refine ⟨hw, fun hfault => ?_⟩
    have hnone := World.fileAt?_of_isFile htemporary (hkept ?_)
    · rwa [hw.alike.locate, hlocate] at hnone
    · rwa [hw.alike.fault?, halike.fault?]
  · exact fun w h => ⟨nofun, fun _ => h⟩
  · rintro w ⟨hexists, hw⟩
    refine ⟨nofun, fun _ => ⟨hw, fun _ => ?_⟩⟩
    rw [hexists, Bool.not_eq_true, World.exists?, Bool.or_eq_false_iff] at hthere
    have hnone := World.fileAt?_of_isFile htemporary hthere.1
    rwa [hw.alike.locate, hlocate] at hnone

/-- A save that succeeds puts one file in place, with the time of the script as it is when the
    directory is there. Any other save leaves all files as they are, but for the one that is
    written first. -/
theorem save_spec :
    Action.Spec (fun w => w = v) (save base params environment script)
      (fun saved w =>
        (saved = true → ∃ modified,
          (Files.modified script (ensureStore base v).2).result = .ok modified ∧
          (v.withFile (v.locate (path base params)) (fileOf v params environment modified)).SameBut
            (v.locate (temporaryPath base params)) w) ∧
        (saved = false → v.SameBut (v.locate (temporaryPath base params)) w))
      (fun _ w => v.SameBut (v.locate (temporaryPath base params)) w) := by
  have hthere : v.SameBut (v.locate (temporaryPath base params)) (ensureStore base v).2 :=
    ensureStore_sameBut v base _
  refine (save_exact v base params environment script).mono (fun _ h => h) (fun saved w h => ?_)
    fun failure w h => hthere.trans h.toSameBut
  refine ⟨fun hsaved => ?_, fun hsaved => hthere.trans (h.2 hsaved).1.toSameBut⟩
  obtain ⟨modified, hmodified, -, rfl⟩ := h.1 hsaved
  have hstored := replaced_sameBut (ensureStore base v).2 base params environment modified
  rw [hthere.alike.locate, hthere.alike.locate, fileOf, hthere.clock] at hstored
  exact ⟨modified, hmodified, (hthere.withFile_both _ _).trans hstored⟩

/-- What holds after a save, if it holds when the directory is there and still when files are
    removed and the new file is put in place. When it is written, more may hold. -/
theorem save_stages {P R : World → Prop} (hensured : P (ensureStore base v).2)
    (hremove : ∀ w place, P w → P (w.withoutFile place))
    (hwrite : ∀ modified, (Files.modified script (ensureStore base v).2).result = .ok modified →
      (ensureStore base v).2.isDirectoryAt
        ((ensureStore base v).2.locate (temporaryPath base params)).dropLast →
      R ((ensureStore base v).2.withFile
        ((ensureStore base v).2.locate (temporaryPath base params))
        (fileOf (ensureStore base v).2 params environment modified)))
    (hwritten : ∀ w, R w → P w)
    (hreplace : ∀ w file, R w → w.fileAt? (w.locate (temporaryPath base params)) = some file →
      P ((w.withoutFile (w.locate (temporaryPath base params))).withFile
        (w.locate (path base params)) file)) :
    P (save base params environment script v).2 := by
  have hstore : Action.Spec (fun w => w = (ensureStore base v).2)
      (store base params environment script) (fun _ => P) fun _ => P := by
    refine .bind (M := fun modified w => w = (ensureStore base v).2 ∧
      (Files.modified script (ensureStore base v).2).result = .ok modified)
      (.ask ?_ ?_) fun modified => ?_
    · rintro w modified rfl h
      exact ⟨rfl, h⟩
    · rintro w failure rfl -
      exact hensured
    refine .bind (M := fun now w => now = (ensureStore base v).2.clock ∧
      w = (ensureStore base v).2 ∧
      (Files.modified script (ensureStore base v).2).result = .ok modified) (.view ?_)
      fun now => ?_
    · rintro w ⟨rfl, h⟩
      exact ⟨rfl, rfl, h⟩
    refine .bind (M := fun _ => R) (Files.write_spec ?_ ?_) fun _ => ?_
    · rintro w ⟨rfl, rfl, hmodified⟩ - haround
      exact hwrite modified hmodified haround
    · rintro w failure ⟨-, rfl, -⟩
      exact hensured
    · refine Files.replace_spec (fun w file hw hfile => ?_) fun w failure hw => hwritten w hw
      exact hreplace w file hw (World.fileAt?_of_file? hfile)
  have hsave : Action.Spec (fun w => w = v) (save base params environment script) (fun _ => P)
      fun _ => P := by
    refine .bind (.self (ensureStore base) v fun _ => hensured) fun _ => ?_
    refine Files.recover_spec (M := fun _ => P) (.bind hstore fun _ => .pure fun _ h => h)
      (fun failure => ?_) fun _ _ h => h
    refine .bind (.report (Q := fun _ => P) fun _ h => h) fun _ => ?_
    refine .bind (M := fun _ => P) (.view fun _ h => h) fun there => .ite (fun _ => ?_) fun _ => ?_
    · exact .bind (discard_keeps fun w hw => hremove w _ hw) fun _ => .pure fun _ h => h
    · exact .pure fun _ h => h
  exact hsave.state rfl

/-- What holds after a save, if it holds when the directory is there, when the new file is written
    from there, and still when files are removed and the new file is put in place. -/
theorem save_state {P : World → Prop} (hensured : P (ensureStore base v).2)
    (hremove : ∀ w place, P w → P (w.withoutFile place))
    (hwrite : ∀ modified, (Files.modified script (ensureStore base v).2).result = .ok modified →
      (ensureStore base v).2.isDirectoryAt
        ((ensureStore base v).2.locate (temporaryPath base params)).dropLast →
      P ((ensureStore base v).2.withFile
        ((ensureStore base v).2.locate (temporaryPath base params))
        (fileOf (ensureStore base v).2 params environment modified)))
    (hreplace : ∀ w file, P w → w.fileAt? (w.locate (temporaryPath base params)) = some file →
      P ((w.withoutFile (w.locate (temporaryPath base params))).withFile
        (w.locate (path base params)) file)) :
    P (save base params environment script v).2 :=
  save_stages v base params environment script hensured hremove hwrite (fun _ h => h) hreplace

end Saving

/-! ## Loading and cleaning up only take files away -/

section Losing

variable {P : World → Prop}

theorem load_keeps (hP : ∀ w place, P w → P (w.withoutFile place)) (base : String)
    (params : Option String) (script : String) (limit : Option Rat) :
    Action.Keeps P (load base params script limit) := by
  refine .bind (.view _) fun there => .ite (.recover (.ask _ _) fun failure => ?_) (.pure _)
  refine .ite (.bind (.report _) fun _ => .bind ?_ fun _ => .pure _) (.fail _)
  exact discard_keeps fun w hw => hP w _ hw

section Old

variable {limit : Rat}

theorem removeIfOld_spares {path : String} (hP : ∀ w file, P w → w.file? path = some file →
    isOlder file.modified limit w → P (w.withoutFile (w.locate path))) :
    Action.Keeps P (removeIfOld path limit) := by
  refine Action.Spec.bind
    (M := fun modified w => P w ∧ (Files.modified path w).result = .ok modified)
    (.ask (fun w modified hw h => ⟨hw, h⟩) fun w _ hw _ => hw) fun modified => ?_
  refine Action.Spec.bind (M := fun old w =>
    (P w ∧ (Files.modified path w).result = .ok modified) ∧ old = isOlder modified limit w)
    (.view fun w hw => ⟨hw, rfl⟩) fun old => .ite (fun hold => ?_) fun _ => .pure fun w hw => hw.1.1
  refine Action.Spec.bind (M := fun _ => P) (Files.remove_spec ?_ fun w _ hw _ => hw.1.1)
    fun _ => .pure fun _ hw => hw
  rintro w ⟨⟨hw, hmodified⟩, rfl⟩ hfile
  obtain ⟨file, hthere⟩ := Option.isSome_iff_exists.1 hfile
  have htime := Files.unlessFault_eq_ok hmodified
  rw [hthere] at htime
  cases htime
  exact hP w file hw hthere hold

/-- By induction on the files to look at. -/
theorem removeOld_spares (files : List String) (hP : ∀ path ∈ files, ∀ w file, P w →
    w.file? path = some file → isOlder file.modified limit w → P (w.withoutFile (w.locate path))) :
    Action.Keeps P (removeOld limit files) := by
  induction files with
  | nil => exact .pure _
  | cons file files ih =>
    obtain ⟨hfile, hfiles⟩ := List.forall_mem_cons.1 hP
    refine .bind (Files.recover_keeps (removeIfOld_spares hfile) fun failure => ?_)
      fun removed => .bind (ih hfiles) fun count => .pure _
    exact .bind (.report _) fun _ => .pure _

/-- What holds after a cleanup, if it holds before and still when an old file is taken away that
    is listed under the name of a snapshot. -/
theorem cleanup_state {v : World} {base : String} (hv : P v)
    (hP : ∀ names, (Files.list (storePath base) v).result = .ok names →
      ∀ name ∈ names.filter isStoredName, ∀ w file, P w →
        w.file? (Path.join (storePath base) name) = some file → isOlder file.modified limit w →
          P (w.withoutFile (w.locate (Path.join (storePath base) name)))) :
    P (cleanup base limit v).2 := by
  let listed (path : String) : Prop := ∃ names,
    (Files.list (storePath base) v).result = .ok names ∧
      ∃ name ∈ names.filter isStoredName, Path.join (storePath base) name = path
  have hcleanup : Action.Spec (fun w => w = v) (cleanup base limit) (fun _ => P) fun _ => P := by
    refine .bind (M := fun _ w => w = v) (.view fun _ hw => hw) fun there => .ite (fun _ => ?_)
      fun _ => .pure fun w hw => hw ▸ hv
    refine .bind (M := fun paths w => (∀ path ∈ paths, listed path) ∧ P w)
      (Files.recover_spec (M := fun _ => P) (.ask ?_ fun w _ hw _ => hw ▸ hv) (fun failure => ?_)
        fun _ _ hw => hw) fun paths => .of_state ?_
    · rintro w paths rfl hpaths
      obtain ⟨names, hnames, hpaths⟩ := Query.result_bind_eq_ok_iff.1 hpaths
      cases hpaths
      exact ⟨fun path hpath => ⟨names, hnames, List.mem_map.1 hpath⟩, hv⟩
    · exact .bind (M := fun _ => P) (.report fun _ hw => hw) fun _ => .pure fun w hw => ⟨nofun, hw⟩
    · rintro w ⟨hlisted, hw⟩
      refine Action.Keeps.apply (.bind (removeOld_spares paths fun path hpath => ?_)
        fun count => .ite (.bind (.report _) fun _ => .pure _) (.pure _)) hw
      obtain ⟨names, hnames, name, hname, rfl⟩ := hlisted path hpath
      exact hP names hnames name hname
  exact hcleanup.state rfl

/-- A cleanup keeps what taking away old files keeps. -/
theorem cleanup_spares (hP : ∀ w path file, P w → w.file? path = some file →
    isOlder file.modified limit w → P (w.withoutFile (w.locate path))) (base : String) :
    Action.Keeps P (cleanup base limit) :=
  .of_state fun _ hv => cleanup_state hv fun _ _ _ _ w file => hP w _ file

end Old

theorem cleanup_keeps (hP : ∀ w place, P w → P (w.withoutFile place)) (base : String)
    (limit : Rat) : Action.Keeps P (cleanup base limit) :=
  cleanup_spares (fun w _ _ hw _ _ => hP w _ hw) base

end Losing

/-! ## What is loaded -/

/-- A snapshot still serves: same parameters, the script there with the same time as at the
    capture, and young enough. -/
structure Serves (m : Metadata) (params : Option String) (script : String) (limit : Option Rat)
    (w : World) : Prop where
  sameParams : m.params = paramsOf params
  there : w.exists? script
  sameTime : (Files.modified script w).result = .ok m.scriptModified
  recent : ∀ hours ∈ limit, m.age w ≤ hours

theorem isRecent_iff (m : Metadata) (limit : Option Rat) (w : World) :
    m.isRecent limit w ↔ ∀ hours ∈ limit, m.age w ≤ hours := by
  cases limit with
  | none => simp [Metadata.isRecent]
  | some hours => simp [Metadata.isRecent]

/-- Without faults, the time of what is there can be told. -/
theorem exists_modified {w : World} (hfaults : w.faults = []) {script : String}
    (h : w.exists? script) : ∃ modified, (Files.modified script w).result = .ok modified := by
  dsimp only [Files.modified]
  rw [Files.unlessFault_of_faults hfaults]
  cases hfile : w.file? script with
  | some file => exact ⟨_, rfl⟩
  | none =>
    have hdirectory : w.isDirectory script = true := by
      rwa [World.exists?, World.isFile, hfile, Option.isSome_none, Bool.false_or] at h
    exact ⟨0, by simp only [hdirectory]; rfl⟩

theorem isValid_of_faults {w : World} (hfaults : w.faults = []) (m : Metadata)
    (params : Option String) (script : String) (limit : Option Rat) :
    ∃ valid, (isValid m params script limit w).result = .ok valid ∧
      (valid = true ↔ Serves m params script limit w) := by
  unfold isValid
  by_cases hparams : m.params = paramsOf params
  · rw [if_neg (not_not.2 hparams), Query.result_bind_of_ok (a := w.exists? script) rfl]
    cases hthere : w.exists? script with
    | false =>
      refine ⟨false, rfl, nofun, fun h => ?_⟩
      rw [← hthere]
      exact h.there
    | true =>
      obtain ⟨modified, hmodified⟩ := exists_modified hfaults hthere
      rw [if_pos rfl, Query.result_bind_of_ok hmodified]
      by_cases htime : modified = m.scriptModified
      · rw [if_neg (not_not.2 htime)]
        refine ⟨m.isRecent limit w, rfl, fun h => ?_, fun h => (isRecent_iff m limit w).2 h.recent⟩
        exact ⟨hparams, hthere, htime ▸ hmodified, (isRecent_iff m limit w).1 h⟩
      · rw [if_pos htime]
        refine ⟨false, rfl, nofun, fun h => ?_⟩
        have hsame := h.sameTime
        rw [hmodified] at hsame
        exact absurd (Except.ok.inj hsame) htime
  · rw [if_pos hparams]
    exact ⟨false, rfl, nofun, fun h => absurd h.sameParams hparams⟩

/-- Without faults, a file is discarded, or there is none to discard. -/
theorem result_discard {w : World} (hfaults : w.faults = []) (file : String) :
    (discard file w).1.result = .ok () := by
  cases h : (Files.remove file w).1.result with
  | ok a => exact Action.result_recover_of_ok h
  | error failure =>
    have hfile : failure.isFileError = true := by
      dsimp only [Files.remove, Files.change] at h
      rw [Files.unlessFault_of_faults hfaults] at h
      by_cases hthere : w.isFile file
      · simp only [if_pos hthere] at h
        cases h
      · simp only [if_neg hthere] at h
        cases h
        rfl
    unfold discard Files.recover
    rw [Action.result_recover_of_error h, if_pos hfile]
    rfl

/-- Nothing is loaded where there is no file. -/
theorem result_load_of_none {w : World} (hfaults : w.faults = []) {base : String}
    {params : Option String} (h : w.fileAt? (w.locate (path base params)) = none)
    (script : String) (limit : Option Rat) :
    (load base params script limit w).1.result = .ok none := by
  have hfile : w.file? (path base params) = none := by
    rw [World.file?_of_ne_empty w (path_ne_empty base params), h]
  unfold load
  rw [Action.view_bind]
  cases hthere : w.exists? (path base params) with
  | false => rfl
  | true =>
    have hdirectory : w.isDirectory (path base params) = true := by
      rwa [World.exists?, World.isFile, hfile, Option.isSome_none, Bool.false_or] at hthere
    have hread : (readValid (path base params) params script limit w).result =
        .error (Files.error .isDirectory (path base params)) := by
      refine Query.result_bind_of_error (Query.result_bind_of_error ?_)
      dsimp only [Files.read, Files.content]
      rw [Files.unlessFault_of_faults hfaults, hfile]
      simp only [hdirectory]
      rfl
    have hunreadable : isUnreadable (Files.error .isDirectory (path base params)) = true := rfl
    rw [if_pos rfl, Action.result_recover_of_error hread, if_pos hunreadable]
    refine (Action.result_bind_of_ok (a := ()) rfl).trans ?_
    exact Action.result_bind_of_ok (result_discard hfaults _)

theorem load_of_readValid {w : World} {base : String} {params : Option String} {script : String}
    {limit : Option Rat} {answer : Option Environment} (hthere : w.exists? (path base params))
    (h : (readValid (path base params) params script limit w).result = .ok answer) :
    (load base params script limit w).1.result = .ok answer ∧
      (load base params script limit w).2 = w := by
  unfold load
  rw [Action.view_bind, if_pos hthere, Action.recover_of_ok h]
  exact ⟨h, rfl⟩

/-- What is loaded is the snapshot in place, if it still serves, and it stays there. -/
theorem load_of_snapshot {w : World} (hfaults : w.faults = []) {base : String}
    {params : Option String} {s : Stored} {modified : Rat}
    (h : w.fileAt? (w.locate (path base params)) = some ⟨.snapshot s, modified⟩)
    (script : String) (limit : Option Rat) :
    ∃ valid : Bool, (load base params script limit w).1.result =
        .ok (if valid then some s.environment else none) ∧
      (load base params script limit w).2 = w ∧
      (valid = true ↔ Serves s.metadata params script limit w) := by
  have hfile : w.file? (path base params) = some ⟨.snapshot s, modified⟩ := by
    rw [World.file?_of_ne_empty w (path_ne_empty base params), h]
  have hthere : w.exists? (path base params) = true := by
    rw [World.exists?, World.isFile, hfile]
    rfl
  obtain ⟨valid, hvalid, hserves⟩ := isValid_of_faults hfaults s.metadata params script limit
  have hcontent : (Files.read (path base params) w).result = .ok (.snapshot s) := by
    dsimp only [Files.read, Files.content]
    rw [Files.unlessFault_of_faults hfaults, hfile]
  have hread : (read (path base params) w).result = .ok s := Query.result_bind_of_ok hcontent
  have hvalid : (readValid (path base params) params script limit w).result =
      .ok (if valid then some s.environment else none) := by
    unfold readValid
    rw [Query.result_bind_of_ok hread, Query.result_bind_of_ok hvalid]
    cases valid with
    | false => rfl
    | true => rfl
  obtain ⟨hresult, hstate⟩ := load_of_readValid hthere hvalid
  exact ⟨valid, hresult, hstate, hserves⟩

/-- Validity that is told, whatever can fail. -/
theorem Serves.of_isValid {w : World} {m : Metadata} {params : Option String} {script : String}
    {limit : Option Rat} (h : (isValid m params script limit w).result = .ok true) :
    Serves m params script limit w := by
  unfold isValid at h
  split at h
  · cases h
  · next hparams =>
    obtain ⟨there, hthere, h⟩ := Query.result_bind_eq_ok_iff.1 h
    split at h
    · next hscript =>
      obtain ⟨modified, hmodified, h⟩ := Query.result_bind_eq_ok_iff.1 h
      split at h
      · cases h
      · next htime =>
        refine ⟨not_not.1 hparams, ?_, ?_, (isRecent_iff m limit w).1 (Except.ok.inj h)⟩
        · exact (Except.ok.inj hthere).trans hscript
        · exact not_not.1 htime ▸ hmodified
    · cases h

/-- What is read where a snapshot serves. -/
theorem exists_of_readValid {w : World} {file : String} {params : Option String} {script : String}
    {limit : Option Rat} {environment : Environment}
    (h : (readValid file params script limit w).result = .ok (some environment)) :
    ∃ s modified, w.file? file = some ⟨.snapshot s, modified⟩ ∧ s.environment = environment ∧
      Serves s.metadata params script limit w := by
  obtain ⟨s, hread, h⟩ := Query.result_bind_eq_ok_iff.1 h
  obtain ⟨valid, hvalid, h⟩ := Query.result_bind_eq_ok_iff.1 h
  obtain ⟨content, hcontent, hs⟩ := Query.result_bind_eq_ok_iff.1 hread
  have hcontent' := Files.unlessFault_eq_ok hcontent
  cases valid with
  | false => cases h
  | true =>
    cases h
    cases hfile : w.file? file with
    | none =>
      rw [hfile] at hcontent'
      cases hcontent'
    | some there =>
      rw [hfile] at hcontent'
      obtain ⟨held, modified⟩ := there
      cases hcontent'
      cases held with
      | snapshot held =>
        cases hs
        exact ⟨s, modified, rfl, rfl, .of_isValid hvalid⟩
      | bytes data =>
        cases data with
        | nil => cases hs
        | cons d data => cases hs
      | damaged error => cases hs

/-- An environment is loaded only from a snapshot in place that serves, whatever can fail. -/
theorem exists_of_load {w : World} {base : String} {params : Option String} {script : String}
    {limit : Option Rat} {environment : Environment}
    (h : (load base params script limit w).1.result = .ok (some environment)) :
    ∃ s modified, w.fileAt? (w.locate (path base params)) = some ⟨.snapshot s, modified⟩ ∧
      s.environment = environment ∧ Serves s.metadata params script limit w := by
  have hspec : Action.Spec (fun v => v = w) (load base params script limit)
      (fun answer _ => ∀ e ∈ answer, (readValid (path base params) params script limit w).result =
        .ok (some e)) fun _ _ => True := by
    refine .bind (M := fun _ v => v = w) (.view fun _ hv => hv) fun there => .ite (fun _ => ?_)
      fun _ => .pure fun _ _ => nofun
    refine .recover (M := fun _ _ => True) (.ask ?_ fun _ _ _ _ => trivial) fun failure => ?_
    · rintro v answer rfl hanswer e he
      rw [Option.mem_def] at he
      rw [← he]
      exact hanswer
    · refine .ite (fun _ => ?_) fun _ => .fail fun _ _ => trivial
      refine .bind (M := fun _ _ => True) (.report fun _ _ => trivial) fun _ => ?_
      refine .bind (M := fun _ _ => True) ?_ fun _ => .pure fun _ _ => nofun
      exact discard_keeps fun _ _ => trivial
  obtain ⟨s, modified, hfile, henvironment, hserves⟩ :=
    exists_of_readValid (hspec.of_ok rfl h environment rfl)
  exact ⟨s, modified, World.fileAt?_of_file? hfile, henvironment, hserves⟩

end Snapshot
end CompileCommands
