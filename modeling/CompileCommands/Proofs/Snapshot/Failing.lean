/-
  How the store of snapshots fails.

  * `Snapshot.Meets`: what goes wrong with the calls of the store is of a kind, to which all errors
    of file access belong; `Snapshot.Takes`: so is what is wrong with the paths at which a save
    makes something;
  * `failsOnly_store`, `failsOnly_removeIfOld`: writing a snapshot and removing one fail in such a
    way;
  * `failsOnly_save`, `failsOnly_cleanup`: of these failures, a save and a cleanup let through only
    those that are no errors of file access;
  * `failsOnly_isValid`, `failsOnly_load`: so does a load, though what is stored need not be a
    snapshot.
-/
import CompileCommands.Proofs.Snapshot.Access
import CompileCommands.Proofs.World.Failing

namespace CompileCommands.Snapshot

variable {P Q : Failure → Prop} {w : World} {base script : String}

/-- What goes wrong with calls in the directory of the store, and with asking for the time of the
    script, is of a kind, to which all errors of file access belong. -/
structure Meets (P : Failure → Prop) (w : World) (base script : String) : Prop where
  file : ∀ error, P (.file error)
  store : ∀ call, w.FaultsAre P call (storePath base)
  inside : ∀ call name, w.FaultsAre P call (Path.join (storePath base) name)
  script : w.FaultsAre P .status script

namespace Meets

theorem admits (w : World) (base script : String) : Meets w.Admits w base script :=
  ⟨w.admits_file, fun _ => w.faultsAre_admits _ _, fun _ _ => w.faultsAre_admits _ _,
    w.faultsAre_admits _ _⟩

theorem alike (h : Meets P w base script) {v : World} (hv : w.Alike v) : Meets P v base script :=
  ⟨h.file, fun call => hv.faultsAre (h.store call),
    fun call name => hv.faultsAre (h.inside call name), hv.faultsAre h.script⟩

theorem path (h : Meets P w base script) (call : Call) (params : Option String) :
    w.FaultsAre P call (path base params) :=
  h.inside call (fileName params)

theorem temporaryPath (h : Meets P w base script) (call : Call) (params : Option String) :
    w.FaultsAre P call (temporaryPath base params) := by
  rw [temporaryPath_eq_join]
  exact h.inside call _

end Meets

/-! ## Paths of the store -/

theorem isTaken_of_mem_fileName {c : Char} {params : Option String}
    (hc : c ∈ (fileName params).toList) : Files.IsTaken c := by
  have hliteral : (fileStart.toList ++ Text.hexDigits ++ fileEnd.toList).all
      fun c => decide (Text.IsOrdinary c ∧ c ≠ '\x00') := by decide
  have hmem : c ∈ fileStart.toList ++ Text.hexDigits ++ fileEnd.toList := by
    rw [fileName, String.toList_append, String.toList_append] at hc
    simp only [List.mem_append] at hc ⊢
    exact hc.imp_left (·.imp_right mem_hexDigits_of_mem_digestKey)
  obtain ⟨hordinary, hnul⟩ := of_decide_eq_true (List.all_eq_true.1 hliteral c hmem)
  exact ⟨hordinary.isRefusedChar, hnul⟩

/-- If the system does not take a path at which a save makes something, the failure is of a
    kind. -/
structure Takes (P : Failure → Prop) (base : String) : Prop where
  store : Files.RefusalsAre P (storePath base)
  temporary : ∀ params, Files.RefusalsAre P (temporaryPath base params)

namespace Takes

theorem admits (w : World) (base : String) : Takes w.Admits base :=
  ⟨Files.refusalsAre_admits w _, fun _ => Files.refusalsAre_admits w _⟩

/-- The system takes the paths in a directory that it takes. -/
theorem of_taken (h : Files.refusal? base = none) : Takes P base := by
  have hstore : Files.refusal? (storePath base) = none := Files.refusal?_join h (by decide)
  refine ⟨.of_taken hstore, fun params => .of_taken ?_⟩
  rw [temporaryPath_eq_join]
  refine Files.refusal?_join hstore (Files.refusal?_eq_none_iff.2 fun c hc => ?_)
  rw [String.toList_append, List.mem_append] at hc
  obtain hc | hc := hc
  · exact isTaken_of_mem_fileName hc
  · exact Files.refusal?_eq_none_iff.1 (by decide : Files.refusal? ".tmp" = none) c hc

end Takes

/-! ## Single files -/

section Files

variable (h : Meets P w base script)
include h

theorem failsOnly_store (htakes : Takes P base) (params : Option String)
    (environment : Environment) :
    Action.FailsOnly P w.Alike (store base params environment script) := by
  refine .bind (.ask fun v hv => ?_) fun modified => .bind (.view _) fun now => ?_
  · exact Files.failsOnly_modified h.file (h.alike hv).script
  · exact .bind (Files.failsOnly_write h.file (h.temporaryPath _ params)
      (htakes.temporary params) _) fun _ =>
      Files.failsOnly_replace h.file (h.path _ params)

theorem failsOnly_removeIfOld (name : String) (limit : Rat) :
    Action.FailsOnly P w.Alike (removeIfOld (Path.join (storePath base) name) limit) := by
  refine .bind (.ask fun v hv => ?_) fun modified => .bind (.view _) fun old => .ite ?_ (.pure _)
  · exact Files.failsOnly_modified h.file ((h.alike hv).inside _ name)
  · exact .bind (Files.failsOnly_remove h.file (h.inside _ name)) fun _ => .pure _

theorem failsOnly_isValid (m : Metadata) (params : Option String) (limit : Option Rat) :
    (isValid m params script limit).FailsOnly P w := by
  refine .ite (.pure _) (.bind (.view _) fun there => .ite ?_ (.pure _))
  refine .bind (Files.failsOnly_modified h.file h.script) fun modified => ?_
  exact .ite (.pure _) (.view _)

theorem failsOnly_readValid (hsnapshot : ∀ error, P (.snapshot error)) (params : Option String)
    (limit : Option Rat) : (readValid (path base params) params script limit).FailsOnly P w := by
  have hread : (read (path base params)).FailsOnly P w := by
    refine .bind (Files.failsOnly_read h.file (h.path _ params)) fun content => .lift ?_
    cases content.toSnapshot with
    | ok stored => exact .ok _
    | error error => exact .error (hsnapshot error)
  refine .bind hread fun stored => .bind (failsOnly_isValid h _ params limit) fun valid => ?_
  exact .ite (.pure _) (.pure _)

end Files

/-! ## Trouble that is absorbed -/

theorem isUnreadable_of_isFileError {failure : Failure} (hf : failure.isFileError) :
    isUnreadable failure := by
  cases failure with
  | file error => rfl
  | _ => cases hf

section Store

variable (h : Meets P w base script)
  (hrest : ∀ failure, P failure → failure.isFileError = false → Q failure)
include h hrest

omit h in
theorem failsOnly_discard (hfile : ∀ error, P (.file error)) {file : String}
    (hpath : w.FaultsAre P .remove file) : Action.FailsOnly Q w.Alike (discard file) :=
  Files.failsOnly_recover (Files.failsOnly_remove hfile hpath) (fun _ _ _ => .pure ()) hrest

theorem failsOnly_ensureStore (htakes : Takes P base) :
    Action.FailsOnly Q w.Alike (ensureStore base) := by
  refine .bind (.view _) fun there => .ite (.pure _) (.bind ?_ fun _ => .pure _)
  exact Files.failsOnly_recover (Files.failsOnly_makeDirectories h.file (h.store _) htakes.store)
    (fun failure _ _ => .report _) hrest

theorem failsOnly_save (htakes : Takes P base) (params : Option String)
    (environment : Environment) :
    Action.FailsOnly Q w.Alike (save base params environment script) := by
  refine .bind (failsOnly_ensureStore h hrest htakes) fun _ =>
    Files.failsOnly_recover (P := P) ?_ (fun failure _ _ => ?_) hrest
  · exact .bind (failsOnly_store h htakes params environment) fun _ => .pure _
  · refine .bind (.report _) fun _ => .bind (.view _) fun there => .ite ?_ (.pure _)
    exact .bind (failsOnly_discard hrest h.file (h.temporaryPath _ params)) fun _ => .pure _

/-- By induction on the files to look at. -/
theorem failsOnly_removeOld (limit : Rat) (names : List String) :
    Action.FailsOnly Q w.Alike
      (removeOld limit (names.map (Path.join (storePath base)))) := by
  induction names with
  | nil => exact .pure _
  | cons name names ih =>
    refine .bind ?_ fun removed => .bind ih fun count => .pure _
    exact Files.failsOnly_recover (failsOnly_removeIfOld h name limit)
      (fun failure _ _ => .bind (.report _) fun _ => .pure _) hrest

/-- What is listed lies in the directory of the store. -/
theorem listed_spec :
    Action.Spec w.Alike
      (Files.recover (Action.ask id (stored (storePath base))) fun failure => do
        Action.report (.listingFailed (storePath base) failure)
        return [])
      (fun files v => (∃ names : List String, files = names.map (Path.join (storePath base))) ∧
        w.Alike v)
      fun failure v => Q failure ∧ w.Alike v := by
  refine Action.Spec.recover (M := fun failure v => P failure ∧ w.Alike v)
    (.ask (fun v files hv hfiles => ⟨?_, hv⟩) fun v failure hv hf => ⟨?_, hv⟩) fun failure =>
    .ite (fun _ => ?_) fun hfailure => .fail fun _ hv => ⟨hrest failure hv.1 ?_, hv.2⟩
  · obtain ⟨names, -, hnames⟩ := Query.result_bind_eq_ok_iff.1 hfiles
    exact ⟨_, (Except.ok.inj hnames).symm⟩
  · have hstored : (stored (storePath base)).FailsOnly P v :=
      .bind (Files.failsOnly_list h.file ((h.alike hv).store _)) fun _ => .pure _
    exact hstored failure hf
  · refine .bind (M := fun _ => w.Alike) (.report fun _ hv => hv.2) fun _ => .pure fun _ hv => ?_
    exact ⟨⟨[], rfl⟩, hv⟩
  · exact Bool.not_eq_true _ ▸ hfailure

theorem failsOnly_cleanup (limit : Rat) : Action.FailsOnly Q w.Alike (cleanup base limit) := by
  refine .bind (.view _) fun there => .ite ?_ (.pure _)
  refine Action.Spec.bind (listed_spec h hrest) fun files => ⟨?_⟩
  rintro v ⟨⟨names, rfl⟩, hv⟩
  have hcount : Action.FailsOnly Q w.Alike
      (removeOld limit (names.map (Path.join (storePath base))) >>= fun count => do
        if count ≠ 0 then Action.report (.cleanedUp count)
        return count) := by
    refine .bind (failsOnly_removeOld h hrest limit names) fun count => .ite ?_ (.pure _)
    exact .bind (.report _) fun _ => .pure _
  exact hcount.after v hv

theorem failsOnly_load (hsnapshot : ∀ error, P (.snapshot error)) (params : Option String)
    (limit : Option Rat) :
    Action.FailsOnly Q w.Alike (load base params script limit) := by
  refine .bind (.view _) fun there => .ite (.recover (P := P) (.ask fun v hv => ?_)
    fun failure hfailure => ?_) (.pure _)
  · exact failsOnly_readValid (h.alike hv) hsnapshot params limit
  · split
    · refine .bind (.report _) fun _ => .bind ?_ fun _ => .pure _
      exact failsOnly_discard hrest h.file (h.path _ params)
    · next hother =>
      refine .fail (hrest failure hfailure ?_)
      cases herror : failure.isFileError with
      | true => exact absurd (isUnreadable_of_isFileError herror) hother
      | false => rfl

end Store

end CompileCommands.Snapshot
