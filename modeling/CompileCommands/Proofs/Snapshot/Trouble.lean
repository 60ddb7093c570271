/-
  Trouble with stored snapshots.

  * `World.OnlyFileErrors`, `Snapshot.Mild`: what goes wrong with calls are errors of file access;
  * `Calm`: an action that does not fail;
  * `save_calm`, `cleanup_calm`: a save to a directory that the system takes and a cleanup are such
    actions, since they absorb errors of file access;
  * `load_answers`: neither does a load fail, and all that it may do to the world is to take away
    the file that it cannot use.
-/
import CompileCommands.Proofs.Snapshot.Failing

namespace CompileCommands

/-! ## Faults -/

namespace World

/-- What goes wrong with such calls at the path is an error of file access. -/
def OnlyFileErrors (w : World) (call : Call) (path : String) : Prop :=
  ∀ failure, w.fault? call path = some failure → failure.isFileError

theorem OnlyFileErrors.of_faults {w : World} (h : ∀ fault ∈ w.faults, fault.failure.isFileError)
    (call : Call) (path : String) : w.OnlyFileErrors call path :=
  FaultsAre.of_faults h call path

theorem Alike.onlyFileErrors {v w : World} (h : v.Alike w) {call : Call} {path : String}
    (hpath : v.OnlyFileErrors call path) : w.OnlyFileErrors call path :=
  h.faultsAre hpath

end World

/-! ## Actions that do not fail -/

/-- The action changes nothing but files, directories and the time of a world like this one, and
    does not fail. -/
def Calm {α : Type} (w : World) (x : Action World α) : Prop :=
  Action.Spec w.Alike x (fun _ => w.Alike) fun _ _ => False

namespace Calm

variable {α : Type} {w : World} {x : Action World α}

theorem of_failsOnly (h : Action.FailsOnly (fun _ => False) w.Alike x) : Calm w x :=
  Action.Spec.mono h (fun _ hv => hv) (fun _ _ hv => hv) fun _ _ hfalse => hfalse.1

theorem answers (h : Calm w x) : ∃ a, (x w).1.result = .ok a ∧ w.Alike (x w).2 := by
  cases hresult : (x w).1.result with
  | ok a => exact ⟨a, rfl, h.of_ok (.refl w) hresult⟩
  | error failure => exact (h.of_error (.refl w) hresult).elim

end Calm

/-! ## Snapshots -/

namespace Snapshot

variable {w : World} {base script : String}

/-- What goes wrong with calls in the directory of the store, and with asking for the time of the
    script, are errors of file access. -/
structure Mild (w : World) (base script : String) : Prop where
  store : ∀ call, w.OnlyFileErrors call (storePath base)
  inside : ∀ call name, w.OnlyFileErrors call (Path.join (storePath base) name)
  script : w.OnlyFileErrors .status script

namespace Mild

theorem of_faults (h : ∀ fault ∈ w.faults, fault.failure.isFileError) (base script : String) :
    Mild w base script :=
  ⟨fun call => .of_faults h call _, fun call _ => .of_faults h call _, .of_faults h _ _⟩

theorem alike (h : Mild w base script) {v : World} (hv : w.Alike v) : Mild v base script :=
  ⟨fun call => hv.onlyFileErrors (h.store call),
    fun call name => hv.onlyFileErrors (h.inside call name), hv.onlyFileErrors h.script⟩

theorem meets (h : Mild w base script) : Meets (fun failure => failure.isFileError) w base script :=
  ⟨fun _ => rfl, h.store, h.inside, h.script⟩

end Mild

/-- Of errors of file access, nothing is left if these are absorbed. -/
theorem false_of_absorbed (failure : Failure) (herror : failure.isFileError)
    (hother : failure.isFileError = false) : False := by
  rw [herror] at hother
  cases hother

theorem discard_cases (w : World) (file : String) :
    (discard file w).2 = w ∨ (discard file w).2 = w.withoutFile (w.locate file) := by
  let discarded (v : World) : Prop := v = w ∨ v = w.withoutFile (w.locate file)
  have hspec : Action.Spec (fun v => v = w) (discard file) (fun _ => discarded)
      fun _ => discarded := by
    refine discard_spec ?_ fun v hv _ => .inl hv
    rintro v rfl
    exact .inr rfl
  exact hspec.state rfl

theorem discard_calm {file : String} (h : w.OnlyFileErrors .remove file) : Calm w (discard file) :=
  .of_failsOnly (failsOnly_discard false_of_absorbed (fun _ => rfl) h)

section Calm

variable (h : Mild w base script)
include h

/-! ### Saving and cleaning up -/

theorem save_calm (htaken : Files.refusal? base = none) (params : Option String)
    (environment : Environment) : Calm w (save base params environment script) :=
  .of_failsOnly (failsOnly_save h.meets false_of_absorbed (.of_taken htaken) params environment)

theorem cleanup_calm (limit : Rat) : Calm w (cleanup base limit) :=
  .of_failsOnly (failsOnly_cleanup h.meets false_of_absorbed limit)

omit h in
/-- A save succeeds only in a directory that the system takes. -/
theorem refusal?_of_save {params : Option String} {environment : Environment}
    (hsaved : (save base params environment script w).1.result = .ok true) :
    Files.refusal? base = none := by
  have hwrite (content : Content) : Action.Spec (fun _ => True)
      (Files.write (temporaryPath base params) content)
      (fun _ _ => Files.refusal? (temporaryPath base params) = none) fun _ _ => True := by
    refine ⟨fun v _ => ?_⟩
    split
    · next hresult => exact Files.refusal?_of_write hresult
    · trivial
  have hstore : Action.Spec (fun _ => True) (store base params environment script)
      (fun _ _ => Files.refusal? (temporaryPath base params) = none) fun _ _ => True := by
    refine .bind (M := fun _ _ => True) (.of_state fun _ _ => trivial) fun modified =>
      .bind (M := fun _ _ => True) (.of_state fun _ _ => trivial) fun now =>
      .bind (hwrite _) fun _ => ?_
    exact (Action.Spec.of_state fun _ htaken => htaken).mono (fun _ htaken => htaken)
      (fun _ _ htaken => htaken) fun _ _ _ => trivial
  have hsave : Action.Spec (fun _ => True) (save base params environment script)
      (fun saved _ => saved = true → Files.refusal? (temporaryPath base params) = none)
      fun _ _ => True := by
    refine .bind (M := fun _ _ => True) (.of_state fun _ _ => trivial) fun _ => ?_
    refine Files.recover_spec (M := fun _ _ => True)
      (.bind hstore fun _ => .pure fun _ htaken _ => htaken) (fun failure => ?_) fun _ _ _ => trivial
    refine .bind (M := fun _ _ => True) (.of_state fun _ _ => trivial) fun _ =>
      .bind (M := fun _ _ => True) (.of_state fun _ _ => trivial) fun there =>
      .ite (fun _ => ?_) fun _ => .pure fun _ _ hfalse => Bool.noConfusion hfalse
    exact .bind (M := fun _ _ => True) (.of_state fun _ _ => trivial) fun _ =>
      .pure fun _ _ hfalse => Bool.noConfusion hfalse
  have htemporary := hsave.of_ok trivial hsaved rfl
  rw [temporaryPath_eq_join] at htemporary
  exact Files.refusal?_of_join (by decide)
    (Files.refusal?_of_join (isPlain_temporaryName params).not_isRooted htemporary)

/-! ### Loading -/

/-- What lies at the path can be read back as a snapshot, or is damaged. -/
def Readable (w : World) (path : String) : Prop :=
  ∀ file error, w.file? path = some file → file.content.toSnapshot = .error error → error.isDamage

theorem isUnreadable_of_readValid {params : Option String} {limit : Option Rat} {failure : Failure}
    (hreadable : Readable w (path base params))
    (hf : (readValid (path base params) params script limit w).result = .error failure) :
    isUnreadable failure := by
  obtain hread | ⟨stored, -, hf⟩ := Query.result_bind_eq_error hf
  · obtain hopen | ⟨content, hcontent, hsnapshot⟩ := Query.result_bind_eq_error hread
    · have hread := Files.failsOnly_read h.meets.file (h.meets.path _ params)
      exact isUnreadable_of_isFileError (hread _ hopen)
    · have hfile := Files.unlessFault_eq_ok hcontent
      split at hfile
      · next file hthere =>
        cases hfile
        cases hdamage : file.content.toSnapshot with
        | ok stored =>
          rw [hdamage] at hsnapshot
          cases hsnapshot
        | error error =>
          rw [hdamage] at hsnapshot
          cases hsnapshot
          exact hreadable file error hthere hdamage
      · cases hfile
  · obtain hvalid | ⟨valid, -, hf⟩ := Query.result_bind_eq_error hf
    · exact isUnreadable_of_isFileError (failsOnly_isValid h.meets _ params limit _ hvalid)
    · split at hf <;> cases hf

/-- A load answers. Unless it takes away a file that it cannot use, and then answers with nothing,
    it leaves the world as it is. -/
theorem load_answers {params : Option String} (limit : Option Rat)
    (hreadable : Readable w (path base params)) :
    ∃ answer, (load base params script limit w).1.result = .ok answer ∧
      ((load base params script limit w).2 = w ∨ answer = none ∧
        (∃ failure,
          (readValid (path base params) params script limit w).result = .error failure) ∧
        (load base params script limit w).2 = w.withoutFile (w.locate (path base params))) := by
  unfold load
  rw [Action.view_bind]
  cases w.exists? (path base params) with
  | false => exact ⟨none, rfl, .inl rfl⟩
  | true =>
    rw [if_pos rfl]
    cases hread : (readValid (path base params) params script limit w).result with
    | ok answer =>
      rw [Action.recover_of_ok hread]
      exact ⟨answer, hread, .inl rfl⟩
    | error failure =>
      obtain ⟨_, hanswer, -⟩ := (discard_calm (h.meets.path .remove params)).answers
      rw [Action.recover_of_error hread, if_pos (isUnreadable_of_readValid h hreadable hread)]
      refine ⟨none, Action.result_bind_of_ok hanswer, ?_⟩
      refine (discard_cases w (path base params)).imp (fun hsame => ?_)
        fun hgone => ⟨rfl, ⟨failure, rfl⟩, ?_⟩
      · exact (Action.snd_bind_of_ok hanswer).trans hsame
      · exact (Action.snd_bind_of_ok hanswer).trans hgone

end Calm

end Snapshot
end CompileCommands
