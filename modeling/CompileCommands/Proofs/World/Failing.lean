/-
  How file access fails.

  * `World.FaultsAre`: the faults of calls at a path are of a kind;
  * `Failure.IsOwn`, `World.Admits`: the failures that the library makes itself, and what can come
    up in a world beside them: the failures of its faults;
  * `Files.RefusalsAre`: if the system does not take a path, the failure is of a kind;
    `Files.refusal?_eq_none_iff`: which paths it takes;
  * `Files.failsOnly_read`, `Files.failsOnly_write` and so on: each access fails with an error of
    file access, or with the fault of its call;
  * `Files.failsOnly_text`, `Files.failsOnly_document`: so does reading a text, or it is no UTF-8,
    and a document may be malformed or nested too deep;
  * `Files.failsOnly_recover`: errors of file access are absorbed.
-/
import CompileCommands.Proofs.Text.Surrogate
import CompileCommands.Proofs.World.Files

namespace CompileCommands

/-! ## Faults -/

/-- A failure that the library makes itself: an error with an exit code has that of its category,
    and of the incidents there is only a document that is nested too deep. -/
def Failure.IsOwn : Failure → Prop
  | .tool error => error.exitCode = error.category.exitCode.toNat
  | .incident kind _ => kind = .tooDeep
  | _ => True

namespace World

variable {P : Failure → Prop} {v w : World} {call : Call} {path : String}

/-- The fault that such calls at the path run into, if any, is of a kind. -/
def FaultsAre (P : Failure → Prop) (w : World) (call : Call) (path : String) : Prop :=
  ∀ failure, w.fault? call path = some failure → P failure

theorem mem_faults_of_fault? {failure : Failure} (h : w.fault? call path = some failure) :
    ∃ fault ∈ w.faults, fault.failure = failure := by
  rw [fault?, Option.map_eq_some_iff] at h
  obtain ⟨fault, hfault, hfailure⟩ := h
  exact ⟨fault, List.mem_of_find?_eq_some hfault, hfailure⟩

theorem FaultsAre.of_faults (h : ∀ fault ∈ w.faults, P fault.failure) (call : Call)
    (path : String) : w.FaultsAre P call path := by
  intro failure hfailure
  obtain ⟨fault, hfault, rfl⟩ := mem_faults_of_fault? hfailure
  exact h fault hfault

theorem Alike.faultsAre (h : v.Alike w) (hpath : v.FaultsAre P call path) :
    w.FaultsAre P call path := by
  intro failure hfailure
  rw [h.fault?] at hfailure
  exact hpath failure hfailure

/-- The failure is one of the library's own, or that of a fault in the world. -/
def Admits (w : World) (failure : Failure) : Prop :=
  failure.IsOwn ∨ ∃ fault ∈ w.faults, fault.failure = failure

theorem faultsAre_admits (w : World) (call : Call) (path : String) :
    w.FaultsAre w.Admits call path :=
  fun _ hfailure => .inr (mem_faults_of_fault? hfailure)

theorem Alike.admits (h : v.Alike w) : w.Admits = v.Admits := by
  unfold Admits
  rw [h.faults]

theorem admits_file (w : World) (error : FileError) : w.Admits (.file error) :=
  .inl trivial

end World

theorem FailsOnly.admits {α : Type} {x : Except Failure α} (h : FailsOnly Failure.IsOwn x)
    (w : World) : FailsOnly w.Admits x :=
  h.mono fun _ => .inl

namespace Files

variable {P : Failure → Prop} {w : World} {call : Call} {path : String}

/-! ## Refusals -/

/-- If the system does not take the path, the failure is of a kind. -/
def RefusalsAre (P : Failure → Prop) (path : String) : Prop :=
  ∀ failure, refusal? path = some failure → P failure

theorem RefusalsAre.of_taken (h : refusal? path = none) : RefusalsAre P path := by
  intro failure hfailure
  cases h.symm.trans hfailure

theorem refusalsAre_admits (w : World) (path : String) : RefusalsAre w.Admits path := by
  intro failure hfailure
  unfold refusal? at hfailure
  split at hfailure
  · cases hfailure
    exact .inl trivial
  · split at hfailure
    · cases hfailure
      exact .inl trivial
    · cases hfailure

/-- The character may stand in a path. -/
structure IsTaken (c : Char) : Prop where
  encoded : Text.isRefusedChar (fun unit => !Text.isOctet unit) c = false
  ne_nul : c ≠ '\x00'

theorem refusal?_eq_none_iff : refusal? path = none ↔ ∀ c ∈ path.toList, IsTaken c := by
  have hencoded : Text.octetsError? path = none ↔ _ := Text.encodingError?_eq_none_iff
  unfold refusal?
  cases herror : Text.octetsError? path with
  | some error =>
    refine iff_of_false nofun fun h => ?_
    cases herror.symm.trans (hencoded.2 fun c hc => (h c hc).encoded)
  | none =>
    have hall := hencoded.1 herror
    constructor
    · intro h c hc
      refine ⟨hall c hc, ?_⟩
      rintro rfl
      cases (if_pos hc).symm.trans h
    · exact fun h => if_neg fun hnul => (h _ hnul).ne_nul rfl

/-- What stands in a path below a directory stands in one of the two, or is the slash. -/
theorem refusal?_join {directory name : String} (hdirectory : refusal? directory = none)
    (hname : refusal? name = none) : refusal? (Path.join directory name) = none := by
  rw [refusal?_eq_none_iff] at *
  intro c hc
  have hslash : IsTaken '/' := by
    constructor <;> decide
  unfold Path.join at hc
  split at hc
  · exact hname c hc
  · split at hc
    · rw [String.toList_append, List.mem_append] at hc
      exact hc.elim (hdirectory c) (hname c)
    · rw [String.toList_append, String.toList_append, List.mem_append, List.mem_append] at hc
      obtain (hc | hc) | hc := hc
      · exact hdirectory c hc
      · obtain rfl : c = '/' := by simpa using hc
        exact hslash
      · exact hname c hc

/-- What stands in the directory stands in the path. -/
theorem refusal?_of_join {directory name : String} (hname : Path.isRooted name = false)
    (h : refusal? (Path.join directory name) = none) : refusal? directory = none := by
  rw [refusal?_eq_none_iff] at *
  intro c hc
  refine h c ?_
  unfold Path.join
  rw [if_neg (by rw [hname]; exact Bool.false_ne_true)]
  split
  · rw [String.toList_append]
    exact List.mem_append_left _ hc
  · rw [String.append_assoc, String.toList_append]
    exact List.mem_append_left _ hc

theorem refusal?_of_write {content : Content} (h : (write path content w).1.result = .ok ()) :
    refusal? path = none := by
  unfold write change unlessRefused at h
  cases hrefusal : refusal? path with
  | none => rfl
  | some failure =>
    rw [hrefusal] at h
    dsimp only at h
    split at h
    · next hok => cases unlessFault_eq_ok hok
    · cases h

/-! ## Reading -/

theorem failsOnly_unlessFault {α : Type} {answer : Except Failure α}
    (hpath : w.FaultsAre P call path) (hanswer : FailsOnly P answer) :
    FailsOnly P (unlessFault w call path answer) := by
  unfold unlessFault
  cases hfault : w.fault? call path with
  | some failure => exact .error (hpath failure hfault)
  | none => exact hanswer

section Errors

variable (hfile : ∀ error, P (.file error))
include hfile

theorem failsOnly_read (hpath : w.FaultsAre P .openFile path) : (read path).FailsOnly P w := by
  refine failsOnly_unlessFault hpath ?_
  split
  · exact .ok _
  · exact .error (hfile _)

theorem failsOnly_modified (hpath : w.FaultsAre P .status path) :
    (modified path).FailsOnly P w := by
  refine failsOnly_unlessFault hpath ?_
  split
  · exact .ok _
  · split
    · exact .ok _
    · exact .error (hfile _)

theorem failsOnly_list (hpath : w.FaultsAre P .list path) : (list path).FailsOnly P w := by
  refine failsOnly_unlessFault hpath ?_
  split
  · exact .error (hfile _)
  · split
    · exact .ok _
    · exact .error (hfile _)

/-! ## Changing -/

omit hfile in
/-- A change that a fault may prevent. -/
theorem failsOnly_change {f : World → Except Failure World} (hpath : w.FaultsAre P call path)
    (halike : ∀ v v', f v = .ok v' → v.Alike v') (hf : ∀ v, FailsOnly P (f v)) :
    Action.FailsOnly P w.Alike (change fun v => unlessFault v call path (f v)) := by
  refine change_spec (fun v v' hv h => hv.trans (halike v v' (unlessFault_eq_ok h)))
    fun v failure hv h => ⟨?_, hv⟩
  exact failsOnly_unlessFault (hv.faultsAre hpath) (hf v) failure h

omit hfile in
/-- A change that a fault may prevent, or else a path that is not taken. -/
theorem failsOnly_changeAt {f : World → Except Failure World} (hpath : w.FaultsAre P call path)
    (hrefusal : RefusalsAre P path) (halike : ∀ v v', f v = .ok v' → v.Alike v')
    (hf : ∀ v, FailsOnly P (f v)) :
    Action.FailsOnly P w.Alike (change fun v => unlessRefused v call path (f v)) := by
  refine failsOnly_change hpath (fun v v' h => ?_) fun v => ?_
  · split at h
    · cases h
    · exact halike v v' h
  · split
    · next failure hfailure => exact .error (hrefusal failure hfailure)
    · exact hf v

theorem failsOnly_makeDirectories (hpath : w.FaultsAre P .makeDirectory path)
    (hrefusal : RefusalsAre P path) : Action.FailsOnly P w.Alike (makeDirectories path) := by
  refine failsOnly_changeAt hpath hrefusal (fun v v' h => ?_) fun v => ?_
  all_goals dsimp only at *
  · split at h
    · cases h
    · cases h
      exact (World.Alike.refl v).withDirectory _
  · split
    · exact .error (hfile _)
    · exact .ok _

theorem failsOnly_write (hpath : w.FaultsAre P .openFile path) (hrefusal : RefusalsAre P path)
    (content : Content) : Action.FailsOnly P w.Alike (write path content) := by
  refine failsOnly_changeAt hpath hrefusal (fun v v' h => ?_) fun v => ?_
  all_goals dsimp only at *
  · split at h
    · cases h
    · split at h
      · cases h
      · split at h
        · cases h
          exact (World.Alike.refl v).withFile _ _
        · cases h
  · split
    · exact .error (hfile _)
    · split
      · exact .error (hfile _)
      · split
        · exact .ok _
        · exact .error (hfile _)

theorem failsOnly_remove (hpath : w.FaultsAre P .remove path) :
    Action.FailsOnly P w.Alike (remove path) := by
  refine failsOnly_change hpath (fun v v' h => ?_) fun v => ?_
  · split at h
    · cases h
      exact (World.Alike.refl v).withoutFile _
    · cases h
  · split
    · exact .ok _
    · exact .error (hfile _)

theorem failsOnly_replace {source target : String} (hpath : w.FaultsAre P .replace target) :
    Action.FailsOnly P w.Alike (replace source target) := by
  refine failsOnly_change hpath (fun v v' h => ?_) fun v => ?_
  · split at h
    · cases h
    · split at h
      · cases h
      · cases h
        exact ((World.Alike.refl v).withoutFile _).withFile _ _
  · split
    · exact .error (hfile _)
    · split
      · exact .error (hfile _)
      · exact .ok _

end Errors

/-- What is left of the failures are those that are no errors of file access. -/
theorem failsOnly_recover {α : Type} {x : Action World α} {handle : Failure → Action World α}
    {Q : Failure → Prop} {I : World → Prop} (hx : Action.FailsOnly P I x)
    (hh : ∀ failure, P failure → failure.isFileError → Action.FailsOnly Q I (handle failure))
    (hPQ : ∀ failure, P failure → failure.isFileError = false → Q failure) :
    Action.FailsOnly Q I (recover x handle) := by
  refine .recover hx fun failure hfailure => ?_
  cases herror : failure.isFileError with
  | true => exact hh failure hfailure herror
  | false => exact .fail (hPQ failure hfailure herror)

/-! ## Texts and documents -/

theorem failsOnly_text (w : World) (path : String) : FailsOnly w.Admits (text w path) := by
  refine .bind (failsOnly_read w.admits_file (w.faultsAre_admits _ path)) fun content => ?_
  split
  · exact .ok _
  · exact .error (.inl trivial)

theorem failsOnly_document (s : List Char) : FailsOnly Failure.IsOwn (document s) := by
  rw [document]
  cases Json.read s with
  | ok document => exact .ok _
  | error e =>
    cases e with
    | malformed => exact .error trivial
    | tooDeep inObject => exact .error rfl

theorem failsOnly_readJson (w : World) (path : String) :
    (readJson path).FailsOnly w.Admits w :=
  FailsOnly.bind (failsOnly_text w path) fun s => (failsOnly_document s).admits w

end Files
end CompileCommands
