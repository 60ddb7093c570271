/-
  What a load does with what it cannot read.

  * `ends_discard_of_fault`, `ends_discard_of_isFile` and so on: how discarding a file ends;
  * `ends_load_of_unreadable`, `ends_load_of_failure`: a load discards the file after a failure that
    passes for damage, and lets any other failure through;
  * `load_absorbs_iff`: which failures to read a snapshot are absorbed;
  * `Misjudged`, `load_keeps_iff`: a file with a snapshot in it is kept, unless something fails that
    passes for damage.
-/
import CompileCommands.Proofs.Snapshot.Run
import CompileCommands.Proofs.Snapshot.Trouble
import CompileCommands.Proofs.World.Removal

namespace CompileCommands.Snapshot

open CompileCommands.Action (Ends)

/-! ## Discarding a file -/

section Discard

variable {w : World} {file : String}

theorem ends_discard_of_fault {failure : Failure} (h : w.fault? .remove file = some failure)
    (herror : failure.isFileError) : Ends (discard file) w (.ok ()) w :=
  Files.ends_recover_of_file (Files.ends_remove_of_fault h) herror (.pure () w)

theorem ends_discard_of_other {failure : Failure} (h : w.fault? .remove file = some failure)
    (hother : failure.isFileError = false) : Ends (discard file) w (.error failure) w :=
  Files.ends_recover_of_other (Files.ends_remove_of_fault h) hother

theorem ends_discard_of_isFile (hfault : w.fault? .remove file = none) (hfile : w.isFile file) :
    Ends (discard file) w (.ok ()) (w.withoutFile (w.locate file)) :=
  .recover_ok (Files.ends_remove hfault hfile)

/-- What cannot be removed stays, and that is all, if only file access goes wrong. -/
theorem ends_discard (h : w.OnlyFileErrors .remove file) :
    ∃ after, Ends (discard file) w (.ok ()) after := by
  obtain ⟨-, -, hends⟩ | ⟨-, failure, herror, hends⟩ := Files.ends_remove_cases h
  · exact ⟨_, .recover_ok hends⟩
  · exact ⟨w, Files.ends_recover_of_file hends herror (.pure () w)⟩

end Discard

/-! ## Failures of a load -/

section Load

variable {w : World} {base : String} {params : Option String} {script : String}
  {limit : Option Rat} {failure : Failure}

/-- The file is discarded after a failure that passes for damage. -/
theorem ends_load_of_unreadable (hthere : w.exists? (path base params))
    (h : (readValid (path base params) params script limit w).result = .error failure)
    (hunreadable : isUnreadable failure) {result : Except Failure Unit} {after : World}
    (hdiscard : Ends (discard (path base params)) w result after) :
    Ends (load base params script limit) w (result.map fun _ => none) after := by
  refine .bind_ok (.view _ w) ?_
  rw [if_pos hthere]
  refine .recover_error (.ask h) ?_
  rw [if_pos hunreadable]
  refine .bind_ok (.report _ w) ?_
  cases result with
  | ok _ => exact .bind_ok hdiscard (.pure none after)
  | error _ => exact .bind_error hdiscard

/-- Any other failure goes through. -/
theorem ends_load_of_failure (hthere : w.exists? (path base params))
    (h : (readValid (path base params) params script limit w).result = .error failure)
    (hother : isUnreadable failure = false) :
    Ends (load base params script limit) w (.error failure) w := by
  refine .bind_ok (.view _ w) ?_
  rw [if_pos hthere]
  refine .recover_error (.ask h) ?_
  rw [hother]
  exact .fail failure w

/-- A failure that passes for damage may always be absorbed. -/
theorem not_isCritical_of_isUnreadable (h : isUnreadable failure) : failure.isCritical = false := by
  cases failure with
  | incident incident message => cases h
  | _ => rfl

/-- **Which failures to read a snapshot are absorbed.** Opening the file of a snapshot or reading
    it back fails. Then a load answers with nothing just if the failure passes for damage and, in
    removing the file, at most file access goes wrong. If the failure does not pass for damage, it
    is that of the load, and nothing changes, though it need not be critical. -/
theorem load_absorbs_iff (script : String) (limit : Option Rat)
    (hthere : w.exists? (path base params))
    (hread : (read (path base params) w).result = .error failure) :
    ((load base params script limit w).1.result = .ok none ↔
      isUnreadable failure ∧ w.OnlyFileErrors .remove (path base params)) ∧
    (isUnreadable failure = false → Ends (load base params script limit) w (.error failure) w) ∧
    (failure.isCritical → isUnreadable failure = false) := by
  have hreadValid : (readValid (path base params) params script limit w).result =
      .error failure := Query.result_bind_of_error hread
  refine ⟨⟨fun hresult => ?_, ?_⟩, ends_load_of_failure hthere hreadValid, fun hcritical => ?_⟩
  · cases hunreadable : isUnreadable failure with
    | false =>
      rw [(ends_load_of_failure hthere hreadValid hunreadable).result] at hresult
      cases hresult
    | true =>
      refine ⟨rfl, fun fault hfault => ?_⟩
      cases herror : fault.isFileError with
      | true => rfl
      | false =>
        have hends := ends_load_of_unreadable hthere hreadValid hunreadable
          (ends_discard_of_other hfault herror)
        rw [hends.result] at hresult
        cases hresult
  · rintro ⟨hunreadable, hremove⟩
    obtain ⟨after, hdiscard⟩ := ends_discard hremove
    exact (ends_load_of_unreadable hthere hreadValid hunreadable hdiscard).result
  · rw [Bool.eq_false_iff]
    intro hunreadable
    rw [not_isCritical_of_isUnreadable hunreadable] at hcritical
    cases hcritical

end Load

/-- A snapshot is in place, and its file cannot be opened for a reason that is not critical. -/
def jammed : World :=
  (run {} [.write "/s" ⟨.bytes [], 5⟩, .save "/c" none [("A", "a")] "/s"]).withFault .openFile
    (path "/c" none) (some (.runtime "jammed"))

theorem file?_jammed :
    jammed.file? (path "/c" none) = some ⟨.snapshot ⟨⟨"", 5, 0⟩, [("A", "a")]⟩, 0⟩ ∧
    jammed.fault? .openFile (path "/c" none) = some (.runtime "jammed") := by
  decide +kernel

theorem read_jammed :
    jammed.exists? (path "/c" none) ∧
    (read (path "/c" none) jammed).result = .error (.runtime "jammed") := by
  refine ⟨?_, Query.result_bind_of_error ?_⟩
  · rw [World.exists?, World.isFile, file?_jammed.1]
    rfl
  · rw [Files.read, Files.content, Files.unlessFault, file?_jammed.2]

theorem load_jammed :
    Ends (load "/c" none "/s" none) jammed (.error (.runtime "jammed")) jammed :=
  (load_absorbs_iff "/s" none read_jammed.1 read_jammed.2).2.1 rfl

/-- Failures that are not critical go through: when the file is opened, and when what it holds
    refers to a module that is not there. -/
theorem load_not_absorbed :
    (Failure.runtime "jammed").isCritical = false ∧
    (read (path "/c" none) jammed).result = .error (.runtime "jammed") ∧
    (load "/c" none "/s" none jammed).1.result = .error (.runtime "jammed") ∧
    (Failure.snapshot .unresolved).isCritical = false ∧
    (load "/c" none "/s" none
      (run {} [.write (path "/c" none) ⟨.damaged .unresolved, 0⟩])).1.result =
        .error (.snapshot .unresolved) := by
  refine ⟨rfl, read_jammed.2, ?_, rfl, by decide +kernel⟩
  exact (ends_load_of_failure read_jammed.1 (Query.result_bind_of_error read_jammed.2) rfl).result

/-! ## Snapshots that a load takes away -/

section Keeping

variable {w : World} {base : String} {params : Option String} {script : String} {s : Stored}
  {modified : Rat}

/-- In looking at a snapshot something fails that passes for damage: opening its file or, if it is
    one for the parameters, asking for the time of the script that is there. -/
def Misjudged (w : World) (path : String) (m : Metadata) (params : Option String)
    (script : String) : Prop :=
  ∃ failure, isUnreadable failure ∧ (w.fault? .openFile path = some failure ∨
    w.fault? .openFile path = none ∧ m.params = paramsOf params ∧ w.exists? script ∧
      w.fault? .status script = some failure)

/-- The time of what is there can be told, but for a fault. -/
theorem modified_eq_error_iff (hthere : w.exists? script) {failure : Failure} :
    (Files.modified script w).result = .error failure ↔
      w.fault? .status script = some failure := by
  dsimp only [Files.modified, Files.unlessFault]
  cases w.fault? .status script with
  | some fault => simp
  | none =>
    cases hfile : w.file? script with
    | some file => simp
    | none =>
      have hdirectory : w.isDirectory script = true := by
        rwa [World.exists?, World.isFile, hfile, Option.isSome_none, Bool.false_or] at hthere
      simp [hdirectory]

theorem isValid_eq_error_iff {m : Metadata} (limit : Option Rat) {failure : Failure} :
    (isValid m params script limit w).result = .error failure ↔
      m.params = paramsOf params ∧ w.exists? script ∧ w.fault? .status script = some failure := by
  unfold isValid
  by_cases hparams : m.params = paramsOf params
  · rw [if_neg (not_not.2 hparams), Query.result_bind_of_ok (a := w.exists? script) rfl]
    cases hthere : w.exists? script with
    | false => exact ⟨nofun, fun h => nomatch h.2.1⟩
    | true =>
      rw [if_pos rfl, ← modified_eq_error_iff hthere]
      refine ⟨fun h => ⟨hparams, rfl, ?_⟩, fun h => Query.result_bind_of_error h.2.2⟩
      obtain hmodified | ⟨modified, -, h⟩ := Query.result_bind_eq_error h
      · exact hmodified
      · split at h <;> cases h
  · rw [if_pos hparams]
    exact ⟨nofun, fun h => absurd h.1 hparams⟩

/-- How looking at a file fails that holds a snapshot. -/
theorem readValid_eq_error_iff {file : String} {limit : Option Rat} {failure : Failure}
    (hfile : w.file? file = some ⟨.snapshot s, modified⟩) :
    (readValid file params script limit w).result = .error failure ↔
      w.fault? .openFile file = some failure ∨
      w.fault? .openFile file = none ∧ s.metadata.params = paramsOf params ∧ w.exists? script ∧
        w.fault? .status script = some failure := by
  rw [← isValid_eq_error_iff limit]
  cases hfault : w.fault? .openFile file with
  | some fault =>
    have hread : (read file w).result = .error fault := by
      refine Query.result_bind_of_error ?_
      rw [Files.read, Files.content, Files.unlessFault, hfault]
    rw [readValid, Query.result_bind_of_error hread]
    simp
  | none =>
    have hread : (read file w).result = .ok s := by
      refine Query.result_bind_of_ok (a := Content.snapshot s) ?_
      rw [Files.read, Files.content, Files.unlessFault, hfault, hfile]
    rw [readValid, Query.result_bind_of_ok hread]
    refine ⟨fun h => .inr ⟨rfl, ?_⟩, fun h => ?_⟩
    · obtain hvalid | ⟨valid, -, h⟩ := Query.result_bind_eq_error h
      · exact hvalid
      · split at h <;> cases h
    · obtain h | ⟨-, h⟩ := h
      · cases h
      · exact Query.result_bind_of_error h

/-- The two worlds that a load may leave where there is a snapshot. -/
theorem snd_load_cases (script : String) (limit : Option Rat)
    (hfile : w.file? (path base params) = some ⟨.snapshot s, modified⟩) :
    (Misjudged w (path base params) s.metadata params script ∧
      w.fault? .remove (path base params) = none) ∧
      (load base params script limit w).2 = w.withoutFile (w.locate (path base params)) ∨
    ¬(Misjudged w (path base params) s.metadata params script ∧
      w.fault? .remove (path base params) = none) ∧ (load base params script limit w).2 = w := by
  have hisFile : w.isFile (path base params) := by
    rw [World.isFile, hfile]
    rfl
  have hthere : w.exists? (path base params) := by
    rw [World.exists?, hisFile, Bool.true_or]
  cases hread : (readValid (path base params) params script limit w).result with
  | ok answer =>
    refine .inr ⟨?_, (load_of_readValid hthere hread).2⟩
    rintro ⟨⟨failure, -, hfailure⟩, -⟩
    rw [(readValid_eq_error_iff hfile).2 hfailure] at hread
    cases hread
  | error failure =>
    cases hunreadable : isUnreadable failure with
    | false =>
      refine .inr ⟨?_, (ends_load_of_failure hthere hread hunreadable).state⟩
      rintro ⟨⟨failure', hunreadable', hfailure'⟩, -⟩
      rw [(readValid_eq_error_iff hfile).2 hfailure'] at hread
      cases hread
      exact absurd hunreadable' (Bool.eq_false_iff.1 hunreadable)
    | true =>
      have hload {result : Except Failure Unit} {after : World}
          (hdiscard : Ends (discard (path base params)) w result after) :
          (load base params script limit w).2 = after :=
        (ends_load_of_unreadable hthere hread hunreadable hdiscard).state
      cases hremove : w.fault? .remove (path base params) with
      | none =>
        have hmisjudged : Misjudged w (path base params) s.metadata params script :=
          ⟨failure, hunreadable, (readValid_eq_error_iff hfile).1 hread⟩
        exact .inl ⟨⟨hmisjudged, rfl⟩, hload (ends_discard_of_isFile hremove hisFile)⟩
      | some fault =>
        refine .inr ⟨?_, ?_⟩
        · rintro ⟨-, ⟨⟩⟩
        · cases herror : fault.isFileError with
          | true => exact hload (ends_discard_of_fault hremove herror)
          | false => exact hload (ends_discard_of_other hremove herror)

/-- **When a load keeps a file with a snapshot in it.** It takes the file away just if something
    fails that passes for damage, though there is none, and removing the file does not fail. All
    else in the world stays as it is. -/
theorem load_keeps_iff (script : String) (limit : Option Rat)
    (hfile : w.file? (path base params) = some ⟨.snapshot s, modified⟩) :
    ((load base params script limit w).2.file? (path base params) =
        some ⟨.snapshot s, modified⟩ ↔
      ¬(Misjudged w (path base params) s.metadata params script ∧
        w.fault? .remove (path base params) = none)) ∧
    w.OnlyAt (w.locate (path base params)) (load base params script limit w).2 := by
  obtain ⟨hmisjudged, hstate⟩ | ⟨hmisjudged, hstate⟩ := snd_load_cases script limit hfile
  · rw [hstate]
    refine ⟨iff_of_false (fun h => ?_) (not_not.2 hmisjudged),
      (World.OnlyAt.refl w _).withoutFile⟩
    have halike : w.Alike (w.withoutFile (w.locate (path base params))) :=
      (World.Alike.refl w).withoutFile _
    rw [World.file?_of_ne_empty _ (path_ne_empty base params), halike.locate,
      World.fileAt?_withoutFile, if_pos rfl] at h
    cases h
  · rw [hstate]
    exact ⟨iff_of_true hfile hmisjudged, .refl w _⟩

/-- A failure that goes through leaves the file where it is. -/
theorem load_keeps_jammed :
    (load "/c" none "/s" none jammed).2.file? (path "/c" none) =
      some ⟨.snapshot ⟨⟨"", 5, 0⟩, [("A", "a")]⟩, 0⟩ := by
  obtain ⟨hfile, hfault⟩ := file?_jammed
  refine (load_keeps_iff "/s" none hfile).1.2 ?_
  rintro ⟨⟨failure, hunreadable, hopen | ⟨hopen, -⟩⟩, -⟩
  · rw [hfault] at hopen
    cases hopen
    cases hunreadable
  · rw [hfault] at hopen
    cases hopen

/-- A snapshot is in place, and its script, unchanged, cannot be asked for its time. -/
def veiled : World :=
  (run {} [.write "/s" ⟨.bytes [], 5⟩, .save "/c" none [("A", "a")] "/s"]).withFault .status
    "/s" (some (Files.error .permission "/s"))

/-- The snapshot that was saved is gone after a load, though nothing is wrong with it. -/
theorem load_loses_saved :
    (save "/c" none [("A", "a")] "/s" (run {} [.write "/s" ⟨.bytes [], 5⟩])).1.result = .ok true ∧
    veiled.file? (path "/c" none) = some ⟨.snapshot ⟨⟨"", 5, 0⟩, [("A", "a")]⟩, 0⟩ ∧
    (load "/c" none "/s" none veiled).1.result = .ok none ∧
    (load "/c" none "/s" none veiled).2.file? (path "/c" none) = none := by
  decide +kernel

end Keeping
end CompileCommands.Snapshot
