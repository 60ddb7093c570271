/-
  Snapshots without escape characters.

  * `Snapshot.escapeFree_path`: the path of a snapshot has none, since its name is made of
    hexadecimal digits; `Snapshot.escapeFree_requireName`: nor has the reason why there is no
    such path;
  * `Snapshot.clean_save`, `Snapshot.clean_load`, `Snapshot.clean_cleanup`: what is kept of an
    environment without escape characters has none, and comes back without any.
-/
import CompileCommands.Proofs.Snapshot.Access
import CompileCommands.Proofs.World.Escape

namespace CompileCommands

open Text

namespace Snapshot

/-! ## Places -/

variable {base : String} {params : Option String} {file script : String} {limit : Option Rat}
  {environment : Environment}

theorem escapeFree_digestKey (value : String) : EscapeFree (digestKey value) :=
  EscapeFree.of_kind (· ∈ hexDigits) (by decide) fun _ => mem_hexDigits_of_mem_digestKey

theorem escapeFree_requireName (params : Option String) :
    ∀ failure, requireName params = .error failure → EscapeFree failure := by
  intro failure hfailure
  unfold requireName requireEncoded at hfailure
  split at hfailure
  · cases hfailure
    exact escapeFree_encodingError _
  · cases hfailure

theorem escapeFree_storePath (h : EscapeFree base) : EscapeFree (storePath base) :=
  h.path_join (by decide)

theorem escapeFree_path (h : EscapeFree base) (params : Option String) :
    EscapeFree (path base params) :=
  (escapeFree_storePath h).path_join
    ((EscapeFree.string_append (.literal rfl) (escapeFree_digestKey _)).string_append (by decide))

theorem escapeFree_temporaryPath (h : EscapeFree base) (params : Option String) :
    EscapeFree (temporaryPath base params) :=
  (escapeFree_path h params).string_append (by decide)

/-! ## Saving -/

theorem clean_ensureStore (h : EscapeFree base) : (ensureStore base).Clean := by
  have hstore := escapeFree_storePath h
  refine .bind (.view fun _ _ => trivial) fun _ _ => .ite (.pure hstore) ?_
  refine .bind (Files.clean_recover (Files.clean_makeDirectories hstore) fun _ hfailure => ?_)
    fun _ _ => .pure hstore
  exact .report (.cons hstore (.singleton hfailure))

theorem clean_store (h : EscapeFree base) (henvironment : EscapeFree environment) :
    (store base params environment script).Clean := by
  have htemporary := escapeFree_temporaryPath h params
  refine .bind (.ask (fun _ => id) (Files.clean_modified script)) fun _ _ => ?_
  refine .bind (.view fun _ _ => trivial) fun _ _ => ?_
  exact .bind (Files.clean_write htemporary (escapeFree_snapshot henvironment)) fun _ _ =>
    Files.clean_replace _ (escapeFree_path h params)

theorem clean_discard (file : String) : (discard file).Clean :=
  Files.clean_recover (Files.clean_remove file) fun _ _ => .pure trivial

theorem clean_save (h : EscapeFree base) (henvironment : EscapeFree environment) :
    (save base params environment script).Clean := by
  have hpath := escapeFree_path h params
  refine .bind (clean_ensureStore h) fun _ _ => Files.clean_recover ?_ fun _ hfailure => ?_
  · exact .bind (clean_store h henvironment) fun _ _ => .pure trivial
  · refine .bind (.report (.cons hpath (.singleton hfailure))) fun _ _ => ?_
    refine .bind (.view fun _ _ => trivial) fun _ _ => .ite ?_ (.pure trivial)
    exact .bind (clean_discard _) fun _ _ => .pure trivial

/-! ## Loading -/

instance : Textual Stored := ⟨fun stored => EscapeFree stored.environment⟩

theorem escapeFree_toSnapshot {content : Content} (h : EscapeFree content) :
    EscapeFree (content.toSnapshot.mapError Failure.snapshot) := by
  have hmessage (error : SnapshotError) : EscapeFree error.message := by
    cases error <;> exact .literal rfl
  cases hstored : content.toSnapshot with
  | ok stored => exact .ok (h.2 stored hstored)
  | error error => exact .error (hmessage error)

theorem clean_read (file : String) : (read file).Clean :=
  .bind (Files.clean_read file) fun _ hcontent => .lift (escapeFree_toSnapshot hcontent)

theorem clean_isValid (m : Metadata) (params : Option String) (script : String)
    (limit : Option Rat) : (isValid m params script limit).Clean := by
  refine .ite (.pure trivial) (.bind (.view fun _ _ => trivial) fun _ _ => .ite ?_ (.pure trivial))
  exact .bind (Files.clean_modified script) fun _ _ =>
    .ite (.pure trivial) (.view fun _ _ => trivial)

theorem clean_readValid (file : String) (params : Option String) (script : String)
    (limit : Option Rat) : (readValid file params script limit).Clean := by
  refine .bind (clean_read file) fun stored hstored => ?_
  exact .bind (clean_isValid _ params script limit) fun _ _ =>
    .ite (.pure (.some hstored)) (.pure .none)

theorem clean_load (h : EscapeFree base) : (load base params script limit).Clean := by
  have hpath := escapeFree_path h params
  refine .bind (.view fun _ _ => trivial) fun _ _ => .ite ?_ (.pure .none)
  refine .recover (.ask (fun _ => id) (clean_readValid _ params script limit)) fun _ hfailure =>
    .ite ?_ (.fail hfailure)
  exact .bind (.report (.cons hpath (.singleton hfailure))) fun _ _ =>
    .bind (clean_discard _) fun _ _ => .pure .none

/-! ## Cleaning up -/

theorem clean_removeIfOld (file : String) (limit : Rat) : (removeIfOld file limit).Clean := by
  refine .bind (.ask (fun _ => id) (Files.clean_modified file)) fun _ _ => ?_
  refine .bind (.view fun _ _ => trivial) fun _ _ => .ite ?_ (.pure trivial)
  exact .bind (Files.clean_remove file) fun _ _ => .pure trivial

theorem clean_removeOld (limit : Rat) {files : List String} (h : EscapeFree files) :
    (removeOld limit files).Clean := by
  induction files with
  | nil => exact .pure trivial
  | cons file files ih =>
    obtain ⟨hfile, hfiles⟩ := h.of_cons
    refine .bind (Files.clean_recover (clean_removeIfOld file limit) fun _ hfailure => ?_)
      fun _ _ => .bind (ih hfiles) fun _ _ => .pure trivial
    exact .bind (.report (.cons hfile (.singleton hfailure))) fun _ _ => .pure trivial

theorem clean_stored {directory : String} (h : EscapeFree directory) :
    (stored directory).Clean := by
  refine .bind (Files.clean_list directory) fun names hnames => .pure (.map _ fun name hname => ?_)
  exact h.path_join (hnames name (List.mem_filter.1 hname).1)

theorem clean_cleanup (h : EscapeFree base) (limit : Rat) : (cleanup base limit).Clean := by
  have hstore := escapeFree_storePath h
  refine .bind (.view fun _ _ => trivial) fun _ _ => .ite ?_ (.pure trivial)
  refine .bind (Files.clean_recover (.ask (fun _ => id) (clean_stored hstore)) fun _ hfailure => ?_)
    fun files hfiles => .bind (clean_removeOld limit hfiles) fun count _ => ?_
  · exact .bind (.report (.cons hstore (.singleton hfailure))) fun _ _ => .pure .nil
  · refine .ite ?_ (.pure trivial)
    exact .bind (.report .nil) fun _ _ => .pure trivial

end Snapshot
end CompileCommands
