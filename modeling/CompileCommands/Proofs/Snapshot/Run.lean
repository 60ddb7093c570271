/-
  Runs of saves, loads and cleanups.

  * `Event`, `run`: what can happen to stored snapshots and around them, in any order;
  * `Deed`, `history`: what a run does at one place: the saves that succeed, and the removals;
  * `Tells`: the invariant: what lies at the place is what the last deed left there;
  * `tells_step`, `tells_run`: each event keeps it, and so does every run;
  * `load_run`: what a load gives after any run.
-/
import CompileCommands.Proofs.Snapshot.Access

namespace CompileCommands.Snapshot

open World (Alike SameBut Within)

/-! ## Events -/

/-- What can happen to stored snapshots and around them. -/
inductive Event where
  /-- A snapshot is saved. -/
  | save (base : String) (params : Option String) (environment : Environment) (script : String)
  /-- A snapshot is loaded. -/
  | load (base : String) (params : Option String) (script : String) (limit : Option Rat)
  /-- Old snapshots are removed. -/
  | cleanup (base : String) (limit : Rat)
  /-- Somebody writes a file. -/
  | write (path : String) (file : File)
  /-- Somebody deletes a file. -/
  | delete (path : String)
  /-- The clock is at another time, later or earlier. -/
  | tick (time : Rat)

/-- The world after an event. -/
def Event.apply (w : World) : Event → World
  | .save base params environment script => (Snapshot.save base params environment script w).2
  | .load base params script limit => (Snapshot.load base params script limit w).2
  | .cleanup base limit => (Snapshot.cleanup base limit w).2
  | .write path file => w.placing path file
  | .delete path => w.withoutFile (w.locate path)
  | .tick time => { w with clock := time }

/-- The world after events. -/
def run (w : World) (events : List Event) : World :=
  events.foldl Event.apply w

/-- Nobody but the functions of the store writes or deletes the file at the place. -/
def Event.Spares (w : World) (place : Location) : Event → Prop
  | .write path _ => w.locate path ≠ place
  | .delete path => w.locate path ≠ place
  | _ => True

/-! ## History of a place -/

/-- What is done to a place. -/
inductive Deed where
  /-- A save succeeded, with these parameters, this time of the script, at this time, with this
      environment. -/
  | saved (s : Stored)
  /-- The file was removed. -/
  | removed
  deriving DecidableEq

/-- A load or a cleanup that ends with `after` took the file at the place away. -/
def removal? (place : Location) (before after : World) : Option Deed :=
  if (before.fileAt? place).isSome ∧ (after.fileAt? place).isNone then some .removed else none

/-- What an event does to a place. A save counts if it succeeds, and reads the time of the script
    when the directory of the store is there. -/
def Event.deed? (place : Location) (w : World) : Event → Option Deed
  | .save base params environment script =>
    match (Snapshot.save base params environment script w).1.result,
      (Files.modified script (ensureStore base w).2).result with
    | .ok true, .ok modified =>
      if w.locate (Snapshot.path base params) = place then
        some (.saved ⟨⟨paramsOf params, modified, w.clock⟩, environment⟩)
      else none
    | _, _ => none
  | .load base params script limit =>
    removal? place w (Snapshot.load base params script limit w).2
  | .cleanup base limit => removal? place w (Snapshot.cleanup base limit w).2
  | .write _ _ => none
  | .delete _ => none
  | .tick _ => none

/-- What events do to a place, in order. -/
def history (place : Location) : World → List Event → List Deed
  | _, [] => []
  | w, e :: events => (e.deed? place w).toList ++ history place (e.apply w) events

/-! ## The invariant -/

/-- The file that deeds leave at a place that was empty. -/
def fileAfter (deeds : List Deed) : Option File :=
  match deeds.getLast? with
  | some (.saved s) => some ⟨.snapshot s, s.metadata.captured⟩
  | some .removed => none
  | none => none

theorem fileAfter_saved (deeds : List Deed) (s : Stored) :
    fileAfter (deeds ++ [.saved s]) = some ⟨.snapshot s, s.metadata.captured⟩ := by
  rw [fileAfter, List.getLast?_concat]

theorem fileAfter_removed (deeds : List Deed) : fileAfter (deeds ++ [.removed]) = none := by
  rw [fileAfter, List.getLast?_concat]

/-- A world that is like the first one, with the file at the place that the deeds left there. -/
structure Tells (v : World) (place : Location) (deeds : List Deed) (w : World) : Prop where
  alike : v.Alike w
  file : w.fileAt? place = fileAfter deeds

variable {v w : World} {place : Location} {deeds : List Deed}

theorem tells_save (h : Tells v place deeds w) (hlinks : v.links = []) {base₀ : String}
    {params₀ : Option String} (hplace : place = v.locate (path base₀ params₀)) (base : String)
    (params : Option String) (environment : Environment) (script : String) :
    Tells v place
      (deeds ++ ((Event.save base params environment script).deed? place w).toList)
      (save base params environment script w).2 := by
  have hspec := save_spec w base params environment script
  have hother : place ≠ w.locate (temporaryPath base params) := by
    rw [hplace, h.alike.locate]
    exact locate_temporaryPath_ne hlinks base₀ base params₀ params
  -- Without success the place is as before, and nothing is added to its history.
  have hsame (hw : w.SameBut (w.locate (temporaryPath base params))
      (save base params environment script w).2)
      (hdeed : (Event.save base params environment script).deed? place w = none) :
      Tells v place
        (deeds ++ ((Event.save base params environment script).deed? place w).toList)
        (save base params environment script w).2 := by
    rw [hdeed, Option.toList_none, List.append_nil]
    exact ⟨h.alike.trans hw.alike, (hw.files place hother).trans h.file⟩
  cases hresult : (save base params environment script w).1.result with
  | error failure =>
    refine hsame (hspec.of_error rfl hresult) ?_
    rw [Event.deed?, hresult]
  | ok saved =>
    have hok := hspec.of_ok rfl hresult
    cases saved with
    | false =>
      refine hsame (hok.2 rfl) ?_
      rw [Event.deed?, hresult]
    | true =>
      obtain ⟨modified, hmodified, hw⟩ := hok.1 rfl
      refine ⟨(h.alike.withFile _ _).trans hw.alike, ?_⟩
      rw [hw.files place hother, World.fileAt?_withFile, Event.deed?, hresult, hmodified]
      by_cases hhere : w.locate (path base params) = place
      · simp only [if_pos hhere, if_pos hhere.symm]
        rw [Option.toList_some, fileAfter_saved]
        rfl
      · have hhere' : ¬place = w.locate (path base params) := fun h => hhere h.symm
        simp only [if_neg hhere, if_neg hhere']
        rw [Option.toList_none, List.append_nil]
        exact h.file

theorem tells_of_within (h : Tells v place deeds w) {after : World} (hw : w.Within after) :
    Tells v place (deeds ++ (removal? place w after).toList) after := by
  refine ⟨h.alike.trans hw.alike, ?_⟩
  cases hafter : after.fileAt? place with
  | some file =>
    have hbefore := hw.files place file hafter
    have hnone : removal? place w after = none := by
      rw [removal?, hafter, if_neg]
      simp
    rw [hnone, Option.toList_none, List.append_nil, ← h.file, hbefore]
  | none =>
    cases hbefore : w.fileAt? place with
    | some file =>
      have hremoved : removal? place w after = some .removed := by
        rw [removal?, hbefore, hafter, if_pos]
        simp
      rw [hremoved, Option.toList_some, fileAfter_removed]
    | none =>
      have hnone : removal? place w after = none := by
        rw [removal?, hbefore, if_neg]
        simp
      rw [hnone, Option.toList_none, List.append_nil, ← h.file, hbefore]

/-! ## Runs -/

/-- Every event keeps the invariant: a save that succeeds leaves its snapshot, a load or a cleanup
    leaves the file or removes it, and nothing else touches the place. -/
theorem tells_step (h : Tells v place deeds w) (hlinks : v.links = []) {base : String}
    {params : Option String} (hplace : place = v.locate (path base params)) {e : Event}
    (hspares : e.Spares v place) :
    Tells v place (deeds ++ (e.deed? place w).toList) (e.apply w) := by
  have hwithin (u : World) (p : Location) (hu : w.Within u) : w.Within (u.withoutFile p) :=
    hu.withoutFile p
  cases e with
  | save base params environment script =>
    exact tells_save h hlinks hplace base params environment script
  | load base params script limit =>
    exact tells_of_within h ((load_keeps hwithin base params script limit).apply (.refl w))
  | cleanup base limit =>
    exact tells_of_within h ((cleanup_keeps hwithin base limit).apply (.refl w))
  | write path file =>
    have hne : place ≠ w.locate path := by
      rw [h.alike.locate]
      exact fun hp => hspares hp.symm
    refine ⟨h.alike.trans ?_, ?_⟩
    · exact ((Alike.refl w).withDirectory _).withFile _ _
    · rw [Event.apply, World.fileAt?_placing, if_neg hne, Event.deed?, Option.toList_none,
        List.append_nil]
      exact h.file
  | delete path =>
    have hne : place ≠ w.locate path := by
      rw [h.alike.locate]
      exact fun hp => hspares hp.symm
    refine ⟨h.alike.withoutFile _, ?_⟩
    rw [Event.apply, World.fileAt?_withoutFile, if_neg hne, Event.deed?, Option.toList_none,
      List.append_nil]
    exact h.file
  | tick time =>
    refine ⟨h.alike.trans rfl, ?_⟩
    rw [Event.deed?, Option.toList_none, List.append_nil]
    exact h.file

/-- By induction on the events. -/
theorem tells_run (h : Tells v place deeds w) (hlinks : v.links = []) {base : String}
    {params : Option String} (hplace : place = v.locate (path base params)) {events : List Event}
    (hspares : ∀ e ∈ events, e.Spares v place) :
    Tells v place (deeds ++ history place w events) (run w events) := by
  induction events generalizing deeds w with
  | nil =>
    rw [history, List.append_nil]
    exact h
  | cons e events ih =>
    have hstep := tells_step h hlinks hplace (hspares e List.mem_cons_self)
    have hrest := ih hstep fun x hx => hspares x (List.mem_cons_of_mem e hx)
    rw [List.append_assoc] at hrest
    exact hrest

/-- What a load gives where the file is the one that deeds have left. -/
theorem result_load_of_fileAfter {w : World} (hfaults : w.faults = []) {base : String}
    {params : Option String} {deeds : List Deed}
    (hfile : w.fileAt? (w.locate (path base params)) = fileAfter deeds) (script : String)
    (limit : Option Rat) :
    ∃ answer, (load base params script limit w).1.result = .ok answer ∧
      ∀ environment, answer = some environment ↔
        ∃ s, deeds.getLast? = some (.saved s) ∧ s.environment = environment ∧
          Serves s.metadata params script limit w := by
  unfold fileAfter at hfile
  cases hlast : deeds.getLast? with
  | none =>
    rw [hlast] at hfile
    exact ⟨none, result_load_of_none hfaults hfile script limit, fun _ => ⟨nofun, nofun⟩⟩
  | some deed =>
    rw [hlast] at hfile
    cases deed with
    | removed =>
      refine ⟨none, result_load_of_none hfaults hfile script limit, fun _ => ⟨nofun, ?_⟩⟩
      rintro ⟨s, hs, -⟩
      cases hs
    | saved s =>
      obtain ⟨valid, hresult, -, hserves⟩ := load_of_snapshot hfaults hfile script limit
      refine ⟨_, hresult, fun environment => ?_⟩
      cases valid with
      | false =>
        refine ⟨nofun, ?_⟩
        rintro ⟨s', hs', -, h⟩
        cases hs'
        exact absurd (hserves.2 h) (by decide)
      | true =>
        rw [if_pos rfl, Option.some.injEq]
        refine ⟨fun h => ⟨s, rfl, h, hserves.1 rfl⟩, ?_⟩
        rintro ⟨s', hs', h, -⟩
        cases hs'
        exact h

/-- **A load gives what the last save left, if it still serves.** In a world without links and
    faults, where nothing lies at the place of a snapshot at first and only the store changes
    that place, let any saves, loads and cleanups be made with any arguments, while other files
    are written and deleted and the clock is set. A load that follows succeeds, and gives an
    environment exactly if the last thing done to the place was a save that succeeded, of that
    environment, with the same parameters and with a time of the script that it still has, at a
    time that is not too long ago. -/
theorem load_run {w : World} (hlinks : w.links = []) (hfaults : w.faults = []) (base : String)
    (params : Option String) (script : String) (limit : Option Rat) (events : List Event)
    (hempty : w.fileAt? (w.locate (path base params)) = none)
    (hspares : ∀ e ∈ events, e.Spares w (w.locate (path base params))) :
    ∃ answer, (load base params script limit (run w events)).1.result = .ok answer ∧
      ∀ environment, answer = some environment ↔
        ∃ s, (history (w.locate (path base params)) w events).getLast? = some (.saved s) ∧
          s.environment = environment ∧ Serves s.metadata params script limit (run w events) := by
  have hstart : Tells w (w.locate (path base params)) [] w := ⟨.refl w, hempty⟩
  have hend := tells_run hstart hlinks rfl hspares
  have hfaults' : (run w events).faults = [] := hend.alike.faults.trans hfaults
  refine result_load_of_fileAfter hfaults' ?_ script limit
  rw [hend.alike.locate]
  exact hend.file

/-- A script is written, an environment is saved for it, and an hour goes by. -/
def hourAfterSave : List Event :=
  [.write "/s" ⟨.bytes [], 5⟩, .save "/c" (some "x") [("A", "b")] "/s", .tick 3600]

/-- Within two hours, and for the same parameters, the environment is loaded. -/
theorem load_hourAfterSave :
    (load "/c" (some "x") "/s" (some 2) (run {} hourAfterSave)).1.result =
      .ok (some [("A", "b")]) := by
  have hplace (name : String) :
      ({} : World).locate "/s" ≠ ({} : World).locate (storePath "/c") ++ [name] := by
    have hscript : ({} : World).locate "/s" = ["s"] := by decide
    have hstore : ({} : World).locate (storePath "/c") = ["c", ".compdb_cache"] := by decide
    rw [hscript, hstore]
    simp
  have hspares : ∀ e ∈ hourAfterSave, e.Spares {} (({} : World).locate (path "/c" (some "x"))) := by
    rw [locate_path rfl]
    simp only [hourAfterSave, List.forall_mem_cons, List.not_mem_nil, false_imp_iff, Event.Spares]
    exact ⟨hplace _, trivial, trivial, fun _ => trivial⟩
  obtain ⟨answer, hresult, hanswer⟩ :=
    load_run rfl rfl "/c" (some "x") "/s" (some 2) hourAfterSave rfl hspares
  have hstart : Tells {} (({} : World).locate (path "/c" (some "x"))) [] {} := ⟨.refl _, rfl⟩
  have hfaults : (run {} hourAfterSave).faults = [] :=
    (tells_run hstart rfl rfl hspares).alike.faults
  obtain ⟨hhistory, hfile, hage⟩ :
      (history (({} : World).locate (path "/c" (some "x"))) {} hourAfterSave).getLast? =
        some (.saved ⟨⟨"x", 5, 0⟩, [("A", "b")]⟩) ∧
      (run {} hourAfterSave).file? "/s" = some ⟨.bytes [], 5⟩ ∧
      Metadata.age ⟨"x", 5, 0⟩ (run {} hourAfterSave) ≤ 2 := by
    decide +kernel
  have hserves : Serves ⟨"x", 5, 0⟩ (some "x") "/s" (some 2) (run {} hourAfterSave) := by
    refine ⟨rfl, ?_, ?_, ?_⟩
    · rw [World.exists?, World.isFile, hfile, Option.isSome_some, Bool.true_or]
    · dsimp only [Files.modified]
      rw [Files.unlessFault_of_faults hfaults, hfile]
    · rintro hours ⟨⟩
      exact hage
  rw [hresult, (hanswer _).2 ⟨_, hhistory, rfl, hserves⟩]

end CompileCommands.Snapshot
