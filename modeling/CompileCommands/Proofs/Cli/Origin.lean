/-
  Where captured environments come from.

  * `Origin`: a capture: the script that was run, its parameters, its time then, and the
    environment that it left;
  * `Accounted`: the invariant: every stored snapshot comes from such a capture;
  * `Event`, `after`, `history`: captures of any installations and other changes, in any order, and
    the origins that they add;
  * `accounted_step`, `accounted_run`: each event keeps the invariant, and so does every run;
  * `capture_ownScript`: what is answered comes from the script that was asked for, as long as no
    other one was captured with the same time; `capture_twins`: without that it may not.
-/
import CompileCommands.Cli.Capture
import CompileCommands.Proofs.Snapshot.Access
import CompileCommands.Proofs.Toolchain.Bootstrap
import CompileCommands.Proofs.Workspace.Settings
import CompileCommands.Proofs.World.Agreement

namespace CompileCommands.Cli.Capture

open Snapshot (Stored paramsOf)

/-! ## Origins -/

/-- A capture that gave an environment. -/
structure Origin where
  /-- The path of the script that was run. -/
  script : String
  /-- Its parameters. -/
  params : String
  /-- When the script was last changed, as could be told. -/
  modified : Except Failure Rat
  environment : Environment
  deriving DecidableEq

/-- The snapshot is one of this capture. -/
structure Origin.Of (o : Origin) (s : Stored) : Prop where
  params : o.params = s.metadata.params
  modified : o.modified = .ok s.metadata.scriptModified
  environment : o.environment = s.environment

/-- Every snapshot in the world comes from one of the captures. -/
def Accounted (origins : List Origin) (w : World) : Prop :=
  ∀ place file s, w.fileAt? place = some file → file.content = .snapshot s → ∃ o ∈ origins, o.Of s

namespace Accounted

variable {origins more : List Origin} {w : World}

theorem append (h : Accounted origins w) (more : List Origin) : Accounted (origins ++ more) w := by
  intro place file s hfile hs
  obtain ⟨o, ho, hof⟩ := h place file s hfile hs
  exact ⟨o, List.mem_append_left more ho, hof⟩

theorem withDirectory (h : Accounted origins w) (place : Location) :
    Accounted origins (w.withDirectory place) := h

theorem withoutFile (h : Accounted origins w) (place : Location) :
    Accounted origins (w.withoutFile place) := by
  intro q file s hfile hs
  rw [World.fileAt?_withoutFile] at hfile
  split at hfile
  · cases hfile
  · exact h q file s hfile hs

theorem withFile (h : Accounted origins w) (place : Location) {file : File}
    (hfile : ∀ s, file.content = .snapshot s → ∃ o ∈ origins, o.Of s) :
    Accounted origins (w.withFile place file) := by
  intro q there s hthere hs
  rw [World.fileAt?_withFile] at hthere
  split at hthere
  · cases hthere
    exact hfile s hs
  · exact h q there s hthere hs

/-- A save adds its snapshot, and may put it in place or not. -/
theorem save (h : Accounted origins w) {o : Origin} (ho : o ∈ origins) (base : String)
    {params : Option String} (hparams : o.params = paramsOf params) {script : String}
    (hmodified : o.modified = (Files.modified script w).result) (hscript : w.isFile script) :
    Accounted origins (Snapshot.save base params o.environment script w).2 := by
  have hensured : Accounted origins (Snapshot.ensureStore base w).2 :=
    (Snapshot.ensureStore_keeps (fun _ place hu => hu.withDirectory place) base).apply h
  have htold : Files.modified script (Snapshot.ensureStore base w).2 = Files.modified script w :=
    Files.modified_congr_of_isFile (Snapshot.ensureStore_sameBut w base []).alike
      (Snapshot.file?_ensureStore w base script) hscript
  refine Snapshot.save_state w base params o.environment script hensured
    (fun _ place hu => hu.withoutFile place) (fun modified htime _ => ?_) fun u file hu hfile => ?_
  · refine hensured.withFile _ fun s hs => ⟨o, ho, ?_⟩
    cases hs
    refine ⟨hparams, ?_, rfl⟩
    rw [hmodified, ← htold, htime]
  · exact (hu.withoutFile _).withFile _ fun s hs => hu _ file s hfile hs

end Accounted

/-! ## Captures -/

/-- The session in which a capture runs the script, if no stored snapshot serves. -/
def missed? (p : Palette) (b : Bootstrap) (params cache : Option String) (s : Session) :
    Option Session :=
  match cache with
  | none | some "" => some s
  | some cache =>
    (stored p b params cache s).1.result.toOption.bind fun found =>
      if found.isNone then some (stored p b params cache s).2 else none

/-- What a run of the script adds to the origins. -/
def originOf? (b : Bootstrap) (launcher : Launcher) (params : Option String) (s : Session) :
    Option Origin :=
  (b.fetch launcher params s).1.result.toOption.join.map fun environment =>
    ⟨b.scriptPath, paramsOf params, (Files.modified b.scriptPath s.world).result, environment⟩

/-- What a capture adds to the origins. -/
def origin? (p : Palette) (b : Bootstrap) (launcher : Launcher) (params cache : Option String)
    (s : Session) : Option Origin :=
  (missed? p b params cache s).bind (originOf? b launcher params)

section Captures

variable {p : Palette} {b : Bootstrap} {launcher : Launcher} {params cache : Option String}
  {origins : List Origin} {s : Session} {environment : Environment}

theorem capture_eq_fetch (h : cache = none ∨ cache = some "") :
    capture p b launcher params cache = b.fetch launcher params := by
  obtain rfl | rfl := h
  · rfl
  · rfl

theorem missed?_eq_self (h : cache = none ∨ cache = some "") :
    missed? p b params cache s = some s := by
  obtain rfl | rfl := h
  · rfl
  · rfl

theorem capture_some {directory : String} (h : directory ≠ "") :
    capture p b launcher params (some directory) =
      stored p b params directory >>= fun found =>
        match found with
        | some environment => return some environment
        | none => fresh b launcher params directory := by
  unfold capture
  split
  · contradiction
  · next heq => exact absurd (Option.some.inj heq) h
  · next heq =>
    cases heq
    rfl

theorem missed?_some {directory : String} (h : directory ≠ "") :
    missed? p b params (some directory) s =
      (stored p b params directory s).1.result.toOption.bind fun found =>
        if found.isNone then some (stored p b params directory s).2 else none := by
  unfold missed?
  split
  · contradiction
  · next heq => exact absurd (Option.some.inj heq) h
  · next heq =>
    cases heq
    rfl

theorem originOf?_of_fetch (h : (b.fetch launcher params s).1.result = .ok (some environment)) :
    originOf? b launcher params s = some ⟨b.scriptPath, paramsOf params,
      (Files.modified b.scriptPath s.world).result, environment⟩ := by
  rw [originOf?, h]
  rfl

/-! ## The invariant -/

theorem accounted_stored (h : Accounted origins s.world) (p : Palette) (b : Bootstrap)
    (params : Option String) (directory : String) :
    Accounted origins (stored p b params directory s).2.world := by
  have hload : Action.Keeps (Accounted origins)
      (Snapshot.load directory params b.scriptPath (some maximumAge)) :=
    Snapshot.load_keeps (fun _ place hu => hu.withoutFile place) _ _ _ _
  have hkeeps : Action.Keeps (fun r : Session => Accounted origins r.world)
      (stored p b params directory) := by
    refine .bind (.lift _) fun _ => .bind (Session.files_keeps hload) fun found => ?_
    cases found with
    | none => exact .pure _
    | some environment => exact .bind (Session.complain_keeps _) fun _ => .pure _
  exact hkeeps.apply h

theorem accounted_keep (h : Accounted origins s.world) {o : Origin} (ho : o ∈ origins)
    (hparams : o.params = paramsOf params)
    (hmodified : o.modified = (Files.modified b.scriptPath s.world).result)
    (hscript : s.world.isFile b.scriptPath) (directory : String) {α : Type} (answer : α) :
    Accounted origins
      ((keep b params directory o.environment >>= fun _ => return answer) s).2.world := by
  have hsave : Action.Spec (fun r => r = s)
      (Session.files (Snapshot.save directory params o.environment b.scriptPath))
      (fun _ r => Accounted origins r.world) fun _ r => Accounted origins r.world := by
    refine .of_state ?_
    rintro r rfl
    exact h.save ho directory hparams hmodified hscript
  have hcleanup : Action.Keeps (Accounted origins) (Snapshot.cleanup directory maximumAge) :=
    Snapshot.cleanup_keeps (fun _ place hu => hu.withoutFile place) _ _
  have hkeep : Action.Spec (fun r => r = s)
      (keep b params directory o.environment >>= fun _ => return answer)
      (fun _ r => Accounted origins r.world) fun _ r => Accounted origins r.world := by
    refine .bind (M := fun _ r => Accounted origins r.world) ?_ fun _ => .pure fun _ hr => hr
    exact .bind hsave fun _ => .bind (Session.files_keeps hcleanup) fun _ => .pure fun _ hr => hr
  exact hkeep.state rfl

theorem accounted_fresh (h : Accounted origins s.world) (directory : String) :
    Accounted (origins ++ (originOf? b launcher params s).toList)
      (fresh b launcher params directory s).2.world := by
  have hworld := b.fetch_world launcher params s
  have hfetch : Accounted origins (b.fetch launcher params s).2.world := hworld ▸ h
  unfold fresh
  cases hresult : (b.fetch launcher params s).1.result with
  | error failure =>
    rw [Action.snd_bind_of_error hresult]
    exact hfetch.append _
  | ok found =>
    rw [Action.snd_bind_of_ok hresult]
    cases found with
    | none => exact hfetch.append _
    | some environment =>
      have horigin := originOf?_of_fetch hresult
      have hscript := Bootstrap.isFile_of_fetch hresult
      generalize (b.fetch launcher params s).2 = t at hworld hfetch ⊢
      rw [horigin, Option.toList_some, ← hworld]
      rw [← hworld] at hscript
      exact accounted_keep (o := ⟨b.scriptPath, paramsOf params,
        (Files.modified b.scriptPath t.world).result, environment⟩) (hfetch.append _)
        (List.mem_append_right _ List.mem_cons_self) rfl rfl hscript directory _

theorem accounted_capture (h : Accounted origins s.world) :
    Accounted (origins ++ (origin? p b launcher params cache s).toList)
      (capture p b launcher params cache s).2.world := by
  obtain hcache | ⟨directory, rfl, hdirectory⟩ := missing_cases cache
  · rw [capture_eq_fetch hcache, b.fetch_world]
    exact h.append _
  · have hstored := accounted_stored h p b params directory
    rw [capture_some hdirectory, origin?, missed?_some hdirectory]
    cases hresult : (stored p b params directory s).1.result with
    | error failure =>
      rw [Action.snd_bind_of_error hresult]
      exact hstored.append _
    | ok found =>
      rw [Action.snd_bind_of_ok hresult]
      generalize (stored p b params directory s).2 = t at hstored ⊢
      cases found with
      | some environment => exact hstored.append _
      | none => exact accounted_fresh hstored directory

/-! ## Answers -/

theorem load_of_stored {directory : String}
    (h : (stored p b params directory s).1.result = .ok (some environment)) :
    (Snapshot.load directory params b.scriptPath (some maximumAge) s.world).1.result =
      .ok (some environment) := by
  unfold stored at h
  obtain ⟨-, -, h⟩ := Action.result_bind_eq_ok_iff.1 h
  obtain ⟨found, hload, h⟩ := Action.result_bind_eq_ok_iff.1 h
  cases found with
  | none => cases h
  | some loaded =>
    obtain ⟨-, -, h⟩ := Action.result_bind_eq_ok_iff.1 h
    cases h
    exact hload

theorem fetch_of_fresh {directory : String}
    (h : (fresh b launcher params directory s).1.result = .ok (some environment)) :
    (b.fetch launcher params s).1.result = .ok (some environment) := by
  unfold fresh at h
  obtain ⟨found, hfetch, h⟩ := Action.result_bind_eq_ok_iff.1 h
  cases found with
  | none => cases h
  | some captured =>
    obtain ⟨-, -, h⟩ := Action.result_bind_eq_ok_iff.1 h
    cases h
    exact hfetch

theorem exists_originOf? (h : (b.fetch launcher params s).1.result = .ok (some environment)) :
    ∃ o, originOf? b launcher params s = some o ∧ o.script = b.scriptPath ∧
      o.params = paramsOf params ∧ o.environment = environment :=
  ⟨_, originOf?_of_fetch h, rfl, rfl, rfl⟩

/-- The answer of a capture is that of the script, which is run, or that of an earlier run with
    the same parameters, of a script that then had the time that this one has now. -/
theorem origin_of_capture (h : Accounted origins s.world)
    (hresult : (capture p b launcher params cache s).1.result = .ok (some environment)) :
    (∃ o, origin? p b launcher params cache s = some o ∧ o.script = b.scriptPath ∧
      o.params = paramsOf params ∧ o.environment = environment) ∨
    ∃ o ∈ origins, o.params = paramsOf params ∧ o.environment = environment ∧
      ∃ modified, o.modified = .ok modified ∧
        (Files.modified b.scriptPath s.world).result = .ok modified := by
  obtain hcache | ⟨directory, rfl, hdirectory⟩ := missing_cases cache
  · rw [capture_eq_fetch hcache] at hresult
    left
    rw [origin?, missed?_eq_self hcache]
    exact exists_originOf? hresult
  · rw [capture_some hdirectory] at hresult
    obtain ⟨found, hstored, hresult⟩ := Action.result_bind_eq_ok_iff.1 hresult
    cases found with
    | some loaded =>
      cases hresult
      obtain ⟨s', modified, hfile, henvironment, hserves⟩ :=
        Snapshot.exists_of_load (load_of_stored hstored)
      obtain ⟨o, ho, hof⟩ := h _ _ s' hfile rfl
      exact .inr ⟨o, ho, hof.params.trans hserves.sameParams, hof.environment.trans henvironment,
        s'.metadata.scriptModified, hof.modified, hserves.sameTime⟩
    | none =>
      left
      rw [origin?, missed?_some hdirectory, hstored]
      exact exists_originOf? (fetch_of_fresh hresult)

end Captures

/-! ## Runs -/

/-- What can happen to a session. -/
inductive Event where
  /-- An environment is captured. -/
  | capture (p : Palette) (b : Bootstrap) (launcher : Launcher) (params cache : Option String)
  /-- The surroundings change. -/
  | change (w : World)

namespace Event

/-- The session after an event. -/
def apply (s : Session) : Event → Session
  | .capture p b launcher params cache => (Capture.capture p b launcher params cache s).2
  | .change w => { s with world := w }

/-- What an event adds to the origins. -/
def origin? (s : Session) : Event → Option Origin
  | .capture p b launcher params cache => Capture.origin? p b launcher params cache s
  | .change _ => none

/-- A change of the surroundings brings in no snapshots. They may be moved, copied and deleted. -/
def BringsNone (s : Session) : Event → Prop
  | .capture .. => True
  | .change w => ∀ place file stored, w.fileAt? place = some file →
      file.content = .snapshot stored → ∃ place' file', s.world.fileAt? place' = some file' ∧
        file'.content = .snapshot stored

end Event

/-- The session after events. -/
def after (s : Session) (events : List Event) : Session :=
  events.foldl Event.apply s

/-- What events add to the origins, in order. -/
def history : Session → List Event → List Origin
  | _, [] => []
  | s, e :: events => (e.origin? s).toList ++ history (e.apply s) events

/-- No event brings in snapshots but by capturing. -/
def BringNone : Session → List Event → Prop
  | _, [] => True
  | s, e :: events => e.BringsNone s ∧ BringNone (e.apply s) events

variable {origins : List Origin} {s : Session}

theorem accounted_step (h : Accounted origins s.world) {e : Event} (he : e.BringsNone s) :
    Accounted (origins ++ (e.origin? s).toList) (e.apply s).world := by
  cases e with
  | capture p b launcher params cache => exact accounted_capture h
  | change w =>
    intro place file stored hfile hstored
    obtain ⟨place', file', hfile', hstored'⟩ := he place file stored hfile hstored
    exact h.append _ place' file' stored hfile' hstored'

/-- By induction on the events. -/
theorem accounted_run (h : Accounted origins s.world) {events : List Event}
    (hevents : BringNone s events) :
    Accounted (origins ++ history s events) (after s events).world := by
  induction events generalizing origins s with
  | nil =>
    rw [history, List.append_nil]
    exact h
  | cons e events ih =>
    have hrest := ih (accounted_step h hevents.1) hevents.2
    rw [List.append_assoc] at hrest
    exact hrest

/-- **A captured environment is one of the script that was asked for, if times tell scripts
    apart.** Let environments of any installations be captured, with any parameters and any
    directories for snapshots, while the surroundings change in any way that brings in no
    snapshots. If no capture of another script was made when that script had the time that the
    one asked for has now, then what a capture answers comes from the script asked for, run now
    or before, with the same parameters. -/
theorem capture_ownScript (h : Accounted origins s.world) {events : List Event}
    (hevents : BringNone s events) (p : Palette) (b : Bootstrap) (launcher : Launcher)
    (params cache : Option String) {environment : Environment}
    (hothers : ∀ o ∈ origins ++ history s events, o.script ≠ b.scriptPath →
      ∀ modified, o.modified = .ok modified →
        (Files.modified b.scriptPath (after s events).world).result ≠ .ok modified)
    (hresult : (capture p b launcher params cache (after s events)).1.result =
      .ok (some environment)) :
    ∃ o, (origin? p b launcher params cache (after s events) = some o ∨
        o ∈ origins ++ history s events) ∧
      o.script = b.scriptPath ∧ o.params = paramsOf params ∧ o.environment = environment := by
  obtain ⟨o, ho, hown⟩ | ⟨o, ho, hparams, henvironment, modified, hmodified, htime⟩ :=
    origin_of_capture (accounted_run h hevents) hresult
  · exact ⟨o, .inl ho, hown⟩
  · refine ⟨o, .inr ho, ?_, hparams, henvironment⟩
    by_contra hscript
    exact hothers o ho hscript modified hmodified htime

/-- Two installations. The first script was last changed at 5, the second at the given time. -/
def siblings (modified : Rat) : Session where
  world := (({ freshId := "1", environment := [("COMSPEC", "cmd")] } : World).placing
    (Tools.scriptPath "/a") ⟨.bytes [], 5⟩).placing (Tools.scriptPath "/b") ⟨.bytes [], modified⟩

/-- A shell that prints one setting. -/
def printing (setting : String) : Launcher := fun _ _ =>
  (.ok { lines := [CompileCommands.Capture.beginMarker "1", setting,
    CompileCommands.Capture.endMarker "1"] }, [])

/-- The environment of the first one is captured, with snapshots in a directory. -/
def first : Event :=
  .capture .none { installation := "/a" } (printing "LIB=a") none (some "/c")

theorem accounted_siblings (modified : Rat) : Accounted [] (siblings modified).world := by
  have hempty : Accounted [] { freshId := "1", environment := [("COMSPEC", "cmd")] } := by
    intro place file s hfile
    cases hfile
  have hbytes (s : Stored) (h : Content.bytes [] = .snapshot s) : ∃ o ∈ ([] : List Origin), o.Of s := by
    cases h
  exact (((hempty.withDirectory _).withFile _ hbytes).withDirectory _).withFile _ hbytes

/-- Where the times differ, the second one then gets its own environment. -/
theorem capture_siblings :
    ∃ o, (origin? .none { installation := "/b" } (printing "LIB=b") none (some "/c")
          (after (siblings 6) [first]) = some o ∨ o ∈ [] ++ history (siblings 6) [first]) ∧
      o.script = Tools.scriptPath "/b" ∧ o.params = "" ∧ o.environment = [("LIB", "b")] := by
  obtain ⟨hhistory, htime, hresult⟩ :
      history (siblings 6) [first] = [⟨Tools.scriptPath "/a", "", .ok 5, [("LIB", "a")]⟩] ∧
      (Files.modified (Tools.scriptPath "/b") (after (siblings 6) [first]).world).result = .ok 6 ∧
      (capture .none { installation := "/b" } (printing "LIB=b") none (some "/c")
        (after (siblings 6) [first])).1.result = .ok (some [("LIB", "b")]) := by
    decide +kernel
  have hevents : BringNone (siblings 6) [first] := ⟨trivial, trivial⟩
  refine capture_ownScript (accounted_siblings 6) hevents _ _ _ _ _ ?_ hresult
  rintro o ho - modified hmodified hsame
  rw [List.nil_append, hhistory, List.mem_singleton] at ho
  rw [ho] at hmodified
  cases hmodified
  exact absurd (Except.ok.inj (htime.symm.trans hsame)) (by decide)

/-- The first one is captured, and then its script is changed. -/
def firstThenChanged (s : Session) : List Event :=
  [first, .change ((after s [first]).world.placing (Tools.scriptPath "/a") ⟨.bytes [], 7⟩)]

/-- Where they do not, it is given the environment of the first one, even though that script is
    not any more what it was. -/
theorem capture_twins :
    history (siblings 5) (firstThenChanged (siblings 5)) =
      [⟨Tools.scriptPath "/a", "", .ok 5, [("LIB", "a")]⟩] ∧
    origin? .none { installation := "/b" } (printing "LIB=b") none (some "/c")
      (after (siblings 5) (firstThenChanged (siblings 5))) = none ∧
    (capture .none { installation := "/b" } (printing "LIB=b") none (some "/c")
      (after (siblings 5) (firstThenChanged (siblings 5)))).1.result =
        .ok (some [("LIB", "a")]) := by
  decide +kernel

end CompileCommands.Cli.Capture
