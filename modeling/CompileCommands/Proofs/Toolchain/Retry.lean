/-
  Looking for tools again, after nothing was found.

  * `Tools.Call`: a search for the shell, a search for a script, or a run of a script, which may
    have to look for the shell;
  * `Tools.Event`, `Tools.run`, `NoneFound`: a history of calls that find no tool, while the world
    changes;
  * `Blind`: actions that are not concerned with what is remembered of tools, with one rule for
    each way to build an action;
  * `Barren`, `Barren.perform`, `Barren.run`: all that is remembered of such a history is that
    there was no shell, if one was looked for;
  * `endsAsFresh_iff`, `run_endsAsFresh_iff`: the next call ends as in a fresh session, unless it
    looks for a shell, too, and would find one there.
-/
import CompileCommands.Proofs.Toolchain.Bootstrap
import CompileCommands.World.Description

namespace CompileCommands

/-! ## What is remembered does not count -/

/-- The session without what is remembered of tools. -/
def Session.fresh (s : Session) : Session :=
  { s with detected := {} }

/-- Whatever is remembered of tools, the action ends the same, and leaves it as it is. -/
def Blind {α : Type} (x : Action Session α) : Prop :=
  ∀ s d, x { s with detected := d } = ((x s).1, { (x s).2 with detected := d })

namespace Blind

variable {α β : Type} {x : Action Session α} {f : α → Action Session β}

theorem pure (a : α) : Blind (Pure.pure a : Action Session α) :=
  fun _ _ => rfl

theorem fail (failure : Failure) : Blind (Action.fail failure : Action Session α) :=
  fun _ _ => rfl

theorem report (event : Log.Event) : Blind (Action.report event) :=
  fun _ _ => rfl

theorem view {g : Session → α} (h : ∀ s d, g { s with detected := d } = g s) :
    Blind (Action.view g) := by
  intro s d
  rw [Action.view, Action.view, h]

theorem launch (launcher : Launcher) (request : Launch.Request) :
    Blind (Session.launch launcher request) :=
  fun _ _ => rfl

theorem bind (hx : Blind x) (hf : ∀ a, Blind (f a)) : Blind (x >>= f) := by
  intro s d
  rw [Action.bind_apply, Action.bind_apply, hx s d]
  rcases x s with ⟨⟨result, log⟩, t⟩
  cases result with
  | ok a =>
    dsimp only
    rw [hf a t d]
  | error failure => rfl

theorem recover {handle : Failure → Action Session α} (hx : Blind x)
    (hh : ∀ failure, Blind (handle failure)) : Blind (Action.recover x handle) := by
  intro s d
  dsimp only [Action.recover]
  rw [hx s d]
  rcases x s with ⟨⟨result, log⟩, t⟩
  cases result with
  | ok a => rfl
  | error failure =>
    dsimp only
    rw [hh failure t d]

theorem ite {c : Prop} [Decidable c] {y : Action Session α} (hx : Blind x) (hy : Blind y) :
    Blind (if c then x else y) := by
  split
  · exact hx
  · exact hy

end Blind

namespace Bootstrap

variable {b : Bootstrap} {launcher : Launcher} {params : Option String} {s : Session}

/-- With a given shell nothing is looked for. -/
theorem blind_fetch {command : String} (h : b.shell = some command) :
    Blind (b.fetch launcher params) := by
  have hshell : Blind b.findShell := by
    unfold findShell
    rw [h]
    exact .pure command
  refine .recover ?_ fun failure => .ite (.fail _) (.bind (.report _) fun _ => .pure _)
  refine .bind (.view fun _ _ => rfl) fun there => .ite ?_ (.bind (.report _) fun _ => .pure _)
  refine .bind hshell fun shell => .bind (.view fun _ _ => rfl) fun id => ?_
  exact .bind (.launch _ _) fun captured => fun _ _ => rfl

theorem fetch_of_missing (h : s.world.isFile b.scriptPath = false) :
    b.fetch launcher params s = (⟨.ok none, [.scriptMissing b.scriptPath]⟩, s) := by
  have hcapture : b.capture launcher params s =
      (⟨.ok none, [.scriptMissing b.scriptPath]⟩, s) := by
    unfold capture
    rw [Action.view_bind, h]
    rfl
  unfold fetch
  rw [Action.recover_of_ok (by rw [hcapture]), hcapture]

/-- Without the script, or with a given shell, nothing is looked for. -/
theorem fetch_of_not_looks (launcher : Launcher) (params : Option String)
    (h : ¬(b.shell = none ∧ s.world.isFile b.scriptPath)) (d : Detected) :
    b.fetch launcher params { s with detected := d } =
      ((b.fetch launcher params s).1, { (b.fetch launcher params s).2 with detected := d }) := by
  cases hshell : b.shell with
  | some command => exact blind_fetch hshell s d
  | none =>
    have hscript : s.world.isFile b.scriptPath = false := by
      rw [← Bool.not_eq_true]
      exact fun hscript => h ⟨hshell, hscript⟩
    rw [fetch_of_missing hscript]
    exact fetch_of_missing hscript

theorem fetch_of_noShell (hshell : b.shell = none) (hscript : s.world.isFile b.scriptPath)
    (h : (Tools.shell s.world s.detected).1 = none) : b.fetch launcher params s =
      (⟨.ok none, [.captureFailed (.tool .noCommandShell)]⟩,
        { s with detected := (Tools.shell s.world s.detected).2 }) := by
  have hfind : b.findShell s =
      (.fail (.tool .noCommandShell), { s with detected := (Tools.shell s.world s.detected).2 }) := by
    have hfound : Session.shell s =
        (.ok none, { s with detected := (Tools.shell s.world s.detected).2 }) :=
      congrArg (fun found => (Outcome.ok found, _)) h
    unfold findShell
    rw [hshell]
    dsimp only
    rw [Action.bind_of_ok (a := none) (by rw [hfound]; rfl), hfound]
    rfl
  have hcapture : b.capture launcher params s =
      (.fail (.tool .noCommandShell), { s with detected := (Tools.shell s.world s.detected).2 }) := by
    have hfailed : (b.findShell s).1.result = .error (.tool .noCommandShell) := by
      rw [hfind]
      rfl
    unfold capture
    rw [Action.view_bind, if_pos hscript, Action.bind_of_error hfailed, hfind]
    rfl
  have hfailed : (b.capture launcher params s).1.result = .error (.tool .noCommandShell) := by
    rw [hcapture]
    rfl
  unfold fetch
  rw [Action.recover_of_error hfailed, hcapture]
  rfl

end Bootstrap

/-! ## Calls that look for tools -/

namespace Tools

/-- A call that looks for tools. -/
inductive Call where
  /-- A search for the command shell. -/
  | shell
  /-- A search for the script of an installation. -/
  | script (installation : String)
  /-- A run of a script. -/
  | fetch (b : Bootstrap) (launcher : Launcher) (params : Option String)

namespace Call

/-- What a call answers with. -/
def Answer : Call → Type
  | shell | script _ => Option Tool
  | fetch .. => Option Environment

/-- What a call does to a session. -/
def perform : (c : Call) → Action Session c.Answer
  | shell => Session.shell
  | script installation => Session.script installation
  | fetch b launcher params => b.fetch launcher params

/-- The call looks for the command shell: it has a script to run, and is not given a shell. -/
def LooksForShell (w : World) : Call → Prop
  | shell => True
  | script _ => False
  | fetch b _ _ => b.shell = none ∧ w.isFile b.scriptPath

instance (w : World) : (c : Call) → Decidable (c.LooksForShell w)
  | shell => inferInstanceAs (Decidable True)
  | script _ => inferInstanceAs (Decidable False)
  | fetch b _ _ => inferInstanceAs (Decidable (b.shell = none ∧ w.isFile b.scriptPath))

/-- The tool that the call finds, or is reminded of. -/
def tool? (s : Session) : Call → Option Tool
  | shell => (Tools.shell s.world s.detected).1
  | script installation => (Tools.script s.world s.detected installation).1
  | fetch b launcher params =>
    if LooksForShell s.world (fetch b launcher params) then (Tools.shell s.world s.detected).1
    else none

/-- The call ends as it would if nothing were remembered: it answers and reports the same, and
    leaves the same session behind, but for what is remembered. -/
def EndsAsFresh (c : Call) (s : Session) : Prop :=
  (c.perform s).1 = (c.perform s.fresh).1 ∧ (c.perform s).2.fresh = (c.perform s.fresh).2.fresh

end Call

/-! ## Histories -/

/-- What happens in a session. -/
inductive Event where
  /-- The world becomes another one. -/
  | change (w : World)
  /-- A call that looks for tools. -/
  | call (c : Call)

/-- The session after an event. -/
def Event.step (s : Session) : Event → Session
  | change w => { s with world := w }
  | call c => (c.perform s).2

/-- The session after a history of events. -/
def run (s : Session) (events : List Event) : Session :=
  events.foldl Event.step s

/-- No call of the history finds a tool. -/
def NoneFound : Session → List Event → Prop
  | _, [] => True
  | s, .change w :: events => NoneFound { s with world := w } events
  | s, .call c :: events => c.tool? s = none ∧ NoneFound (c.perform s).2 events

/-- Some call of the history looks for the command shell. -/
def LookedForShell : Session → List Event → Prop
  | _, [] => False
  | s, .change w :: events => LookedForShell { s with world := w } events
  | s, .call c :: events => c.LooksForShell s.world ∨ LookedForShell (c.perform s).2 events

/-- No tool is remembered, and that there is no shell only if one was looked for. -/
structure Barren (looked : Prop) (d : Detected) : Prop where
  scripts : d.scripts = []
  shell : d.shell = none ∧ ¬looked ∨ d.shell = some none ∧ looked

namespace Barren

variable {looked looked' : Prop} {d : Detected} {s : Session}

theorem empty : Barren False {} :=
  ⟨rfl, .inl ⟨rfl, not_false⟩⟩

theorem congr (h : Barren looked d) (hlooked : looked ↔ looked') : Barren looked' d := by
  rwa [← propext hlooked]

/-- Looking for a shell in vain leaves just that behind. -/
theorem snd_shell (h : Barren looked d) {w : World} (hnone : (Tools.shell w d).1 = none) :
    Barren True (Tools.shell w d).2 := by
  obtain ⟨hscripts, ⟨hshell, -⟩ | ⟨hshell, -⟩⟩ := h
  · simp only [Tools.shell, hshell] at hnone ⊢
    exact ⟨hscripts, .inr ⟨congrArg some hnone, trivial⟩⟩
  · simp only [Tools.shell, hshell]
    exact ⟨hscripts, .inr ⟨hshell, trivial⟩⟩

theorem snd_script {w : World} {installation : String}
    (hnone : (Tools.script w d installation).1 = none) :
    (Tools.script w d installation).2 = d := by
  unfold Tools.script at hnone ⊢
  split
  · rfl
  · split
    · simp_all
    · rfl

/-- One call that finds nothing. -/
theorem perform (h : Barren looked s.detected) {c : Call} (hnone : c.tool? s = none) :
    Barren (looked ∨ c.LooksForShell s.world) (c.perform s).2.detected := by
  cases c with
  | shell => exact (h.snd_shell hnone).congr (iff_of_true trivial (.inr trivial))
  | script installation =>
    have hsame : (Session.script installation s).2.detected = s.detected := snd_script hnone
    have hlooks : ¬Call.LooksForShell s.world (.script installation) := not_false
    rw [Call.perform, hsame]
    exact h.congr (by simp [hlooks])
  | fetch b launcher params =>
    by_cases hlooks : Call.LooksForShell s.world (.fetch b launcher params)
    · rw [Call.tool?, if_pos hlooks] at hnone
      rw [Call.perform, Bootstrap.fetch_of_noShell hlooks.1 hlooks.2 hnone]
      exact (h.snd_shell hnone).congr (iff_of_true trivial (.inr hlooks))
    · have hsame := congrArg (·.2.detected)
        (Bootstrap.fetch_of_not_looks launcher params hlooks s.detected)
      dsimp only at hsame
      rw [Call.perform, hsame]
      exact h.congr (by simp [hlooks])

/-- By induction on the history, from any session on. -/
theorem run {events : List Event} (h : Barren looked s.detected) (hnone : NoneFound s events) :
    Barren (looked ∨ LookedForShell s events) (run s events).detected := by
  induction events generalizing s looked with
  | nil => exact h.congr (by simp [LookedForShell])
  | cons e events ih =>
    cases e with
    | change w => exact ih h hnone
    | call c => exact (ih (h.perform hnone.1) hnone.2).congr or_assoc

end Barren

/-! ## The next call -/

theorem script_of_nil {w : World} {d : Detected} (h : d.scripts = []) (installation : String) :
    (Tools.script w d installation).1 = searchScript w installation := by
  have hget : d.scripts.get? installation = none := by
    rw [h]
    rfl
  unfold Tools.script
  rw [hget]
  dsimp only
  split
  · next found hfound => exact hfound.symm
  · next hfound => exact hfound.symm

/-- A shell that is remembered to be missing counts as missing, also when it is there. -/
theorem endsAsFresh_of_missing {s : Session} (hscripts : s.detected.scripts = [])
    (hshell : s.detected.shell = some none) (c : Call) :
    c.EndsAsFresh s ↔ ¬(c.LooksForShell s.world ∧ (searchShell s.world).isSome) := by
  have hknown : (Tools.shell s.world s.detected).1 = none := by
    rw [Tools.shell, hshell]
  cases c with
  | shell =>
    have hends : (Session.shell s).1 = .ok none := congrArg Outcome.ok hknown
    have hfresh : (Session.shell s.fresh).1 = .ok (searchShell s.world) := rfl
    cases hsearch : searchShell s.world with
    | none =>
      rw [hsearch] at hfresh
      exact iff_of_true ⟨hends.trans hfresh.symm, rfl⟩ (by simp)
    | some tool =>
      rw [hsearch] at hfresh
      refine iff_of_false (fun h => ?_) (by simp [Call.LooksForShell])
      cases hends.symm.trans (h.1.trans hfresh)
  | script installation =>
    have hsame : (Tools.script s.world s.detected installation).1 =
        (Tools.script s.world {} installation).1 :=
      (script_of_nil hscripts installation).trans (script_of_nil rfl installation).symm
    exact iff_of_true ⟨congrArg Outcome.ok hsame, rfl⟩ fun h => h.1
  | fetch b launcher params =>
    by_cases hlooks : Call.LooksForShell s.world (.fetch b launcher params)
    · have hends : b.fetch launcher params s = _ :=
        Bootstrap.fetch_of_noShell hlooks.1 hlooks.2 hknown
      cases hsearch : searchShell s.world with
      | none =>
        have hfresh : b.fetch launcher params s.fresh = _ :=
          Bootstrap.fetch_of_noShell hlooks.1 hlooks.2 hsearch
        refine iff_of_true ?_ (by simp)
        rw [Call.EndsAsFresh, Call.perform, hends, hfresh]
        exact ⟨rfl, rfl⟩
      | some tool =>
        -- in the fresh session the script is asked to be run
        have hfresh : (b.fetch launcher params s.fresh).2.requests = s.requests ++ [_] :=
          Bootstrap.requests_fetch hlooks.1 hsearch hlooks.2
        refine iff_of_false ?_ (by simp [hlooks])
        rintro ⟨-, hleft⟩
        have hrequests := congrArg Session.requests hleft
        rw [Call.perform, hends] at hrequests
        have hnone := (hrequests.trans hfresh).symm
        simp [Session.fresh] at hnone
    · have hsame := Bootstrap.fetch_of_not_looks launcher params hlooks {}
      refine iff_of_true ?_ fun h => hlooks h.1
      exact ⟨(congrArg Prod.fst hsame).symm, (congrArg (·.2.fresh) hsame).symm⟩

theorem endsAsFresh_iff {looked : Prop} {s : Session} (h : Barren looked s.detected) (c : Call) :
    c.EndsAsFresh s ↔ ¬(looked ∧ c.LooksForShell s.world ∧ (searchShell s.world).isSome) := by
  obtain ⟨hscripts, ⟨hshell, hlooked⟩ | ⟨hshell, hlooked⟩⟩ := h
  · have hfresh : s.fresh = s := by
      cases s with
      | mk world detected requests traces console =>
        cases detected
        cases hscripts
        cases hshell
        rfl
    refine iff_of_true ?_ fun h => hlooked h.1
    rw [Call.EndsAsFresh, hfresh]
    exact ⟨rfl, rfl⟩
  · rw [endsAsFresh_of_missing hscripts hshell]
    simp [hlooked]

/-- **After calls that found no tool, everything is looked for again, but not a shell.** Let a
    session remember nothing, and let any calls follow that find no tool, while the world changes.
    The next call ends as in a fresh session in the present world, with the same processes
    started, unless some earlier call looked for a shell, the next one does, too, and there is
    one now: only that there was no shell is remembered. -/
theorem run_endsAsFresh_iff {s : Session} (hs : s.detected = {}) {events : List Event}
    (hnone : NoneFound s events) (c : Call) :
    c.EndsAsFresh (run s events) ↔ ¬(LookedForShell s events ∧
      c.LooksForShell (run s events).world ∧ (searchShell (run s events).world).isSome) := by
  have hempty : Barren False s.detected := by
    rw [hs]
    exact .empty
  have hrun := hempty.run hnone
  rw [false_or] at hrun
  exact endsAsFresh_iff hrun c

/-- A world with a shell, and with the script of one installation. -/
def installed : World :=
  ({ environment := [("COMSPEC", "cmd")] } : World).placing "/vs/Common7/Tools/VsDevCmd.bat"
    ⟨.bytes [], 0⟩

/-- A run of that script by a shell that prints nothing. -/
def quietFetch : Call :=
  .fetch { installation := "/vs" } (fun _ _ => (.ok {}, [])) none

/-- A script that is installed after it was looked for is run. -/
theorem run_endsAsFresh_installed :
    NoneFound {} [.call (.script "/vs"), .call quietFetch, .change installed] ∧
      quietFetch.EndsAsFresh (run {} [.call (.script "/vs"), .call quietFetch, .change installed]) := by
  have hnone : NoneFound {} [.call (.script "/vs"), .call quietFetch, .change installed] :=
    ⟨by decide +kernel, by decide +kernel, trivial⟩
  refine ⟨hnone, (run_endsAsFresh_iff rfl hnone quietFetch).2 ?_⟩
  rintro ⟨hscript | hfetch | hchange, -⟩
  · exact hscript
  · exact absurd hfetch.2 (by decide +kernel)
  · exact hchange

/-- A shell that appears after it was looked for is not found. -/
theorem run_shell_missed :
    NoneFound {} [.call .shell, .change installed] ∧
      ¬Call.shell.EndsAsFresh (run {} [.call .shell, .change installed]) := by
  refine ⟨⟨by decide, trivial⟩, fun h => ?_⟩
  exact (endsAsFresh_of_missing rfl rfl .shell).1 h ⟨trivial, by decide⟩

end Tools
end CompileCommands
