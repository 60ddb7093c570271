/-
  What running a bootstrap script does to a session.

  * `Session.files_keeps`: an action on the world, within a session;
  * `Bootstrap.fetch_keeps`: what lasts while the script is run; `Bootstrap.fetch_world`,
    `Bootstrap.fetch_console`: it leaves the world as it is, and prints nothing;
  * `Bootstrap.isFile_of_fetch`: there is an environment only where the script is;
  * `Bootstrap.knownShell`: the shell that the script is run with, if there is one;
    `Bootstrap.digest`: what is made of the answer of a launcher; `Bootstrap.fetch_of_knownShell`:
    what a run with a shell comes to;
  * `Bootstrap.requests_fetch`: where the script and a shell are, the script is asked to be run;
  * `Bootstrap.fetch_congr`: of all files, only the script counts, and only that it is there.
-/
import CompileCommands.Proofs.World.Files
import CompileCommands.Toolchain.Bootstrap

namespace CompileCommands

namespace Session

variable {P : World → Prop}

theorem files_apply {α : Type} (x : Action World α) (s : Session) :
    files x s = ((x s.world).1, { s with world := (x s.world).2 }) := rfl

theorem files_keeps {α : Type} {x : Action World α} (hx : Action.Keeps P x) :
    Action.Keeps (fun s : Session => P s.world) (files x) :=
  .onPart (fun _ _ => rfl) hx

theorem snd_complain (text : String) (s : Session) : (complain text s).2 =
    { s with console := { s.console with errors := s.console.errors ++ text } } := rfl

theorem complain_keeps (text : String) :
    Action.Keeps (fun s : Session => P s.world) (complain text) :=
  .of_state fun _ hs => hs

end Session

theorem Tools.searchShell_congr {v w : World} (h : v.Alike w) : searchShell w = searchShell v := by
  rw [searchShell, searchShell, h.environment, h.programs]

namespace Bootstrap

variable (b : Bootstrap) (launcher : Launcher) (params : Option String)

section Keeps

variable {P : Session → Prop} (hshell : Action.Keeps P Session.shell)
include hshell

theorem findShell_keeps : Action.Keeps P b.findShell := by
  unfold findShell
  split
  · exact .pure _
  · refine .bind hshell fun found => ?_
    cases found with
    | some tool => exact .pure _
    | none => exact .fail _

variable {launcher} (hlaunch : ∀ request, Action.Keeps P (Session.launch launcher request))
include hlaunch

theorem capture_keeps : Action.Keeps P (b.capture launcher params) := by
  refine .bind (.view _) fun there => .ite ?_ (.bind (.report _) fun _ => .pure _)
  refine .bind (b.findShell_keeps hshell) fun shell => .bind (.view _) fun id => ?_
  refine .bind (hlaunch _) fun captured => ?_
  exact .of_state fun _ hs => hs

/-- A run of the script keeps what looking for a shell and launching keep. -/
theorem fetch_keeps : Action.Keeps P (b.fetch launcher params) := by
  refine .recover (b.capture_keeps params hshell hlaunch) fun failure => ?_
  exact .ite (.fail _) (.bind (.report _) fun _ => .pure _)

end Keeps

theorem fetch_world (s : Session) : (b.fetch launcher params s).2.world = s.world :=
  (b.fetch_keeps (P := fun r => r.world = s.world) params (.of_state fun _ hr => hr)
    fun _ => .of_state fun _ hr => hr).apply rfl

theorem fetch_console (s : Session) : (b.fetch launcher params s).2.console = s.console :=
  (b.fetch_keeps (P := fun r => r.console = s.console) params (.of_state fun _ hr => hr)
    fun _ => .of_state fun _ hr => hr).apply rfl

variable {b launcher params}

theorem isFile_of_fetch {s : Session} {environment : Environment}
    (h : (b.fetch launcher params s).1.result = .ok (some environment)) :
    s.world.isFile b.scriptPath := by
  rw [← Bool.not_eq_false]
  intro hscript
  have hcapture : (b.capture launcher params s).1.result = .ok none := by
    unfold capture
    rw [Action.view_bind, hscript]
    rfl
  unfold fetch at h
  rw [Action.result_recover_of_ok hcapture] at h
  cases h

/-! ## A run with a shell -/

/-- The shell that is given, or else the one that is found. -/
def knownShell (b : Bootstrap) (s : Session) : Option String :=
  b.shell <|> (Tools.shell s.world s.detected).1.map Tool.command

/-- The request to run the script. -/
def request (b : Bootstrap) (params : Option String) (w : World) (shell : String) :
    Launch.Request :=
  ⟨shell, Capture.arguments b.scriptPath params w.freshId, b.seconds⟩

/-- What is made of the answer of a launcher: the environment that was printed, or none with a
    report; a critical failure remains one. -/
def digest (b : Bootstrap) (id : String) : Except Failure Captured → Outcome (Option Environment)
  | .ok captured => b.environmentOf id captured
  | .error failure =>
    if failure.isCritical then .fail failure else ⟨.ok none, [.captureFailed failure]⟩

section Shell

variable {s : Session} {shell : String}

theorem findShell_of_knownShell (h : b.knownShell s = some shell) :
    ∃ d, b.findShell s = (.ok shell, { s with detected := d }) := by
  unfold knownShell at h
  unfold findShell
  cases hshell : b.shell with
  | some command =>
    rw [hshell] at h
    cases h
    exact ⟨s.detected, rfl⟩
  | none =>
    rw [hshell, Option.orElse_eq_orElse, Option.orElse_none] at h
    obtain ⟨tool, htool, rfl⟩ := Option.map_eq_some_iff.1 h
    have hfound : Session.shell s =
        (.ok (some tool), { s with detected := (Tools.shell s.world s.detected).2 }) :=
      congrArg (fun found => (Outcome.ok found, _)) htool
    refine ⟨(Tools.shell s.world s.detected).2, ?_⟩
    dsimp only
    rw [Action.bind_of_ok (a := some tool) (by rw [hfound]; rfl), hfound]
    rfl

theorem exists_environmentOf (id : String) (captured : Captured) :
    ∃ environment, (b.environmentOf id captured).result = .ok environment := by
  unfold environmentOf
  split
  · exact ⟨none, rfl⟩
  · split
    · exact ⟨none, rfl⟩
    · exact ⟨some _, rfl⟩

/-- What is answered and logged, and what is asked. -/
theorem fetch_of_knownShell (launcher : Launcher) (params : Option String)
    (hscript : s.world.isFile b.scriptPath) (hshell : b.knownShell s = some shell) :
    (b.fetch launcher params s).1 =
        (b.digest s.world.freshId
          (launcher s.world.host (b.request params s.world shell)).1.result).after
            (launcher s.world.host (b.request params s.world shell)).1.log ∧
      (b.fetch launcher params s).2.requests = s.requests ++ [b.request params s.world shell] := by
  obtain ⟨d, hfind⟩ := findShell_of_knownShell hshell
  have hcapture : b.capture launcher params s =
      Action.bind (Session.launch launcher (b.request params s.world shell))
        (fun captured t => (b.environmentOf s.world.freshId captured, t))
        { s with detected := d } := by
    unfold capture
    rw [Action.view_bind, if_pos hscript, Action.bind_of_ok (a := shell) (by rw [hfind]; rfl),
      hfind, Action.view_bind]
    rfl
  unfold fetch
  cases hresult : (launcher s.world.host (b.request params s.world shell)).1.result with
  | ok captured =>
    obtain ⟨environment, henvironment⟩ := b.exists_environmentOf s.world.freshId captured
    have hlaunched := hcapture.trans (Action.bind_of_ok hresult)
    rw [Action.recover_of_ok (a := environment) (by rw [hlaunched]; exact henvironment), hlaunched]
    exact ⟨rfl, rfl⟩
  | error failure =>
    have hlaunched := hcapture.trans (Action.bind_of_error hresult)
    rw [Action.recover_of_error (by rw [hlaunched]), hlaunched, digest]
    split
    · exact ⟨rfl, rfl⟩
    · exact ⟨rfl, rfl⟩

end Shell

/-! ## The request for the script -/

section Requests

variable {s : Session} (hshell : b.shell = none)
include hshell

/-- There is an environment only where a shell is found. -/
theorem exists_shell_of_fetch {environment : Environment}
    (h : (b.fetch launcher params s).1.result = .ok (some environment)) :
    ∃ tool, (Tools.shell s.world s.detected).1 = some tool := by
  rw [← Option.ne_none_iff_exists']
  intro hnone
  have hfind : (b.findShell s).1.result = .error (.tool .noCommandShell) := by
    have hfound : (Session.shell s).1.result = .ok none := congrArg Except.ok hnone
    unfold findShell
    rw [hshell]
    exact Action.result_bind_of_ok hfound
  have hcapture : (b.capture launcher params s).1.result = .error (.tool .noCommandShell) := by
    unfold capture
    rw [Action.view_bind, if_pos (isFile_of_fetch h)]
    exact Action.result_bind_of_error hfind
  unfold fetch at h
  rw [Action.result_recover_of_error hcapture] at h
  cases h

/-- Where the script and a shell are found, a request to run the script is put. -/
theorem requests_fetch {tool : Tool} (htool : (Tools.shell s.world s.detected).1 = some tool)
    (hscript : s.world.isFile b.scriptPath) :
    (b.fetch launcher params s).2.requests = s.requests ++
      [⟨tool.command, Capture.arguments b.scriptPath params s.world.freshId, b.seconds⟩] := by
  have hknown : b.knownShell s = some tool.command := by
    rw [knownShell, hshell, htool]
    rfl
  exact (fetch_of_knownShell launcher params hscript hknown).2

end Requests

/-! ## Alike sessions -/

section Congruence

variable {s t : Session} (hworld : s.world.Alike t.world) (hdetected : t.detected = s.detected)
include hworld hdetected

theorem findShell_congr : (b.findShell t).1 = (b.findShell s).1 := by
  have hsearch : Tools.shell t.world t.detected = Tools.shell s.world s.detected := by
    rw [Tools.shell, Tools.shell, hdetected, Tools.searchShell_congr hworld]
  unfold findShell
  cases b.shell with
  | some command => rfl
  | none =>
    refine Action.fst_bind_congr ?_ fun found => ?_
    · dsimp only [Session.shell]
      rw [hsearch]
    · cases found with
      | some tool => exact Action.fst_pure_congr _ _ _
      | none => exact Action.fst_fail_congr _ _ _

/-- Two sessions in which the script is there alike are alike to a run of it. -/
theorem fetch_congr (hscript : t.world.isFile b.scriptPath = s.world.isFile b.scriptPath) :
    (b.fetch launcher params t).1 = (b.fetch launcher params s).1 := by
  have hstate (r : Session) : (b.findShell r).2.world = r.world :=
    (b.findShell_keeps (P := fun u => u.world = r.world) (.of_state fun _ hu => hu)).apply rfl
  have hcapture : (b.capture launcher params t).1 = (b.capture launcher params s).1 := by
    unfold capture
    rw [Action.view_bind, Action.view_bind, hscript]
    cases s.world.isFile b.scriptPath with
    | false =>
      exact Action.fst_bind_congr (Action.fst_report_congr _ _ _) fun _ =>
        Action.fst_pure_congr _ _ _
    | true =>
      refine Action.fst_bind_congr (findShell_congr hworld hdetected) fun shell => ?_
      rw [Action.view_bind, Action.view_bind, hstate, hstate, hworld.freshId]
      refine Action.fst_bind_congr ?_ fun captured => rfl
      dsimp only [Session.launch]
      rw [hstate, hstate, hworld.host]
  refine Action.fst_recover_congr hcapture fun failure => ?_
  split
  · exact Action.fst_fail_congr _ _ _
  · exact Action.fst_bind_congr (Action.fst_report_congr _ _ _) fun _ => Action.fst_pure_congr _ _ _

end Congruence
end Bootstrap
end CompileCommands
