/-
  How the runs of the commands fail.

  * `In`: the sessions in a world like a given one;
  * `Package.failsOnly_requireEach`, `failsOnly_requiring`: requiring packages fails only if a
    version cannot be read;
  * `Locate.failsOnly_run`: a location fails only as the world admits;
  * `Launcher.failsOnly_ofProcess`: a process fails as it does when it is started, or its command
    line cannot be split into words;
  * `Capture.failsOnly_run`: a capture fails only as the world admits, or as the process does.
-/
import CompileCommands.Cli.Capture
import CompileCommands.Cli.Locate
import CompileCommands.Proofs.Database.Failing
import CompileCommands.Proofs.Snapshot.Failing

namespace CompileCommands

/-! ## Sessions -/

/-- The world of the session differs from the given one at most in its files, its directories and
    the time. -/
def In (w : World) (s : Session) : Prop :=
  w.Alike s.world

namespace Session

variable {P : Failure → Prop} {w : World}

theorem failsOnly_asks {α : Type} {q : Query World α} (h : ∀ v : World, q.FailsOnly v.Admits v) :
    Action.FailsOnly w.Admits (In w) (asks q) := by
  refine .ask fun s hs => ?_
  rw [← World.Alike.admits hs]
  exact h s.world

theorem failsOnly_files {α : Type} {x : Action World α} (h : Action.FailsOnly P w.Alike x) :
    Action.FailsOnly P (In w) (files x) :=
  .onPart (fun _ _ => rfl) h

theorem failsOnly_print (text : String) : Action.FailsOnly P (In w) (print text) :=
  .modify fun _ hs => hs

theorem failsOnly_complain (text : String) : Action.FailsOnly P (In w) (complain text) :=
  .modify fun _ hs => hs

theorem failsOnly_shell : Action.FailsOnly P (In w) shell :=
  ⟨fun _ hs => hs⟩

theorem failsOnly_launch {launcher : Launcher}
    (h : ∀ host request, FailsOnly P (launcher host request).1.result) (request : Launch.Request) :
    Action.FailsOnly P (In w) (launch launcher request) := by
  refine ⟨fun s hs => ?_⟩
  have hfails := h s.world.host request
  dsimp only [launch]
  cases hresult : (launcher s.world.host request).1.result with
  | ok captured => exact hs
  | error failure => exact ⟨hfails failure hresult, hs⟩

end Session

/-! ## Packages -/

namespace Package

variable {w : World} (versions : Versions)

theorem failsOnly_versionOf (text : String) :
    FailsOnly Failure.IsOwn (versionOf versions text) := by
  unfold versionOf
  split
  · exact .ok _
  · exact .error trivial

theorem failsOnly_isOlder (installed minimum : String) :
    FailsOnly Failure.IsOwn (isOlder versions installed minimum) :=
  .bind (failsOnly_versionOf versions _) fun _ => .bind (failsOnly_versionOf versions _) fun _ =>
    .ok _

theorem failsOnly_require (p : Palette) (requirements : Requirements) (context name : String) :
    Action.FailsOnly w.Admits (In w) (require versions p requirements context name) := by
  unfold require
  split
  · exact .bind (Session.failsOnly_complain _) fun _ => .pure _
  · next minimum _ =>
    refine .bind (.view _) fun found => ?_
    split
    · exact .bind (Session.failsOnly_complain _) fun _ => .pure _
    · next version =>
      refine .bind (.lift ((failsOnly_isOlder versions version minimum).admits w)) fun _ =>
        .ite ?_ (.pure _)
      exact .bind (Session.failsOnly_complain _) fun _ => .pure _

theorem failsOnly_requireEach (p : Palette) (requirements : Requirements) (context : String)
    (names : List String) :
    Action.FailsOnly w.Admits (In w) (requireEach versions p requirements context names) := by
  induction names with
  | nil => exact .pure _
  | cons name names ih =>
    exact .bind (failsOnly_require versions p requirements context name) fun _ => .ite ih (.pure _)

end Package

namespace Cli

variable {w : World}

theorem failsOnly_requiring {P : Failure → Prop} (hP : ∀ failure, w.Admits failure → P failure)
    {run : Action Session ExitCode} (h : Action.FailsOnly P (In w) run) (p : Palette)
    (purpose : String) : Action.FailsOnly P (In w) (requiring p purpose run) :=
  .bind ((Package.failsOnly_requireEach _ p _ purpose _).mono hP) fun _ => .ite h (.pure _)

/-! ## Locations -/

namespace Locate

theorem failsOnly_configurationOf (w : World) (root : Option String) :
    (configurationOf root).FailsOnly w.Admits w := by
  unfold configurationOf
  split
  · exact .pure _
  · exact .pure _
  · exact .map (ActiveConfiguration.failsOnly_name w _ _) _

theorem failsOnly_report (w : World) (source : RootSource) (file : Option String) :
    (report source file).FailsOnly w.Admits w := by
  have hlocate := DatabaseLocator.failsOnly_locate { root := source } w
  refine .bind (RootSource.failsOnly_find w source) fun root =>
    .bind (failsOnly_configurationOf w root) fun configuration =>
    .bind hlocate fun database => .bind ?_ fun lookup => .pure _
  cases file with
  | none => exact .pure _
  | some file => exact .bind (Database.failsOnly_entryFor hlocate _) fun _ => .pure _

theorem failsOnly_print (p : Palette) (format : Format) (r : Report) :
    Action.FailsOnly w.Admits (In w) (r.print p format) := by
  have htext : Action.FailsOnly w.Admits (In w) (r.printText p) := by
    refine .bind (Session.failsOnly_print _) fun _ => .bind (Session.failsOnly_print _) fun _ => ?_
    split
    · exact .pure _
    · next l _ =>
      refine .bind (Session.failsOnly_print _) fun _ => ?_
      split
      · exact Session.failsOnly_complain _
      · exact Session.failsOnly_print _
  cases format with
  | json => exact Session.failsOnly_print _
  | text => exact htext
  | bare => exact htext

theorem failsOnly_conclude (p : Palette) (r : Report) :
    Action.FailsOnly w.Admits (In w) (r.conclude p) := by
  unfold Report.conclude
  split
  · exact Session.failsOnly_complain _
  · exact Session.failsOnly_print _
  · exact .pure _
  · exact .pure _

/-- A location fails only as the world admits. -/
theorem failsOnly_run (w : World) (p : Palette) (settings : Settings) :
    Action.FailsOnly w.Admits (In w) (run p settings) := by
  have hlocate : Action.FailsOnly w.Admits (In w) (locate p settings) := by
    refine .bind (.view _) fun file => .bind (.view _) fun source =>
      .bind (Session.failsOnly_asks fun v => failsOnly_report v source file) fun found =>
      .bind (failsOnly_print p _ found) fun _ => .ite ?_ (.pure _)
    exact .bind (failsOnly_conclude p found) fun _ => .pure _
  refine failsOnly_requiring (fun _ hfailure => hfailure) (.bind (.view _) fun bad => ?_) p _
  exact .ite (.bind (Session.failsOnly_complain _) fun _ => .pure _) hlocate

end Locate
end Cli

/-! ## Captures -/

theorem Launch.failsOnly_commandLine (request : Request) (host : Host) :
    FailsOnly Failure.IsOwn (request.commandLine host) := by
  cases host with
  | windows => exact .ok _
  | posix =>
    dsimp only [Request.commandLine]
    cases Text.splitWords request.line with
    | ok words => exact .ok _
    | error error => exact .error trivial

/-- A process that does not start is a failure of the library's own, if that is an error of file
    access, and else fails as it is. -/
theorem Launcher.failsOnly_ofProcess {P : Failure → Prop}
    (hown : ∀ failure, failure.IsOwn → P failure) {process : ProcessBehaviour}
    (hstart : ∀ failure ∈ process.startFailure, P failure)
    (encoding : Text.Encoding) (host : Host) (request : Launch.Request) :
    FailsOnly P (ofProcess encoding process host request).1.result := by
  have hline := (Launch.failsOnly_commandLine request host).mono hown
  unfold ofProcess
  split
  · next failure hfailure => exact .error (hline failure hfailure)
  · split
    · next failure hfailure =>
      cases failure with
      | file error => exact .error (hown _ rfl)
      | _ => exact .error (hstart _ hfailure)
    · unfold Launch.captureOf
      split
      · exact .ok _
      · exact .ok _

section Bootstrap

variable {P : Failure → Prop} {w : World} {launcher : Launcher}
  (hP : ∀ failure, w.Admits failure → P failure)
  (hlauncher : ∀ host request, FailsOnly P (launcher host request).1.result)
include hP hlauncher

theorem Bootstrap.failsOnly_fetch (b : Bootstrap) (params : Option String) :
    Action.FailsOnly P (In w) (b.fetch launcher params) := by
  have hshell : Action.FailsOnly P (In w) b.findShell := by
    unfold findShell
    split
    · exact .pure _
    · refine .bind Session.failsOnly_shell fun tool => ?_
      cases tool with
      | some tool => exact .pure _
      | none => exact .fail (hP _ (.inl rfl))
  have hcapture : Action.FailsOnly P (In w) (b.capture launcher params) := by
    refine .bind (.view _) fun there => .ite ?_ (.bind (.report _) fun _ => .pure _)
    refine .bind hshell fun shell => .bind (.view _) fun id =>
      .bind (Session.failsOnly_launch hlauncher _) fun captured => ?_
    refine .ask fun _ _ => ?_
    unfold Query.FailsOnly environmentOf
    split
    · exact .ok _
    · split
      · exact .ok _
      · exact .ok _
  refine .recover hcapture fun failure hfailure => .ite (.fail hfailure) ?_
  exact .bind (.report _) fun _ => .pure _

namespace Cli.Capture

theorem failsOnly_capture (p : Palette) (b : Bootstrap) (params cache : Option String) :
    Action.FailsOnly P (In w) (capture p b launcher params cache) := by
  have hfetch := b.failsOnly_fetch hP hlauncher params
  have hmeets (directory : String) := Snapshot.Meets.admits w directory b.scriptPath
  have hrest (failure : Failure) (hfailure : w.Admits failure)
      (_ : failure.isFileError = false) : P failure := hP failure hfailure
  have hname : FailsOnly P (Snapshot.requireName params) := by
    unfold Snapshot.requireName requireEncoded
    split
    · exact .error (hP _ (.inl trivial))
    · exact .ok _
  have hstored (directory : String) :
      Action.FailsOnly P (In w) (stored p b params directory) := by
    refine .bind (.lift hname) fun _ => .bind (Session.failsOnly_files ?_) fun found => ?_
    · exact Snapshot.failsOnly_load (hmeets directory) hrest (fun _ => .inl trivial) _ _
    · cases found with
      | none => exact .pure _
      | some environment => exact .bind (Session.failsOnly_complain _) fun _ => .pure _
  have hkeep (directory : String) (environment : Environment) :
      Action.FailsOnly P (In w) (keep b params directory environment) := by
    refine .bind (Session.failsOnly_files ?_) fun _ =>
      .bind (Session.failsOnly_files ?_) fun _ => .pure _
    · exact Snapshot.failsOnly_save (hmeets directory) hrest (.admits w directory) _ _
    · exact Snapshot.failsOnly_cleanup (hmeets directory) hrest _
  have hfresh (directory : String) :
      Action.FailsOnly P (In w) (fresh b launcher params directory) := by
    refine .bind hfetch fun found => ?_
    cases found with
    | none => exact .pure _
    | some environment => exact .bind (hkeep directory environment) fun _ => .pure _
  unfold capture
  split
  · exact hfetch
  · exact hfetch
  · refine .bind (hstored _) fun found => ?_
    cases found with
    | none => exact hfresh _
    | some environment => exact .pure _

theorem failsOnly_captureAndPrint (p : Palette) (settings : Settings) (b : Bootstrap) :
    Action.FailsOnly P (In w) (captureAndPrint p launcher settings b) := by
  refine .bind (failsOnly_capture hP hlauncher p b _ _) fun found => ?_
  cases found with
  | none => exact .bind (Session.failsOnly_complain _) fun _ => .pure _
  | some environment =>
    have hnames : FailsOnly P (namesOf settings.only) := by
      unfold namesOf
      split
      · exact .ok _
      · exact .error (hP _ (.inl trivial))
    exact .bind (.lift hnames) fun _ => .bind (Session.failsOnly_print _) fun _ => .pure _

/-- A capture fails only as the world admits, or as the launcher does. -/
theorem failsOnly_run (p : Palette) (settings : Settings) :
    Action.FailsOnly P (In w) (run p launcher settings) := by
  have hrefuse (text : String) : Action.FailsOnly P (In w) (refuse p text) :=
    .bind (Session.failsOnly_complain _) fun _ => .pure _
  have hlimit : FailsOnly P (timeLimitOf settings) := by
    unfold timeLimitOf
    split
    · exact .ok _
    · exact .error (hP _ (.inl trivial))
  have hbootstrap (installation : String) (seconds : Binary64) :
      FailsOnly P (bootstrapOf installation seconds) := by
    unfold bootstrapOf
    split
    · exact .ok _
    · exact .error (hP _ (.inl trivial))
  refine failsOnly_requiring hP ?_ p _
  split
  · exact hrefuse _
  · exact hrefuse _
  · refine .bind (.lift hlimit) fun seconds => .ite (hrefuse _) ?_
    exact .bind (.lift (hbootstrap _ seconds)) fun b =>
      failsOnly_captureAndPrint hP hlauncher p settings b

end Cli.Capture
end Bootstrap
end CompileCommands
