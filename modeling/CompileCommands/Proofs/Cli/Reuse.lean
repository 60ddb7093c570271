/-
  Captures that are reused.

  * `age_le_maximumAge`, `maximumAge_lt_age`: when a snapshot is young enough, and when too old;
    `cleanup_keeps_new`: a cleanup spares what was just written;
  * `Accepts`: settings that name a bootstrap; `run_of_accepts`: with them it comes to a capture;
  * `endOf`: how printing an environment ends; `prints_main_of_capture`: so does a run that has one;
  * `Stores`, `Stores.file?_capture`: a run that stores an environment leaves it in place;
  * `Later`, `load_later`: the surroundings of a later run, and what is loaded there;
  * `Reuses`, `Captures`: the two ways in which that run can end;
  * `main_reuses`: it reuses the stored environment for a week, and then captures again;
    `main_roundedWeek`: the week is over only when the difference of the times says so.
-/
import CompileCommands.Proofs.Cli.Exit
import CompileCommands.Proofs.Cli.Trouble
import CompileCommands.Proofs.Decimal.Rounding

namespace CompileCommands.Cli.Capture

open Snapshot (Metadata Serves isOlder hour paramsOf)

/-! ## Age -/

section Age

theorem isExact_maximumAge : Binary64.IsExact maximumAge :=
  ⟨168, 0, by decide, by decide, by norm_num [maximumAge]⟩

theorem isExact_week : Binary64.IsExact (maximumAge * hour) :=
  ⟨604800, 0, by decide, by decide, by norm_num [maximumAge, hour]⟩

variable {w : World} {m : Metadata}

theorem rounded_le_week (hrounding : w.rounding = Binary64.roundRat) {captured : ℚ}
    (h : w.clock ≤ captured + maximumAge * hour) :
    w.rounding (w.clock - captured) ≤ maximumAge * hour := by
  rw [hrounding]
  exact Binary64.roundRat_le isExact_week (by linarith)

theorem age_le_maximumAge (hrounding : w.rounding = Binary64.roundRat)
    (h : w.rounding (w.clock - m.captured) ≤ maximumAge * hour) : m.age w ≤ maximumAge := by
  have hpos : (0 : ℚ) < hour := by norm_num [hour]
  rw [Metadata.age, hrounding]
  refine Binary64.roundRat_le isExact_maximumAge ?_
  rw [div_le_iff₀ hpos, ← hrounding]
  exact h

/-- A difference that is rounded to more than a week is rounded at least to the next number, and
    that many hours are also rounded to more than a week. -/
theorem maximumAge_lt_age (hrounding : w.rounding = Binary64.roundRat)
    (h : maximumAge * hour < w.rounding (w.clock - m.captured)) : maximumAge < m.age w := by
  rw [hrounding] at h
  have hweek : ((604800 * 2 ^ 33 : ℕ) : ℚ) * 2 ^ (-33 : ℤ) = maximumAge * hour := by
    norm_num [maximumAge, hour]
  rw [← hweek] at h
  have hnext := Binary64.next_le_roundRat (by decide) (by decide) (by decide) (by decide) h
  have hexact : Binary64.IsExact (((168 * 2 ^ 45 + 1 : ℕ) : ℚ) * 2 ^ (-45 : ℤ)) :=
    ⟨_, _, by decide, by decide, rfl⟩
  have hhours : ((168 * 2 ^ 45 + 1 : ℕ) : ℚ) * 2 ^ (-45 : ℤ) ≤
      Binary64.roundRat (w.clock - m.captured) / hour := by
    have hpos : (0 : ℚ) < hour := by norm_num [hour]
    rw [le_div_iff₀ hpos]
    refine le_trans ?_ hnext
    norm_num [hour]
  rw [Metadata.age, hrounding]
  refine lt_of_lt_of_le ?_ (Binary64.le_roundRat hexact hhours)
  norm_num [maximumAge]

theorem isOlder_clock (hrounding : w.rounding = Binary64.roundRat) :
    isOlder w.clock maximumAge w = false := by
  have hpos : (0 : ℚ) ≤ maximumAge * hour := by norm_num [maximumAge, hour]
  rw [isOlder, sub_self, decide_eq_false_iff_not, not_lt, hrounding]
  exact (Binary64.roundRat_le isExact_week hpos).trans (Binary64.le_roundRat isExact_week le_rfl)

/-- A cleanup spares what was just written. -/
theorem cleanup_keeps_new (hrounding : w.rounding = Binary64.roundRat) {place : Location}
    {file : File} (hnew : file.modified = w.clock) (base : String) :
    Action.Keeps (fun v => w.Alike v ∧ v.clock = w.clock ∧ v.fileAt? place = some file)
      (Snapshot.cleanup base maximumAge) := by
  refine Snapshot.cleanup_spares ?_ base
  rintro v path old ⟨halike, hclock, hfile⟩ hold hage
  refine ⟨halike.withoutFile _, hclock, ?_⟩
  rw [World.fileAt?_withoutFile, if_neg]
  · exact hfile
  · intro hplace
    rw [hplace] at hfile
    obtain rfl : file = old := Option.some.inj (hfile.symm.trans (World.fileAt?_of_file? hold))
    rw [hnew, ← hclock, isOlder_clock (halike.rounding.trans hrounding)] at hage
    exact Bool.false_ne_true hage

end Age

/-! ## A run with an environment -/

/-- The settings name the installation of the bootstrap, and a time limit that is accepted. -/
structure Accepts (settings : Settings) (b : Bootstrap) : Prop where
  installation : settings.installation = some b.installation
  nonempty : b.installation ≠ ""
  limit : ∃ seconds, settings.timeout = some seconds ∧ seconds.nonPositive = false ∧
    bootstrapOf b.installation seconds = .ok b

/-- How printing an environment ends: with an exit code, and a text on standard output. -/
def endOf (p : Palette) (settings : Settings) (environment : Environment) : ℕ × String :=
  match namesOf settings.only with
  | .ok names =>
    (ExitCode.success.toNat, printed p settings.format (sorted (selected names environment)))
  | .error failure => (exitCodeOf failure, "")

section Run

variable {p : Palette} {b : Bootstrap} {launcher : Launcher} {settings : Settings} {s : Session}

theorem Accepts.shell (h : Accepts settings b) : b.shell = none := by
  obtain ⟨seconds, -, -, hb⟩ := h.limit
  unfold bootstrapOf at hb
  split at hb
  · exact (congrArg Bootstrap.shell (Except.ok.inj hb)).symm
  · cases hb

theorem run_of_accepts (h : Accepts settings b)
    (hpackages : Package.Satisfied s.world.packages Requirements.standard) :
    run p launcher settings s = captureAndPrint p launcher settings b s := by
  obtain ⟨seconds, htimeout, hpositive, hb⟩ := h.limit
  have hlimit : timeLimitOf settings = .ok seconds := by rw [timeLimitOf, htimeout]
  have hrun : run p launcher settings =
      requiring p "toolchain environment capture" (captureAndPrint p launcher settings b) := by
    unfold run
    rw [h.installation]
    split
    · next heq => cases heq
    · next heq => exact absurd (Option.some.inj heq) h.nonempty
    · next heq =>
      rw [← Option.some.inj heq, hlimit, Action.lift_ok_bind, hpositive,
        if_neg Bool.false_ne_true, hb, Action.lift_ok_bind]
  rw [hrun, requiring_of_satisfied hpackages]

theorem prints_captureAndPrint {environment : Environment}
    (hcapture : (capture p b launcher settings.params settings.cache s).1.result =
      .ok (some environment))
    (houtput : (capture p b launcher settings.params settings.cache s).2.console.output =
      s.console.output) :
    Prints (guarded p (captureAndPrint p launcher settings b)) s
      (endOf p settings environment).1 (endOf p settings environment).2 := by
  unfold endOf
  cases hnames : namesOf settings.only with
  | ok names =>
    have hprints : Prints (captureAndPrint p launcher settings b) s .success
        (printed p settings.format (sorted (selected names environment))) := by
      unfold captureAndPrint
      constructor
      · rw [Action.result_bind_of_ok hcapture, hnames]
        rfl
      · rw [Action.snd_bind_of_ok hcapture, hnames, ← houtput]
        rfl
    exact hprints.guarded p
  | error failure =>
    have hhandled : isAbandoned failure = false := by
      unfold namesOf at hnames
      split at hnames
      · cases hnames
      · cases hnames
        rfl
    refine prints_guarded_of_error ?_ hhandled ?_ p
    · unfold captureAndPrint
      rw [Action.result_bind_of_ok hcapture, hnames]
      rfl
    · unfold captureAndPrint
      rw [Action.snd_bind_of_ok hcapture, hnames, String.append_empty, ← houtput]
      rfl

theorem captureAndPrint_state {P : Session → Prop} (hP : Lasting P)
    (h : P (capture p b launcher settings.params settings.cache s).2) :
    P (captureAndPrint p launcher settings b s).2 := by
  have hspec : Action.Spec (fun r => r = s) (captureAndPrint p launcher settings b)
      (fun _ => P) fun _ => P := by
    refine .bind (M := fun _ => P) (.of_state ?_) fun found => ?_
    · rintro r rfl
      exact h
    · cases found with
      | none => exact .bind (hP.complain _) fun _ => .pure fun _ hr => hr
      | some environment =>
        refine .bind (M := fun _ => P) (.of_state fun r hr => hr) fun names => ?_
        exact .bind (hP.print _) fun _ => .pure fun _ hr => hr
  exact hspec.state rfl

theorem guarded_run (launcher : Launcher) (h : Accepts settings b)
    (hpackages : Package.Satisfied s.world.packages Requirements.standard) (p : Palette) :
    guarded p (run p launcher settings) (started s) =
      guarded p (captureAndPrint p launcher settings b) (started s) :=
  guarded_congr (run_of_accepts (s := started s) h hpackages) p

section Command

variable {program : String} {arguments : List String}
  (hparse : parse s.world.environment arguments = .ok settings) (haccepts : Accepts settings b)
  (hpackages : Package.Satisfied s.world.packages Requirements.standard)
include hparse haccepts hpackages

/-- A run that has an environment ends with printing it. -/
theorem prints_main_of_capture {environment : Environment}
    (hcapture : (capture (paletteFor settings.noColor s.world) b launcher settings.params
      settings.cache (started s)).1.result = .ok (some environment))
    (houtput : (capture (paletteFor settings.noColor s.world) b launcher settings.params
      settings.cache (started s)).2.console.output = s.console.output) :
    Prints (main program launcher arguments) s
      (.code (endOf (paletteFor settings.noColor s.world) settings environment).1)
      (endOf (paletteFor settings.noColor s.world) settings environment).2 := by
  have hprints := prints_captureAndPrint hcapture houtput
  have hguarded := guarded_run launcher haccepts hpackages
    (paletteFor settings.noColor s.world)
  have hmain : Prints (command program (.ok settings) fun settings => do
      let p ← Action.view fun s => paletteFor settings.noColor s.world
      guarded p (run p launcher settings)) s
      (.code (endOf (paletteFor settings.noColor s.world) settings environment).1)
      (endOf (paletteFor settings.noColor s.world) settings environment).2 := by
    refine Prints.command ⟨?_, ?_⟩ program
    · exact (congrArg (·.1.result) hguarded).trans hprints.result
    · exact (congrArg (·.2.console.output) hguarded).trans hprints.output
  constructor
  · rw [main, hparse]
    exact hmain.result
  · rw [main, hparse]
    exact hmain.output

/-- What lasts from the capture to the end of the run. -/
theorem main_state {P : Session → Prop} (hP : Lasting P)
    (h : P (capture (paletteFor settings.noColor s.world) b launcher settings.params
      settings.cache (started s)).2) : P (main program launcher arguments s).2 := by
  rw [main, hparse]
  refine hP.command ?_ program
  change P (guarded (paletteFor settings.noColor s.world)
    (run (paletteFor settings.noColor s.world) launcher settings) (started s)).2
  rw [guarded_run launcher haccepts hpackages]
  exact hP.guarded (captureAndPrint_state hP h) _

end Command
end Run

/-! ## A run that stores an environment -/

/-- The parameters have a name, no stored snapshot serves, the script gives an environment, and this
    is stored. -/
structure Stores (b : Bootstrap) (launcher : Launcher) (params : Option String)
    (directory : String) (environment : Environment) (s : Session) : Prop where
  named : Snapshot.requireName params = .ok ()
  missed : (Snapshot.load directory params b.scriptPath (some maximumAge) s.world).1.result =
    .ok none
  captured : (b.fetch launcher params (lookedUp b params directory s)).1.result =
    .ok (some environment)
  saved : (Snapshot.save directory params environment b.scriptPath
    (lookedUp b params directory s).world).1.result = .ok true

section Stores

variable {p : Palette} {b : Bootstrap} {launcher : Launcher} {params : Option String}
  {directory : String} {environment : Environment} {s : Session}

theorem keep_keeps {P : Session → Prop}
    (hP : ∀ s w, P s → P { s with world := w }) (b : Bootstrap) (params : Option String)
    (directory : String) (environment : Environment) :
    Action.Keeps P (keep b params directory environment) :=
  .bind (.of_state fun s hs => hP s _ hs) fun _ =>
    .bind (.of_state fun s hs => hP s _ hs) fun _ => .pure _

/-- What runs of the script leave behind stays so while the environment is stored. -/
theorem fresh_state {P : Session → Prop} (hP : ∀ s w, P s → P { s with world := w })
    (h : P (b.fetch launcher params s).2) : P (fresh b launcher params directory s).2 := by
  have hfresh : Action.Spec (fun r => r = s) (fresh b launcher params directory) (fun _ => P)
      fun _ => P := by
    refine .bind (M := fun _ => P) (.of_state ?_) fun found => ?_
    · rintro r rfl
      exact h
    · cases found with
      | none => exact .pure fun _ hr => hr
      | some environment =>
        exact .bind (keep_keeps hP b params directory environment) fun _ => .pure fun _ hr => hr
  exact hfresh.state rfl

/-- A save that succeeds puts a snapshot in place that is as new as can be. -/
theorem fileAt?_save {w : World} {script : String}
    (h : (Snapshot.save directory params environment script w).1.result = .ok true)
    {file : File} (hscript : w.file? script = some file) :
    (Snapshot.save directory params environment script w).2.clock = w.clock ∧
      w.Alike (Snapshot.save directory params environment script w).2 ∧
      (Snapshot.save directory params environment script w).2.fileAt?
        (w.locate (Snapshot.path directory params)) =
          some (Snapshot.fileOf w params environment file.modified) := by
  obtain ⟨modified, hmodified, -, hsaved⟩ :=
    ((Snapshot.save_exact w directory params environment script).of_ok rfl h).1 rfl
  have hensured := Snapshot.ensureStore_sameBut w directory []
  obtain rfl : file.modified = modified := by
    have htime := Files.unlessFault_eq_ok hmodified
    rw [Snapshot.file?_ensureStore, hscript] at htime
    exact Except.ok.inj htime
  refine ⟨?_, ?_, ?_⟩
  · rw [hsaved, Snapshot.replaced, World.clock_withFile, World.clock_withoutFile,
      World.clock_withFile, hensured.clock]
  · rw [hsaved, Snapshot.replaced]
    exact ((hensured.alike.withFile _ _).withoutFile _).withFile _ _
  · rw [hsaved, Snapshot.replaced, World.fileAt?_withFile, if_pos (hensured.alike.locate _).symm,
      Snapshot.fileOf, hensured.clock, Snapshot.fileOf]

/-- A run of the script whose environment is stored leaves it in place. -/
theorem fileAt?_fresh (hrounding : s.world.rounding = Binary64.roundRat)
    (hfetch : (b.fetch launcher params s).1.result = .ok (some environment))
    (hsave : (Snapshot.save directory params environment b.scriptPath s.world).1.result = .ok true)
    {file : File} (hscript : s.world.file? b.scriptPath = some file) :
    s.world.Alike (fresh b launcher params directory s).2.world ∧
      (fresh b launcher params directory s).2.world.fileAt?
        (s.world.locate (Snapshot.path directory params)) =
          some (Snapshot.fileOf s.world params environment file.modified) := by
  obtain ⟨hclock, halike, hfile⟩ := fileAt?_save hsave hscript
  let left (w : World) : Prop :=
    (Snapshot.save directory params environment b.scriptPath s.world).2.Alike w ∧
      w.clock = (Snapshot.save directory params environment b.scriptPath s.world).2.clock ∧
      w.fileAt? (s.world.locate (Snapshot.path directory params)) =
        some (Snapshot.fileOf s.world params environment file.modified)
  have hcleanup : Action.Keeps left (Snapshot.cleanup directory maximumAge) :=
    cleanup_keeps_new (halike.rounding.trans hrounding) hclock.symm directory
  have hkeep : Action.Spec (fun r : Session => r.world = s.world)
      (keep b params directory environment) (fun _ r => left r.world) fun _ r => left r.world := by
    refine .bind (M := fun _ r => left r.world) (.of_state ?_) fun _ =>
      .bind (Session.files_keeps hcleanup) fun _ => .pure fun _ hr => hr
    intro r hr
    rw [Session.files_apply, hr]
    exact ⟨.refl _, rfl, hfile⟩
  have hworld := b.fetch_world launcher params s
  have hleft : left (fresh b launcher params directory s).2.world := by
    unfold fresh
    rw [Action.snd_bind_of_ok hfetch]
    exact (Action.Spec.bind hkeep fun _ => .pure fun _ hr => hr).state
      (R := fun r : Session => left r.world) hworld
  exact ⟨halike.trans hleft.1, hleft.2.2⟩

/-- If none serves and the script gives an environment, that is answered, and nothing is said. -/
theorem capture_of_fetch (hdirectory : directory ≠ "") (hplaced : Placed params directory)
    (hfaults : s.world.faults = [])
    (hmissed : (Snapshot.load directory params b.scriptPath (some maximumAge) s.world).1.result =
      .ok none)
    (hfetch : (b.fetch launcher params (lookedUp b params directory s)).1.result =
      .ok (some environment)) :
    (capture p b launcher params (some directory) s).1.result = .ok (some environment) ∧
      (capture p b launcher params (some directory) s).2.console = s.console := by
  have hmild : Snapshot.Mild (lookedUp b params directory s).world directory b.scriptPath := by
    refine .of_faults ?_ _ _
    rw [(lookedUp_within b params directory s).alike.faults, hfaults]
    exact fun _ hfault => absurd hfault List.not_mem_nil
  obtain ⟨hresult, hstate⟩ := capture_of_miss p launcher hdirectory hplaced.name hmissed
  constructor
  · rw [hresult, (fresh_cases launcher params hmild hplaced.directory).1, hfetch]
  · rw [hstate]
    refine fresh_state (P := fun r => r.console = s.console) (fun _ _ hr => hr) ?_
    rw [b.fetch_console, console_lookedUp]

namespace Stores

variable (h : Stores b launcher params directory environment s)
include h

theorem exists_script : ∃ file, (lookedUp b params directory s).world.file? b.scriptPath = some file ∧
    s.world.file? b.scriptPath = some file := by
  obtain ⟨file, hfile⟩ := Option.isSome_iff_exists.1 (Bootstrap.isFile_of_fetch h.captured)
  exact ⟨file, hfile, (lookedUp_within b params directory s).file? hfile⟩

/-- The environment lies in place. -/
theorem file?_capture (hdirectory : directory ≠ "")
    (hrounding : s.world.rounding = Binary64.roundRat) {file : File}
    (hscript : s.world.file? b.scriptPath = some file) :
    (capture p b launcher params (some directory) s).2.world.file?
      (Snapshot.path directory params) =
        some (Snapshot.fileOf s.world params environment file.modified) := by
  have hwithin := lookedUp_within b params directory s
  obtain ⟨there, hthere, hsame⟩ := h.exists_script
  obtain rfl : file = there := Option.some.inj (hscript.symm.trans hsame)
  obtain ⟨halike, hfile⟩ := fileAt?_fresh (hwithin.alike.rounding.trans hrounding) h.captured
    h.saved hthere
  rw [(capture_of_miss p launcher hdirectory h.named h.missed).2,
    World.file?_of_ne_empty _ (Snapshot.path_ne_empty directory params), halike.locate, hfile,
    Snapshot.fileOf, hwithin.clock, Snapshot.fileOf]

theorem exists_shell (hshell : b.shell = none) (hdetected : s.detected = {}) :
    ∃ tool, Tools.searchShell s.world = some tool := by
  obtain ⟨tool, htool⟩ := Bootstrap.exists_shell_of_fetch hshell h.captured
  refine ⟨tool, ?_⟩
  rw [← Tools.searchShell_congr (lookedUp_within b params directory s).alike, ← htool,
    detected_lookedUp, hdetected]
  rfl

end Stores
end Stores

/-! ## A later run -/

/-- The surroundings of a later run: the script is as it was before the first run, and what lies
    at the place of the snapshot is what was there after it. -/
structure Later (directory : String) (params : Option String) (script : String)
    (before after later : World) : Prop where
  faults : later.faults = []
  rounding : later.rounding = before.rounding
  packages : later.packages = before.packages
  shell : Tools.searchShell later = Tools.searchShell before
  script : later.file? script = before.file? script
  snapshot : later.file? (Snapshot.path directory params) =
    after.file? (Snapshot.path directory params)

/-- What is loaded later: the environment as long as the time that went by is at most a week. -/
theorem load_later {w : World} (hfaults : w.faults = [])
    (hrounding : w.rounding = Binary64.roundRat) {directory : String} {params : Option String}
    {environment : Environment} {script : String} {file : File} {before : World}
    (hscript : w.file? script = some file)
    (hstored : w.file? (Snapshot.path directory params) =
      some (Snapshot.fileOf before params environment file.modified)) :
    (Snapshot.load directory params script (some maximumAge) w).1.result =
      .ok (if w.rounding (w.clock - before.clock) ≤ maximumAge * hour then some environment
        else none) ∧
      (Snapshot.load directory params script (some maximumAge) w).2 = w := by
  obtain ⟨valid, hresult, hstate, hserves⟩ := Snapshot.load_of_snapshot hfaults
    (World.fileAt?_of_file? hstored) script (some maximumAge)
  refine ⟨?_, hstate⟩
  rw [hresult]
  by_cases hage : w.rounding (w.clock - before.clock) ≤ maximumAge * hour
  · rw [if_pos hage, if_pos (hserves.2 ⟨rfl, ?_, ?_, ?_⟩)]
    · rw [World.exists?, World.isFile, hscript, Option.isSome_some, Bool.true_or]
    · dsimp only [Files.modified]
      rw [Files.unlessFault_of_faults hfaults, hscript]
    · rintro hours ⟨⟩
      exact age_le_maximumAge hrounding hage
  · rw [if_neg hage, if_neg]
    intro hvalid
    exact absurd ((hserves.1 hvalid).recent maximumAge rfl)
      (not_le.2 (maximumAge_lt_age hrounding (not_le.1 hage)))

/-- A run that prints a stored environment: it starts nothing, and says where that is from. -/
structure Reuses (run : Action Session Exit) (settings : Settings) (environment : Environment)
    (s : Session) : Prop where
  prints : Prints run s
    (.code (endOf (paletteFor settings.noColor s.world) settings environment).1)
    (endOf (paletteFor settings.noColor s.world) settings environment).2
  requests : (run s).2.requests = s.requests
  traces : (run s).2.traces = s.traces
  errors : ∃ more, (run s).2.console.errors =
    s.console.errors ++ notice (paletteFor settings.noColor s.world) ++ more

/-- A run that captures: it asks for the script to be run, and prints what that gives. -/
structure Captures (run : Action Session Exit) (b : Bootstrap) (launcher : Launcher)
    (settings : Settings) (s : Session) : Prop where
  requests : ∃ tool, Tools.searchShell s.world = some tool ∧ (run s).2.requests = s.requests ++
    [⟨tool.command, CompileCommands.Capture.arguments b.scriptPath settings.params s.world.freshId,
      b.seconds⟩]
  prints : ∀ environment,
    (b.fetch launcher settings.params (started s)).1.result = .ok (some environment) →
      Prints run s (.code (endOf (paletteFor settings.noColor s.world) settings environment).1)
        (endOf (paletteFor settings.noColor s.world) settings environment).2

section Runs

variable {program : String} {launcher : Launcher} {arguments : List String} {settings : Settings}
  {b : Bootstrap} {directory : String} {environment : Environment} {s : Session}
  (hparse : parse s.world.environment arguments = .ok settings) (haccepts : Accepts settings b)
  (hpackages : Package.Satisfied s.world.packages Requirements.standard)
  (hcache : settings.cache = some directory) (hdirectory : directory ≠ "")
include hparse haccepts hpackages hcache hdirectory

theorem prints_main_of_miss (hplaced : Placed settings.params directory)
    (hfaults : s.world.faults = [])
    (hmissed : (Snapshot.load directory settings.params b.scriptPath (some maximumAge)
      s.world).1.result = .ok none)
    (hfetch : (b.fetch launcher settings.params
      (lookedUp b settings.params directory (started s))).1.result = .ok (some environment)) :
    Prints (main program launcher arguments) s
      (.code (endOf (paletteFor settings.noColor s.world) settings environment).1)
      (endOf (paletteFor settings.noColor s.world) settings environment).2 := by
  obtain ⟨hresult, hconsole⟩ := capture_of_fetch (p := paletteFor settings.noColor s.world)
    (s := started s) hdirectory hplaced hfaults hmissed hfetch
  rw [← hcache] at hresult hconsole
  exact prints_main_of_capture hparse haccepts hpackages hresult
    (congrArg Console.output hconsole)

theorem reuses_main (hname : Snapshot.requireName settings.params = .ok ())
    (hload : (Snapshot.load directory settings.params b.scriptPath
      (some maximumAge) s.world).1.result = .ok (some environment)) :
    Reuses (main program launcher arguments) settings environment s := by
  obtain ⟨hresult, hafter⟩ := capture_of_hit (s := started s)
    (paletteFor settings.noColor s.world) launcher hdirectory hname hload
  rw [← hcache] at hresult hafter
  refine ⟨?prints, ?requests, ?traces, ?errors⟩
  case prints =>
    refine prints_main_of_capture hparse haccepts hpackages hresult ?_
    rw [hafter, Session.snd_complain, console_lookedUp]
    rfl
  case requests =>
    refine main_state hparse haccepts hpackages
      (lasting_processes fun requests _ => requests = s.requests) ?_
    rw [hafter, Session.snd_complain, requests_lookedUp]
    rfl
  case traces =>
    refine main_state hparse haccepts hpackages
      (lasting_processes fun _ traces => traces = s.traces) ?_
    rw [hafter, Session.snd_complain, traces_lookedUp]
    rfl
  case errors =>
    refine main_state hparse haccepts hpackages (lasting_errors _) ⟨"", ?_⟩
    rw [hafter, Session.snd_complain, String.append_empty, console_lookedUp]
    rfl

theorem captures_main (hplaced : Placed settings.params directory)
    (hfaults : s.world.faults = [])
    (hstate : (Snapshot.load directory settings.params b.scriptPath (some maximumAge) s.world).2 =
      s.world)
    (hmissed : (Snapshot.load directory settings.params b.scriptPath (some maximumAge)
      s.world).1.result = .ok none)
    (hscript : s.world.isFile b.scriptPath) {tool : Tool}
    (htool : Tools.searchShell s.world = some tool) :
    Captures (main program launcher arguments) b launcher settings s := by
  have hsame : lookedUp b settings.params directory (started s) = started s :=
    lookedUp_of_load hstate
  refine ⟨⟨tool, htool, ?requests⟩, fun environment hfetch => ?prints⟩
  case requests =>
    obtain ⟨-, hafter⟩ := capture_of_miss (s := started s)
      (paletteFor settings.noColor s.world) launcher hdirectory hplaced.name hmissed
    rw [hsame, ← hcache] at hafter
    refine main_state hparse haccepts hpackages (lasting_processes fun requests _ => requests = _) ?_
    rw [hafter]
    refine fresh_state (P := fun r => r.requests = _) (fun _ _ hr => hr) ?_
    exact Bootstrap.requests_fetch haccepts.shell htool hscript
  case prints =>
    rw [← hsame] at hfetch
    exact prints_main_of_miss hparse haccepts hpackages hcache hdirectory hplaced hfaults hmissed
      hfetch

end Runs

/-- **A stored environment is given for a week.** Without faults, let a run capture an environment
    and store it, and let a later run ask for the same installation, with the same parameters and
    the same directory for snapshots, where the script is as it was and the snapshot is in place.
    As long as the difference of the times, as it is computed, is at most 168 hours, the later run
    starts nothing and ends with printing that environment as it is asked to; this is so whenever
    not more than 168 hours went by. Once the difference is more, the script is run again. -/
theorem main_reuses (program program' : String) (launcher launcher' : Launcher)
    {arguments arguments' : List String} {settings settings' : Settings} {b b' : Bootstrap}
    {directory : String} {environment : Environment} {s s' : Session}
    (hparse : parse s.world.environment arguments = .ok settings)
    (hparse' : parse s'.world.environment arguments' = .ok settings')
    (haccepts : Accepts settings b) (haccepts' : Accepts settings' b')
    (hinstallation : settings'.installation = settings.installation)
    (hparams : settings'.params = settings.params) (hcache : settings.cache = some directory)
    (hcache' : settings'.cache = some directory) (hdirectory : directory ≠ "")
    (hpackages : Package.Satisfied s.world.packages Requirements.standard)
    (hfaults : s.world.faults = []) (hrounding : s.world.rounding = Binary64.roundRat)
    (hstores : Stores b launcher settings.params directory environment (started s))
    (hlater : Later directory settings.params b.scriptPath s.world
      (main program launcher arguments s).2.world s'.world) :
    Prints (main program launcher arguments) s
      (.code (endOf (paletteFor settings.noColor s.world) settings environment).1)
      (endOf (paletteFor settings.noColor s.world) settings environment).2 ∧
    (s'.world.clock ≤ s.world.clock + maximumAge * hour →
      s'.world.rounding (s'.world.clock - s.world.clock) ≤ maximumAge * hour) ∧
    (s'.world.rounding (s'.world.clock - s.world.clock) ≤ maximumAge * hour →
      Reuses (main program' launcher' arguments') settings' environment s') ∧
    (maximumAge * hour < s'.world.rounding (s'.world.clock - s.world.clock) →
      Captures (main program' launcher' arguments') b' launcher' settings' s') := by
  have hpackages' : Package.Satisfied s'.world.packages Requirements.standard :=
    hlater.packages ▸ hpackages
  have hrounding' := hlater.rounding.trans hrounding
  have hscriptPath : b'.scriptPath = b.scriptPath := by
    have hsame := haccepts'.installation.symm.trans (hinstallation.trans haccepts.installation)
    rw [Bootstrap.scriptPath, Bootstrap.scriptPath, Option.some.inj hsame]
  obtain ⟨file, -, hfile⟩ := hstores.exists_script
  have hscript : s'.world.file? b'.scriptPath = some file := by
    rw [hscriptPath, hlater.script]
    exact hfile
  -- What the first run leaves in place is loaded by the later one.
  have hstored : (main program launcher arguments s).2.world.file?
      (Snapshot.path directory settings.params) =
        some (Snapshot.fileOf s.world settings.params environment file.modified) := by
    refine main_state hparse haccepts hpackages (lasting_world fun w => w.file? _ = _) ?_
    rw [hcache]
    exact hstores.file?_capture hdirectory hrounding hfile
  rw [← hlater.snapshot, ← hparams] at hstored
  obtain ⟨hload, hstate⟩ := load_later hlater.faults hrounding' hscript hstored
  obtain ⟨tool, htool⟩ := hstores.exists_shell haccepts.shell rfl
  have hplaced : Placed settings.params directory :=
    ⟨hstores.named, Snapshot.refusal?_of_save hstores.saved⟩
  have hplaced' : Placed settings'.params directory := hparams ▸ hplaced
  refine ⟨?_, rounded_le_week hrounding', fun hweek => ?_, fun hweek => ?_⟩
  · exact prints_main_of_miss hparse haccepts hpackages hcache hdirectory hplaced hfaults
      hstores.missed hstores.captured
  · rw [if_pos hweek] at hload
    exact reuses_main hparse' haccepts' hpackages' hcache' hdirectory hplaced'.name hload
  · rw [if_neg (not_le.2 hweek)] at hload
    refine captures_main hparse' haccepts' hpackages' hcache' hdirectory hplaced' hlater.faults
      hstate hload ?_ (hlater.shell.trans htool)
    rw [World.isFile, hscript, Option.isSome_some]

/-- The packages and an installation, at a time. -/
def prepared (clock : ℚ) : Session where
  world := ({ freshId := "1", environment := [("COMSPEC", "cmd")], clock,
              packages := [("GitPython", "3.1.44"), ("packaging", "24.2"), ("colorama", "0.4.6")] } :
    World).placing (Tools.scriptPath "/a") ⟨.bytes [], 5⟩

/-- The arguments of a run that stores. -/
def storing : List String := ["--install-root", "/a", "--cache-dir", "/c"]

/-- Later surroundings, with the snapshot of such a run. -/
def stocked (clock later : ℚ) : Session where
  world := (prepared later).world.placing (Snapshot.path "/c" none)
    ⟨.snapshot ⟨⟨"", 5, clock⟩, [("LIB", "a")]⟩, clock⟩

/-- An hour later the environment is given, as an object. -/
theorem main_hourLater :
    Reuses (main "env" (printing "LIB=b") (storing ++ ["--format", "json"]))
      { installation := some "/a", cache := some "/c", format := .json } [("LIB", "a")]
      (stocked 0 3600) := by
  have hlimit : ((Binary64.ofInt 30).timesNat 1000).truncate? = some 30000 := by decide +kernel
  have haccepts (format : Format) :
      Accepts { installation := some "/a", cache := some "/c", format } { installation := "/a" } :=
    ⟨rfl, by decide, _, rfl, by decide, by rw [bootstrapOf, hlimit]⟩
  have hpackages : Package.Satisfied (prepared 0).world.packages Requirements.standard := by
    unfold Package.Satisfied
    decide +kernel
  have hstores : Stores { installation := "/a" } (printing "LIB=a") none "/c" [("LIB", "a")]
      (started (prepared 0)) :=
    ⟨by decide, by decide +kernel, by decide +kernel, by decide +kernel⟩
  have hlater : Later "/c" none (Tools.scriptPath "/a") (prepared 0).world
      (main "env" (printing "LIB=a") storing (prepared 0)).2.world (stocked 0 3600).world :=
    ⟨rfl, rfl, rfl, by decide +kernel, by decide +kernel, by decide +kernel⟩
  have hparse : parse (prepared 0).world.environment storing =
      .ok { installation := some "/a", cache := some "/c" } := by decide +kernel
  have hparse' : parse (stocked 0 3600).world.environment (storing ++ ["--format", "json"]) =
      .ok { installation := some "/a", cache := some "/c", format := .json } := by decide +kernel
  have hreuses := main_reuses "env" "env" (printing "LIB=a") (printing "LIB=b") hparse hparse'
    (haccepts .text) (haccepts .json) rfl rfl rfl rfl (by decide) hpackages rfl rfl hstores hlater
  have htime : (stocked 0 3600).world.clock ≤ (prepared 0).world.clock + maximumAge * hour := by
    decide +kernel
  exact hreuses.2.2.1 (hreuses.2.1 htime)

/-- More than 168 hours can go by that are computed as 168 hours, and then the environment is still
    given. -/
theorem main_roundedWeek :
    let s := prepared (3 / 2 ^ 35)
    let s' := stocked (3 / 2 ^ 35) (604800 + 1 / 2 ^ 33)
    maximumAge * hour < s'.world.clock - s.world.clock ∧
    (main "env" (printing "LIB=a") storing s).1.result = .ok (.code 0) ∧
    (main "env" (printing "LIB=a") storing s).2.requests.length = 1 ∧
    s'.world.file? (Snapshot.path "/c" none) =
      (main "env" (printing "LIB=a") storing s).2.world.file? (Snapshot.path "/c" none) ∧
    (main "env" (printing "LIB=b") storing s').1.result = .ok (.code 0) ∧
    (main "env" (printing "LIB=b") storing s').2.requests = [] := by
  decide +kernel

end CompileCommands.Cli.Capture
