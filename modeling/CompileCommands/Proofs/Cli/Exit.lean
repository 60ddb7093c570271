/-
  From the run of a command to its end.

  * `Package.Satisfied`: all required packages are there;
  * `Cli.requiring_of_satisfied`: then a run that requires them is the run itself;
  * `Cli.Prints`: an action answers, and prints a text on standard output;
  * `Cli.guarded_of_ok`, `Cli.guarded_of_error`: a run comes to an exit code, unless, by
    `Cli.guarded_of_abandoned`, it is abandoned;
  * `Cli.Prints.guarded`, `Cli.prints_guarded_of_error`: nothing is printed there for a failure;
  * `Cli.Prints.command`: the end of a command with parsed arguments; `Cli.command_of_ending`,
    `Cli.command_congr`: that of one whose arguments end it, and of two that run alike;
  * `Cli.Lasting`: a property of sessions that lasts while output is added and tools are forgotten;
    `Cli.Lasting.guarded`, `Cli.Lasting.command`: it holds at the end if it holds after the run.
-/
import CompileCommands.Proofs.Package.Checks

namespace CompileCommands

/-! ## Packages -/

namespace Package

/-- The status of every required package is good. -/
def Satisfied (packages : Bindings String) (requirements : Requirements) : Prop :=
  ∀ name ∈ requirements.map (·.1),
    (status .standard packages requirements name none).toOption.any Status.isGood

variable {requirements : Requirements} {s : Session}

theorem exists_of_isGood {packages : Bindings String} {name : String}
    (h : (status .standard packages requirements name none).toOption.any Status.isGood) :
    ∃ minimum version, requirements.get? name = some minimum ∧
      statusOf .standard packages name minimum = .ok (.installed version true) := by
  unfold status minimumOf at h
  cases hminimum : requirements.get? name with
  | none =>
    rw [hminimum] at h
    cases h
  | some minimum =>
    rw [hminimum] at h
    change (statusOf .standard packages name minimum).toOption.any Status.isGood = true at h
    cases hstatus : statusOf .standard packages name minimum with
    | error failure =>
      rw [hstatus] at h
      cases h
    | ok found =>
      rw [hstatus] at h
      cases found with
      | missing => cases h
      | installed version isEnough =>
        obtain rfl : isEnough = true := h
        exact ⟨minimum, version, rfl, hstatus⟩

theorem requireEach_of_isGood {names : List String} (h : ∀ name ∈ names,
      (status .standard s.world.packages requirements name none).toOption.any Status.isGood)
    (p : Palette) (context : String) :
    requireEach .standard p requirements context names s = (.ok true, s) := by
  induction names with
  | nil => rfl
  | cons name names ih =>
    rw [List.forall_mem_cons] at h
    obtain ⟨minimum, version, hminimum, hstatus⟩ := exists_of_isGood h.1
    rw [requireEach, Action.bind_apply,
      require_of_isGood Versions.isTotal_standard hminimum hstatus]
    exact ih h.2

theorem requireAll_of_satisfied (h : Satisfied s.world.packages requirements) (p : Palette)
    (context : String) : requireAll .standard p requirements context s = (.ok true, s) :=
  requireEach_of_isGood h p context

end Package

namespace Cli

/-! ## Runs -/

/-- An action answers and prints a text on standard output. -/
structure Prints {α : Type} (x : Action Session α) (s : Session) (a : α) (text : String) :
    Prop where
  result : (x s).1.result = .ok a
  output : (x s).2.console.output = s.console.output ++ text

variable {s : Session} {p : Palette} {text : String}

theorem requiring_of_satisfied (h : Package.Satisfied s.world.packages Requirements.standard)
    (purpose : String) (run : Action Session ExitCode) : requiring p purpose run s = run s := by
  rw [requiring, provided, Action.bind_apply, Package.requireAll_of_satisfied h]
  rfl

theorem guarded_of_ok {run : Action Session ExitCode} {code : ExitCode}
    (h : (run s).1.result = .ok code) (p : Palette) :
    (guarded p run s).1.result = .ok code.toNat ∧ (guarded p run s).2 = (run s).2 := by
  have hcode : ((do return (← run).toNat : Action Session Nat) s).1.result = .ok code.toNat :=
    Action.result_bind_of_ok h
  exact ⟨Action.result_recover_of_ok hcode,
    (congrArg (·.2) (Action.recover_of_ok hcode)).trans (Action.snd_bind_of_ok h)⟩

section Failures

variable {run : Action Session ExitCode} {failure : Failure}
  (h : (run s).1.result = .error failure)
include h

theorem guarded_of_error (hhandled : isAbandoned failure = false) (p : Palette) :
    (guarded p run s).1.result = .ok (exitCodeOf failure) ∧
      (guarded p run s).2 = (Session.complain (explanation p failure) (run s).2).2 := by
  have hcode : ((do return (← run).toNat : Action Session Nat) s).1.result = .error failure :=
    Action.result_bind_of_error h
  have hstate : ((do return (← run).toNat : Action Session Nat) s).2 = (run s).2 :=
    Action.snd_bind_of_error h
  unfold guarded
  constructor
  · rw [Action.result_recover_of_error hcode, hhandled]
    rfl
  · rw [Action.recover_of_error hcode, hhandled, hstate]
    rfl

/-- An abandoned run goes past the command. -/
theorem guarded_of_abandoned (habandoned : isAbandoned failure = true) (p : Palette) :
    (guarded p run s).1.result = .error failure ∧ (guarded p run s).2 = (run s).2 := by
  have hcode : ((do return (← run).toNat : Action Session Nat) s).1.result = .error failure :=
    Action.result_bind_of_error h
  have hstate : ((do return (← run).toNat : Action Session Nat) s).2 = (run s).2 :=
    Action.snd_bind_of_error h
  unfold guarded
  constructor
  · rw [Action.result_recover_of_error hcode, habandoned]
    rfl
  · rw [Action.recover_of_error hcode, habandoned, hstate]
    rfl

end Failures

/-- A run that answers comes to its exit code. -/
theorem Prints.guarded {run : Action Session ExitCode} {code : ExitCode}
    (h : Prints run s code text) (p : Palette) : Prints (guarded p run) s code.toNat text := by
  obtain ⟨hresult, hstate⟩ := guarded_of_ok h.result p
  exact ⟨hresult, by rw [hstate, h.output]⟩

/-- A run that fails comes to the exit code of the failure, and prints no more. -/
theorem prints_guarded_of_error {run : Action Session ExitCode} {failure : Failure}
    (hfailure : (run s).1.result = .error failure) (hhandled : isAbandoned failure = false)
    (houtput : (run s).2.console.output = s.console.output ++ text) (p : Palette) :
    Prints (guarded p run) s (exitCodeOf failure) text := by
  obtain ⟨hresult, hstate⟩ := guarded_of_error hfailure hhandled p
  refine ⟨hresult, ?_⟩
  rw [hstate, ← houtput]
  rfl

theorem guarded_congr {run run' : Action Session ExitCode} (h : run s = run' s) (p : Palette) :
    guarded p run s = guarded p run' s := by
  dsimp only [guarded, Action.recover]
  rw [Action.bind_apply, Action.bind_apply, h]

/-! ## Commands -/

/-- The session at the start of a command. -/
def started (s : Session) : Session :=
  { s with detected := {} }

/-- A command that ends before it begins runs nothing. -/
theorem command_of_ending {σ : Type} (program : String) (e : Ending)
    (run run' : σ → Action Session Nat) (s : Session) :
    command program (.error e) run s = command program (.error e) run' (started s) := by
  cases e <;> rfl

/-- Only what is run from the start counts. -/
theorem command_congr {σ : Type} {settings : σ} {run run' : σ → Action Session Nat}
    (h : run settings (started s) = run' settings (started s)) (program : String) :
    command program (.ok settings) run s = command program (.ok settings) run' (started s) := by
  change ((run settings >>= fun code => pure (Exit.code code)) >>= fun exit => do
      Session.forgetTools
      return exit) (started s) =
    ((run' settings >>= fun code => pure (Exit.code code)) >>= fun exit => do
      Session.forgetTools
      return exit) (started s)
  rw [Action.bind_apply, Action.bind_apply, Action.bind_apply, Action.bind_apply, h]

theorem result_command {σ : Type} {settings : σ} {run : σ → Action Session Nat} {code : Nat}
    (h : (run settings (started s)).1.result = .ok code) (program : String) :
    (command program (.ok settings) run s).1.result = .ok (.code code) := by
  have hbegun : (begun program (.ok settings) run (started s)).1.result = .ok (.code code) :=
    Action.result_bind_of_ok h
  have hforget : (Session.forgetTools s).1.result = .ok () := rfl
  exact (Action.result_bind_of_ok hforget).trans (Action.result_bind_of_ok hbegun)

/-- A command with parsed arguments ends as its run does. -/
theorem Prints.command {σ : Type} {settings : σ} {run : σ → Action Session Nat} {code : Nat}
    (h : Prints (run settings) (started s) code text) (program : String) :
    Prints (command program (.ok settings) run) s (.code code) text := by
  have hresult : (begun program (.ok settings) run (started s)).1.result = .ok (.code code) :=
    Action.result_bind_of_ok h.result
  have hstate : (begun program (.ok settings) run (started s)).2 = (run settings (started s)).2 :=
    Action.snd_bind_of_ok h.result
  have hforget : (Session.forgetTools s).1.result = .ok () := rfl
  refine ⟨result_command h.result program, Eq.trans ?_ h.output⟩
  unfold Cli.command
  rw [Action.snd_bind_of_ok hforget, ← hstate]
  exact congrArg (·.console.output) (Action.snd_bind_of_ok hresult)

/-! ## What lasts -/

/-- A property of sessions that lasts while output is added and tools are forgotten. -/
structure Lasting (P : Session → Prop) : Prop where
  print : ∀ text, Action.Keeps P (Session.print text)
  complain : ∀ text, Action.Keeps P (Session.complain text)
  forget : Action.Keeps P Session.forgetTools

namespace Lasting

variable {P : Session → Prop} (hP : Lasting P)
include hP

theorem guarded {run : Action Session ExitCode} (h : P (run s).2) (p : Palette) :
    P (Cli.guarded p run s).2 := by
  have hrun : Action.Spec (fun r => r = s) run (fun _ => P) fun _ => P := by
    refine .of_state ?_
    rintro r rfl
    exact h
  have hguarded : Action.Spec (fun r => r = s) (Cli.guarded p run) (fun _ => P) fun _ => P := by
    refine .recover (.bind hrun fun code => .pure fun _ hr => hr) fun failure => ?_
    refine .ite (fun _ => .fail fun _ hr => hr) fun _ => ?_
    exact .bind (hP.complain _) fun _ => .pure fun _ hr => hr
  exact hguarded.state rfl

theorem command {σ : Type} {settings : σ} {run : σ → Action Session Nat}
    (h : P (run settings (started s)).2) (program : String) :
    P (Cli.command program (.ok settings) run s).2 := by
  have hrun : Action.Spec (fun r => r = started s) (begun program (.ok settings) run)
      (fun _ => P) fun _ => P := by
    change Action.Spec _ (run settings >>= fun code => pure (Exit.code code)) _ _
    refine .bind (M := fun _ => P) (.of_state ?_) fun _ => .pure fun _ hr => hr
    rintro r rfl
    exact h
  have hcommand : Action.Spec (fun r => r = s) (Cli.command program (.ok settings) run)
      (fun _ => P) fun _ => P := by
    refine .bind (M := fun _ r => r = started s) ⟨?_⟩ fun _ => .bind hrun fun exit => ?_
    · rintro r rfl
      rfl
    · exact .bind hP.forget fun _ => .pure fun _ hr => hr
  exact hcommand.state rfl

end Lasting

theorem lasting_world (P : World → Prop) : Lasting fun s => P s.world :=
  ⟨fun _ => .of_state fun _ hs => hs, fun _ => .of_state fun _ hs => hs, .of_state fun _ hs => hs⟩

theorem lasting_processes (P : List Launch.Request → List Launch.Trace → Prop) :
    Lasting fun s => P s.requests s.traces :=
  ⟨fun _ => .of_state fun _ hs => hs, fun _ => .of_state fun _ hs => hs, .of_state fun _ hs => hs⟩

/-- What was said is not taken back. -/
theorem lasting_errors (text : String) :
    Lasting fun s => ∃ more, s.console.errors = text ++ more := by
  refine ⟨fun _ => .of_state fun _ hs => hs, fun said => .of_state ?_, .of_state fun _ hs => hs⟩
  rintro s ⟨more, hmore⟩
  refine ⟨more ++ said, ?_⟩
  rw [← String.append_assoc, ← hmore]
  rfl

end Cli
end CompileCommands
