/-
  The exit codes with which commands end.

  * `Failure.IsInterrupt`: an interrupt, as such or taken by the command's own handler;
    `Failure.IsOrdinary`: a failure that has no exit code of its own;
  * `Failure.IsRegular`: a failure as calls and processes give them; `IsOwn.isRegular`: the
    library's own failures are of that kind;
  * `NeverInterrupted`: a run that does not answer with the exit code of an interrupt: both runs are
    such, by `Locate.neverInterrupted_run` and `Capture.neverInterrupted_run`;
  * `outcome`: what reaches a command from its run; `EndsWith`, `Means`: the end that goes with it,
    and what its exit code says if only regular failures come up;
  * `Ends`, `ends_command`: how a command with parsed arguments ends;
  * `main_ends`: each command ends like this; `main_irregular`: what else its exit code may say.
-/
import CompileCommands.Proofs.Cli.Failing
import CompileCommands.Proofs.Cli.Locate

namespace CompileCommands

/-! ## Failures -/

namespace Failure

/-- The user interrupts, or the signal of an interrupt reaches the command's own handler. -/
def IsInterrupt : Failure → Prop
  | incident .interrupt _ | incident .signal _ => True
  | _ => False

/-- A failure that carries no exit code, and is none of those by which a program is ended. -/
def IsOrdinary : Failure → Prop
  | tool _ | incident .interrupt _ | incident .signal _ | incident (.exit _) _
  | incident .abandoned _ => False
  | _ => True

/-- A failure as calls and processes give them. An error with an exit code has one that means
    neither success nor an interrupt, and if it is about wrong input, the one of wrong arguments.
    The program is not asked to end, and nothing is abandoned. -/
def IsRegular : Failure → Prop
  | tool error =>
    (error.category.isValidation → error.exitCode = ExitCode.invalidArguments.toNat) ∧
      error.exitCode ≠ ExitCode.success.toNat ∧ error.exitCode ≠ ExitCode.interrupted.toNat
  | incident (.exit _) _ | incident .abandoned _ => False
  | _ => True

/-- The exit codes of categories. -/
theorem exitCode_category (category : ToolError.Category) :
    (category.isValidation → category.exitCode = .invalidArguments) ∧
      category.exitCode ≠ .success ∧ category.exitCode ≠ .interrupted := by
  cases category <;> decide

theorem IsOwn.isRegular {failure : Failure} (h : failure.IsOwn) : failure.IsRegular := by
  cases failure with
  | tool error =>
    obtain ⟨hvalidation, hsuccess, hinterrupted⟩ := exitCode_category error.category
    have hcode : error.exitCode = error.category.exitCode.toNat := h
    rw [IsRegular, hcode]
    exact ⟨fun hv => congrArg _ (hvalidation hv),
      fun heq => hsuccess (ExitCode.toNat_injective heq),
      fun heq => hinterrupted (ExitCode.toNat_injective heq)⟩
  | incident kind message =>
    obtain rfl : kind = .tooDeep := h
    trivial
  | _ => trivial

end Failure

theorem World.Admits.isRegular {w : World} (hfaults : ∀ fault ∈ w.faults, fault.failure.IsRegular)
    {failure : Failure} (h : w.Admits failure) : failure.IsRegular := by
  obtain hown | ⟨fault, hfault, rfl⟩ := h
  · exact hown.isRegular
  · exact hfaults fault hfault

namespace Cli

/-! ## Answers -/

/-- The run does not answer with the exit code of an interrupt. -/
def NeverInterrupted (run : Action Session ExitCode) : Prop :=
  ∀ s code, (run s).1.result = .ok code → code ≠ .interrupted

namespace NeverInterrupted

theorem pure {code : ExitCode} (h : code ≠ .interrupted) :
    NeverInterrupted (Pure.pure code) := by
  intro s code' hcode
  cases hcode
  exact h

theorem bind {α : Type} {x : Action Session α} {f : α → Action Session ExitCode}
    (h : ∀ a, NeverInterrupted (f a)) : NeverInterrupted (x >>= f) := by
  intro s code hcode
  obtain ⟨a, -, ha⟩ := Action.result_bind_eq_ok_iff.1 hcode
  exact h a _ code ha

theorem ite {c : Prop} [Decidable c] {x y : Action Session ExitCode} (hx : NeverInterrupted x)
    (hy : NeverInterrupted y) : NeverInterrupted (if c then x else y) := by
  split
  · exact hx
  · exact hy

theorem requiring {run : Action Session ExitCode} (h : NeverInterrupted run) (p : Palette)
    (purpose : String) : NeverInterrupted (requiring p purpose run) :=
  .bind fun _ => .ite h (.pure (by decide))

end NeverInterrupted

theorem Locate.neverInterrupted_run (p : Palette) (settings : Settings) :
    NeverInterrupted (run p settings) := by
  have hlocate : NeverInterrupted (locate p settings) :=
    .bind fun _ => .bind fun _ => .bind fun r => .bind fun _ =>
      .ite (.bind fun _ => .pure (exitCode_ne_interrupted r)) (.pure (exitCode_ne_interrupted r))
  exact .requiring (.bind fun _ => .ite (.bind fun _ => .pure (by decide)) hlocate) p _

theorem Capture.neverInterrupted_run (p : Palette) (launcher : Launcher) (settings : Settings) :
    NeverInterrupted (run p launcher settings) := by
  have hrefuse (text : String) : NeverInterrupted (refuse p text) :=
    .bind fun _ => .pure (by decide)
  have hcapture (b : Bootstrap) : NeverInterrupted (captureAndPrint p launcher settings b) := by
    refine .bind fun found => ?_
    cases found with
    | none => exact .bind fun _ => .pure (by decide)
    | some environment => exact .bind fun _ => .bind fun _ => .pure (by decide)
  refine .requiring ?_ p _
  split
  · exact hrefuse _
  · exact hrefuse _
  · exact .bind fun _ => .ite (hrefuse _) (.bind fun b => hcapture b)

/-! ## Ends -/

/-- What reaches a command from its run, with or without colour. -/
def outcome (noColor : Bool) (run : Palette → Action Session ExitCode) (s : Session) :
    Except Failure ExitCode :=
  (run (paletteFor noColor s.world) (started s)).1.result

theorem failsOnly_outcome {P : Failure → Prop} {noColor : Bool}
    {run : Palette → Action Session ExitCode} {s : Session}
    (h : ∀ p, Action.FailsOnly P (In s.world) (run p)) : FailsOnly P (outcome noColor run s) :=
  (h _).result (World.Alike.refl s.world)

/-- The end of a command that goes with what reaches it: the exit code of an answer; for an error or
    a request that carries an exit code this one; 130 for an interrupt; 2 for an ordinary failure.
    Only what is abandoned has no exit code. -/
structure EndsWith (outcome : Except Failure ExitCode) (result : Except Failure Exit) : Prop where
  answer : ∀ answer, outcome = .ok answer → result = .ok (.code answer.toNat)
  tool : ∀ error, outcome = .error (.tool error) → result = .ok (.code error.exitCode)
  exit : ∀ code message, outcome = .error (.incident (.exit code) message) →
    result = .ok (.code code)
  interrupt : ∀ failure, outcome = .error failure → failure.IsInterrupt → result = .ok (.code 130)
  ordinary : ∀ failure, outcome = .error failure → failure.IsOrdinary → result = .ok (.code 2)
  abandoned : ∀ message, outcome = .error (.incident .abandoned message) →
    result = .error (.incident .abandoned message)

/-- What an exit code says: it is 130 exactly for an interrupt, 1 for an error about wrong input,
    and 0 only if all went well. -/
structure Means (outcome : Except Failure ExitCode) (code : ℕ) : Prop where
  interrupt : code = 130 ↔ ∃ failure, outcome = .error failure ∧ failure.IsInterrupt
  validation : ∀ error, outcome = .error (.tool error) → error.category.isValidation → code = 1
  success : code = 0 → outcome = .ok .success

theorem endsWith_answer (answer : ExitCode) :
    EndsWith (.ok answer) (.ok (.code answer.toNat)) :=
  ⟨fun _ heq => by cases heq; rfl, nofun, nofun, nofun, nofun, nofun⟩

/-- A failure that is handled gives its exit code. -/
theorem endsWith_handled {failure : Failure} (h : isAbandoned failure = false) :
    EndsWith (.error failure) (.ok (.code (exitCodeOf failure))) := by
  refine ⟨nofun, ?tool, ?exit, ?interrupt, ?ordinary, ?abandoned⟩
  case tool =>
    rintro error ⟨⟩
    rfl
  case exit =>
    rintro code message ⟨⟩
    rfl
  case interrupt =>
    rintro _ ⟨⟩ hinterrupt
    unfold Failure.IsInterrupt at hinterrupt
    split at hinterrupt
    · rfl
    · rfl
    · exact hinterrupt.elim
  case ordinary =>
    rintro _ ⟨⟩ hordinary
    unfold exitCodeOf
    split
    · exact hordinary.elim
    · exact hordinary.elim
    · exact hordinary.elim
    · exact hordinary.elim
    · rfl
  case abandoned =>
    rintro message ⟨⟩
    cases h

theorem eq_of_isAbandoned {failure : Failure} (h : isAbandoned failure = true) :
    ∃ message, failure = .incident .abandoned message := by
  unfold isAbandoned at h
  split at h
  · exact ⟨_, rfl⟩
  · cases h

theorem endsWith_abandoned (message : String) :
    EndsWith (.error (.incident .abandoned message)) (.error (.incident .abandoned message)) :=
  ⟨nofun, nofun, nofun, fun _ heq hinterrupt => by cases heq; exact hinterrupt.elim,
    fun _ heq hordinary => by cases heq; exact hordinary.elim, fun _ heq => by cases heq; rfl⟩

theorem means_answer {answer : ExitCode} (h : answer ≠ .interrupted) :
    Means (.ok answer) answer.toNat := by
  refine ⟨?_, nofun, fun hzero => ?_⟩
  · refine iff_of_false ?_ (by simp)
    cases answer with
    | interrupted => exact absurd rfl h
    | _ => decide
  · rw [ExitCode.toNat_eq_zero_iff.1 hzero]

/-- The codes of regular failures, one case for each way in which a failure can have one. -/
theorem exitCodeOf_cases {failure : Failure} (h : failure.IsRegular) :
    isAbandoned failure = false ∧ exitCodeOf failure ≠ 0 ∧
      (exitCodeOf failure = 130 ↔ failure.IsInterrupt) := by
  cases failure with
  | tool error =>
    obtain ⟨-, hsuccess, hinterrupted⟩ := h
    exact ⟨rfl, hsuccess, iff_of_false hinterrupted id⟩
  | incident kind message =>
    cases kind with
    | interrupt => exact ⟨rfl, show 130 ≠ 0 by decide, iff_of_true rfl trivial⟩
    | signal => exact ⟨rfl, show 130 ≠ 0 by decide, iff_of_true rfl trivial⟩
    | exit code => exact h.elim
    | abandoned => exact h.elim
    | _ => exact ⟨rfl, show 2 ≠ 0 by decide, iff_of_false (show 2 ≠ 130 by decide) id⟩
  | _ => exact ⟨rfl, show 2 ≠ 0 by decide, iff_of_false (show 2 ≠ 130 by decide) id⟩

theorem means_failure {failure : Failure} (h : failure.IsRegular) :
    Means (.error failure) (exitCodeOf failure) := by
  obtain ⟨-, hsuccess, hinterrupted⟩ := exitCodeOf_cases h
  refine ⟨?_, ?_, fun hzero => absurd hzero hsuccess⟩
  · rw [hinterrupted]
    simp
  · rintro error ⟨⟩ hvalidation
    exact h.1 hvalidation

/-- What a run comes to is the end of its command, with an exit code unless it is abandoned. -/
theorem guarded_ends (run : Action Session ExitCode) (s : Session) (p : Palette) :
    EndsWith (run s).1.result ((guarded p run s).1.result.map Exit.code) := by
  cases hresult : (run s).1.result with
  | ok answer =>
    rw [(guarded_of_ok hresult p).1]
    exact endsWith_answer answer
  | error failure =>
    cases hhandled : isAbandoned failure with
    | false =>
      rw [(guarded_of_error hresult hhandled p).1]
      exact endsWith_handled hhandled
    | true =>
      obtain ⟨message, rfl⟩ := eq_of_isAbandoned hhandled
      rw [(guarded_of_abandoned hresult hhandled p).1]
      exact endsWith_abandoned message

theorem guarded_means {run : Action Session ExitCode} {s : Session} (hrun : NeverInterrupted run)
    (hregular : FailsOnly Failure.IsRegular (run s).1.result) (p : Palette) :
    ∃ code, (guarded p run s).1.result = .ok code ∧ Means (run s).1.result code := by
  cases hresult : (run s).1.result with
  | ok answer => exact ⟨_, (guarded_of_ok hresult p).1, means_answer (hrun s answer hresult)⟩
  | error failure =>
    have hfailure := hregular failure hresult
    exact ⟨_, (guarded_of_error hresult (exitCodeOf_cases hfailure).1 p).1, means_failure hfailure⟩

/-- The command ends. If its arguments are accepted, it ends as goes with what reaches it, and if
    this is regular, with an exit code that says what it was. -/
structure Ends {σ : Type} (settings : Except Ending σ) (outcome : σ → Except Failure ExitCode)
    (result : Except Failure Exit) : Prop where
  ended : ∀ ending, settings = .error ending → ∃ exit, result = .ok exit
  ran : ∀ accepted, settings = .ok accepted → EndsWith (outcome accepted) result
  regular : ∀ accepted, settings = .ok accepted →
    FailsOnly Failure.IsRegular (outcome accepted) →
      ∃ code, result = .ok (.code code) ∧ Means (outcome accepted) code

theorem result_command_map {σ : Type} (settings : σ) (run : σ → Action Session Nat)
    (program : String) (s : Session) :
    (command program (.ok settings) run s).1.result =
      (run settings (started s)).1.result.map Exit.code := by
  cases hresult : (run settings (started s)).1.result with
  | ok code => exact result_command hresult program
  | error failure =>
    have hbegun : (begun program (.ok settings) run (started s)).1.result = .error failure :=
      Action.result_bind_of_error hresult
    have hforget : (Session.forgetTools s).1.result = .ok () := rfl
    exact (Action.result_bind_of_ok hforget).trans (Action.result_bind_of_error hbegun)

/-- A command ends like this if its run does not answer with the code of an interrupt. -/
theorem ends_command {σ : Type} (settings : Except Ending σ) (noColor : σ → Bool)
    {run : Palette → σ → Action Session ExitCode}
    (hrun : ∀ p accepted, NeverInterrupted (run p accepted)) (program : String) (s : Session) :
    Ends settings (fun accepted => outcome (noColor accepted) (run · accepted) s)
      (command program settings (fun accepted => do
        let p ← Action.view fun s => paletteFor (noColor accepted) s.world
        guarded p (run p accepted)) s).1.result := by
  refine ⟨?ended, ?ran, ?regular⟩
  case ended =>
    rintro ending rfl
    cases ending <;> exact ⟨_, rfl⟩
  case ran =>
    rintro accepted rfl
    rw [result_command_map, Action.view_bind]
    exact guarded_ends _ _ _
  case regular =>
    rintro accepted rfl hregular
    rw [result_command_map, Action.view_bind]
    obtain ⟨code, hcode, hmeans⟩ := guarded_means (hrun _ accepted) hregular
      (paletteFor (noColor accepted) s.world)
    refine ⟨code, ?_, hmeans⟩
    exact congrArg (Except.map Exit.code) hcode

/-- **Each command ends with an exit code.** The command that locates a database and the one that
    captures an environment come to an end for all arguments, in all surroundings. If the arguments
    are accepted, an error with an exit code that reaches the command from its run gives this code,
    and so does a request to end; an interrupt gives 130, be it as such or through the handler of
    its signal; any other failure gives 2, and only an abandoned computation gives none. If the
    faults of calls, and what keeps the process from being started, are regular failures, then so is
    all that reaches the command: it ends with an exit code, which is 130 only for an interrupt,
    1 for errors about wrong input, and 0 only if no failure reaches the command. -/
theorem main_ends (program : String) (arguments : List String) (process : ProcessBehaviour)
    (s : Session) :
    (Ends (Locate.parse arguments)
        (fun settings => outcome settings.noColor (Locate.run · settings) s)
        (Locate.main program arguments s).1.result ∧
      Ends (Capture.parse s.world.environment arguments)
        (fun settings =>
          outcome settings.noColor (Capture.run · (.ofProcess .utf16 process) settings) s)
        (Capture.main program (.ofProcess .utf16 process) arguments s).1.result) ∧
    ((∀ fault ∈ s.world.faults, fault.failure.IsRegular) →
      (∀ failure ∈ process.startFailure, failure.IsRegular) →
      (∀ settings : Locate.Settings, FailsOnly Failure.IsRegular
        (outcome settings.noColor (Locate.run · settings) s)) ∧
      ∀ settings : Capture.Settings, FailsOnly Failure.IsRegular
        (outcome settings.noColor (Capture.run · (.ofProcess .utf16 process) settings) s)) := by
  refine ⟨⟨?_, ?_⟩, fun hfaults hstart => ?_⟩
  · unfold Locate.main
    exact ends_command _ _ Locate.neverInterrupted_run program s
  · unfold Capture.main
    exact ends_command _ _ (fun p => Capture.neverInterrupted_run p _) program s
  · have hadmits (failure : Failure) (h : s.world.Admits failure) : failure.IsRegular :=
      h.isRegular hfaults
    have hlauncher := Launcher.failsOnly_ofProcess (fun _ h => h.isRegular) hstart .utf16
    constructor
    · exact fun settings => failsOnly_outcome fun p =>
        (Locate.failsOnly_run s.world p settings).mono hadmits
    · exact fun settings => failsOnly_outcome fun p =>
        Capture.failsOnly_run hadmits hlauncher p settings

/-- The database of the repository cannot be read, for this reason. -/
def unreadable (failure : Failure) : Session where
  world := Locate.repository.withFault .openFile
    "/w/out/build/x64-Debug/compile_commands.json" (some failure)

/-- Want of memory is not absorbed on the way. The exit code is that of a failure, and it means that
    nobody interrupted the command and that not all went well. -/
theorem main_ends_outOfMemory :
    (Locate.main "locate" ["-fa.cpp"] (unreadable (.incident .outOfMemory ""))).1.result =
      .ok (.code 2) ∧
    Means (outcome false (Locate.run · { file := some "a.cpp" })
      (unreadable (.incident .outOfMemory ""))) 2 := by
  let s := unreadable (.incident .outOfMemory "")
  have hfaults : ∀ fault ∈ s.world.faults, fault.failure.IsRegular := by
    intro fault hfault
    obtain rfl := List.mem_singleton.1 hfault
    trivial
  have hparse : Locate.parse ["-fa.cpp"] = .ok { file := some "a.cpp" } := by decide +kernel
  have houtcome : outcome false (Locate.run · { file := some "a.cpp" }) s =
      .error (.incident .outOfMemory "") := by decide +kernel
  obtain ⟨⟨hlocate, -⟩, hregular⟩ := main_ends "locate" ["-fa.cpp"] {} s
  have hresult := (hlocate.ran _ hparse).ordinary _ houtcome trivial
  obtain ⟨code, hcode, hmeans⟩ := hlocate.regular _ hparse ((hregular hfaults nofun).1 _)
  obtain rfl : 2 = code := Exit.code.inj (Except.ok.inj (hresult.symm.trans hcode))
  exact ⟨hresult, hmeans⟩

/-- The signal of an interrupt ends the command with the same exit code as an interrupt, though no
    interrupt as such reaches it. A request to end may give the code of success, and what is
    abandoned goes past the command. -/
theorem main_irregular :
    Locate.parse ["-fa.cpp"] = .ok { file := some "a.cpp" } ∧
    (∀ message, outcome false (Locate.run · { file := some "a.cpp" })
      (unreadable (.incident .signal "")) ≠ .error (.incident .interrupt message)) ∧
    (Locate.main "locate" ["-fa.cpp"] (unreadable (.incident .signal ""))).1.result =
      .ok (.code 130) ∧
    outcome false (Locate.run · { file := some "a.cpp" })
      (unreadable (.incident (.exit 0) "")) = .error (.incident (.exit 0) "") ∧
    (Locate.main "locate" ["-fa.cpp"] (unreadable (.incident (.exit 0) ""))).1.result =
      .ok (.code 0) ∧
    (Locate.main "locate" ["-fa.cpp"] (unreadable (.incident .abandoned ""))).1.result =
      .error (.incident .abandoned "") := by
  have houtcome : outcome false (Locate.run · { file := some "a.cpp" })
      (unreadable (.incident .signal "")) = .error (.incident .signal "") := by decide +kernel
  refine ⟨by decide +kernel, fun message heq => ?_, by decide +kernel, by decide +kernel,
    by decide +kernel, by decide +kernel⟩
  cases houtcome.symm.trans heq

end Cli
end CompileCommands
