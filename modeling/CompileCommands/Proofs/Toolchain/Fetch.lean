/-
  All that a run of a bootstrap script can come to.

  * `Capture.IsSettings`: an environment with settings, whose names are names;
    `Capture.isSettings_settings`: so is all that is read from what a shell printed;
  * `Bootstrap.ComesTo`: what a run asks, reports and answers; `Bootstrap.fetch_comesTo`: every run.
-/
import CompileCommands.Proofs.Toolchain.Noise
import CompileCommands.Proofs.Toolchain.Retry
import CompileCommands.Proofs.World.Directory

namespace CompileCommands

open Text

namespace Capture

/-! ## Names -/

/-- There are settings, no two of them have the same name, and no name is blank or holds an equals
    sign. -/
structure IsSettings (environment : Environment) : Prop where
  ne_nil : environment ≠ []
  nodup : (environment.map (·.1)).Nodup
  names : ∀ entry ∈ environment, ¬entry.1.toList.all isBlank ∧ '=' ∉ entry.1.toList

theorem name_of_setting? {line : List Char} {entry : String × String}
    (h : setting? line = some entry) : ¬entry.1.toList.all isBlank ∧ '=' ∉ entry.1.toList := by
  unfold setting? at h
  split at h
  · cases h
  · dsimp only at h
    split at h
    · cases h
    · next hblank =>
      cases h
      rw [String.toList_ofList]
      refine ⟨hblank, fun hequals => ?_⟩
      simpa using List.mem_takeWhile_imp hequals

theorem isSettings_settings {lines : List String} {id : String} (h : settings lines id ≠ []) :
    IsSettings (settings lines id) := by
  refine ⟨h, ?_, fun entry hentry => ?_⟩
  · rw [settings, settingsFrom_eq, Bindings.names_ofPairs]
    exact Files.nodup_eraseDups _
  · rw [settings, settingsFrom_eq] at hentry
    obtain ⟨line, -, hsetting⟩ := List.mem_filterMap.1 (Bindings.mem_of_mem_ofPairs hentry)
    exact name_of_setting? hsetting

end Capture

namespace Bootstrap

variable {b : Bootstrap} {launcher : Launcher} {params : Option String} {s : Session}

/-! ## Runs -/

/-- What a run of the script comes to: what it asks of the launcher, and what it reports beside
    what the launcher reports. -/
structure ComesTo (b : Bootstrap) (launcher : Launcher) (params : Option String) (s : Session)
    (asked : List Launch.Request) (reported : List Log.Event) : Prop where
  /-- These are the requests. -/
  requests : (b.fetch launcher params s).2.requests = s.requests ++ asked
  /-- There is at most one. -/
  atMostOne : asked.length ≤ 1
  /-- Nothing is asked without the script, or without a shell. -/
  ready : asked ≠ [] → s.world.isFile b.scriptPath ∧
    (b.shell.isSome ∨ (Tools.shell s.world s.detected).1.isSome)
  /-- These are the reports. -/
  log : (b.fetch launcher params s).1.log =
    asked.flatMap (fun request => (launcher s.world.host request).1.log) ++ reported
  /-- A process that was stopped gives no environment, whatever it printed. -/
  stopped : ∀ request ∈ asked, ∀ captured,
    (launcher s.world.host request).1.result = .ok captured → captured.timedOut →
      (b.fetch launcher params s).1.result = .ok none
  /-- An environment is one, and goes without a report; none is reported once; and a failure is
      critical. -/
  answer : match (b.fetch launcher params s).1.result with
    | .ok (some environment) => Capture.IsSettings environment ∧ reported = []
    | .ok none => reported.length = 1
    | .error failure => failure.isCritical

theorem isSome_of_knownShell {shell : String} (h : b.knownShell s = some shell) :
    b.shell.isSome ∨ (Tools.shell s.world s.detected).1.isSome := by
  have hsome : (b.knownShell s).isSome := by rw [h]; rfl
  simpa [knownShell] using hsome

/-- Nothing is asked, and why there is no environment is reported. -/
theorem comesTo_of_eq {event : Log.Event} {t : Session}
    (h : b.fetch launcher params s = (⟨.ok none, [event]⟩, t)) (ht : t.requests = s.requests) :
    b.ComesTo launcher params s [] [event] where
  requests := by rw [h, ht, List.append_nil]
  atMostOne := Nat.zero_le 1
  ready := fun h => absurd rfl h
  log := by rw [h]; rfl
  stopped := fun _ h => absurd h List.not_mem_nil
  answer := by rw [h]; rfl

theorem digest_stopped (b : Bootstrap) (id : String) {captured : Captured}
    (h : captured.timedOut) : (b.digest id (.ok captured)).result = .ok none := by
  rw [digest, environmentOf, if_pos h]

/-- By what the launcher answers. -/
theorem answer_digest (b : Bootstrap) (id : String) (answer : Except Failure Captured) :
    match (b.digest id answer).result with
    | .ok (some environment) =>
      Capture.IsSettings environment ∧ (b.digest id answer).log = []
    | .ok none => (b.digest id answer).log.length = 1
    | .error failure => failure.isCritical := by
  cases answer with
  | error failure =>
    by_cases hcritical : failure.isCritical
    · rw [digest, if_pos hcritical]
      exact hcritical
    · rw [digest, if_neg hcritical]
      rfl
  | ok captured =>
    by_cases hstopped : captured.timedOut
    · rw [digest, environmentOf, if_pos hstopped]
      rfl
    · rw [digest, environmentOf, if_neg hstopped]
      cases hsettings : Capture.settings captured.lines id with
      | nil => rfl
      | cons entry rest =>
        exact ⟨hsettings ▸ Capture.isSettings_settings (hsettings ▸ List.cons_ne_nil _ _), rfl⟩

/-- **A run of the script gives an environment, a reported none, or a critical failure.** Whatever
    the world is and however the launcher behaves, it is asked at most once, and only with a
    script and a shell; an environment has settings under proper names, and never comes from a
    process that was stopped; and that there is none is reported exactly once. -/
theorem fetch_comesTo (b : Bootstrap) (launcher : Launcher) (params : Option String) (s : Session) :
    ∃ asked reported, b.ComesTo launcher params s asked reported := by
  cases hscript : s.world.isFile b.scriptPath with
  | false => exact ⟨[], _, comesTo_of_eq (fetch_of_missing hscript) rfl⟩
  | true =>
    cases hshell : b.knownShell s with
    | none =>
      obtain ⟨hgiven, hfound⟩ : b.shell = none ∧ (Tools.shell s.world s.detected).1 = none := by
        simpa [knownShell] using hshell
      exact ⟨[], _, comesTo_of_eq (fetch_of_noShell hgiven hscript hfound) rfl⟩
    | some shell =>
      obtain ⟨hfetch, hrequests⟩ := fetch_of_knownShell launcher params hscript hshell
      refine ⟨[b.request params s.world shell],
        (b.digest s.world.freshId
          (launcher s.world.host (b.request params s.world shell)).1.result).log,
        hrequests, le_rfl, fun _ => ⟨hscript, isSome_of_knownShell hshell⟩, ?log, ?stopped, ?answer⟩
      case log =>
        rw [hfetch, List.flatMap_singleton]
        rfl
      case stopped =>
        intro request hrequest captured hcaptured hstopped
        rw [List.mem_singleton.1 hrequest] at hcaptured
        rw [hfetch, hcaptured]
        exact b.digest_stopped _ hstopped
      case answer =>
        rw [hfetch]
        exact b.answer_digest _ _

end Bootstrap
end CompileCommands
