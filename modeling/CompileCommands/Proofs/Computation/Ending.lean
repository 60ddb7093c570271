/-
  How an action ends.

  * `Action.Ends`: from a state, the action gives a result and leaves a state;
  * `Ends.bind_ok`, `Ends.recover_error` and so on: one rule for each way to build an action;
  * `Files.ends_recover_of_file`, `Files.ends_recover_of_other`: an error of file access is absorbed,
    and another failure is not.
-/
import CompileCommands.Proofs.World.Files

namespace CompileCommands

namespace Action

variable {σ τ α β : Type}

/-- From the state `s` the action gives the result and leaves the state `t`. -/
structure Ends (x : Action σ α) (s : σ) (result : Except Failure α) (t : σ) : Prop where
  result : (x s).1.result = result
  state : (x s).2 = t

namespace Ends

variable {x : Action σ α} {f : α → Action σ β} {handle : Failure → Action σ α} {s t u : σ} {a : α}
  {failure : Failure}

theorem pure (a : α) (s : σ) : Ends (Pure.pure a) s (.ok a) s := ⟨rfl, rfl⟩

theorem fail (failure : Failure) (s : σ) : Ends (Action.fail failure : Action σ α) s
    (.error failure) s := ⟨rfl, rfl⟩

theorem report (event : Log.Event) (s : σ) : Ends (Action.report event) s (.ok ()) s := ⟨rfl, rfl⟩

theorem view (g : σ → α) (s : σ) : Ends (Action.view g) s (.ok (g s)) s := ⟨rfl, rfl⟩

theorem ask {part : σ → τ} {q : Query τ α} {result : Except Failure α}
    (h : (q (part s)).result = result) : Ends (Action.ask part q) s result s := ⟨h, rfl⟩

theorem bind_ok {result : Except Failure β} (hx : x.Ends s (.ok a) t)
    (hf : (f a).Ends t result u) : (x >>= f).Ends s result u := by
  refine ⟨?_, ?_⟩
  · rw [result_bind_of_ok hx.result, hx.state, hf.result]
  · rw [snd_bind_of_ok hx.result, hx.state, hf.state]

theorem bind_error (hx : x.Ends s (.error failure) t) : (x >>= f).Ends s (.error failure) t :=
  ⟨result_bind_of_error hx.result, (snd_bind_of_error hx.result).trans hx.state⟩

theorem recover_ok (hx : x.Ends s (.ok a) t) : (Action.recover x handle).Ends s (.ok a) t :=
  ⟨result_recover_of_ok hx.result, by rw [recover_of_ok hx.result, hx.state]⟩

theorem recover_error {result : Except Failure α} (hx : x.Ends s (.error failure) t)
    (hh : (handle failure).Ends t result u) : (Action.recover x handle).Ends s result u := by
  refine ⟨?_, ?_⟩
  · rw [result_recover_of_error hx.result, hx.state, hh.result]
  · rw [recover_of_error hx.result, hx.state, hh.state]

end Ends
end Action

namespace Files

open CompileCommands.Action (Ends)

variable {α : Type} {w w' w'' : World} {x : Action World α} {handle : Failure → Action World α}
  {failure : Failure}

theorem ends_recover_of_file {result : Except Failure α} (hx : x.Ends w (.error failure) w')
    (hfile : failure.isFileError) (hh : (handle failure).Ends w' result w'') :
    (recover x handle).Ends w result w'' := by
  refine .recover_error hx ?_
  rw [if_pos hfile]
  exact hh

theorem ends_recover_of_other (hx : x.Ends w (.error failure) w')
    (hother : failure.isFileError = false) : (recover x handle).Ends w (.error failure) w' := by
  refine .recover_error hx ?_
  rw [hother]
  exact .fail failure w'

end Files
end CompileCommands
