/-
  Computations that log, fail, and read or change a state.

  * `Outcome`: an answer or a failure, with what was logged on the way;
  * `Query`: a computation that reads a state and leaves it as it is;
  * `Action`: one that may change it; changes made before a failure remain;
  * `Query.recover`, `Action.recover`: go on after a failure.
-/
import CompileCommands.Log

namespace CompileCommands

/-! ## Outcomes -/

/-- The end of a computation. -/
structure Outcome (α : Type) where
  /-- The answer, or why there is none. -/
  result : Except Failure α
  /-- What was logged, in order. -/
  log : List Log.Event := []

namespace Outcome

variable {α β : Type}

/-- An answer with nothing logged. -/
def ok (a : α) : Outcome α := ⟨.ok a, []⟩

/-- A failure with nothing logged. -/
def fail (failure : Failure) : Outcome α := ⟨.error failure, []⟩

/-- The outcome after earlier log events. -/
def after (log : List Log.Event) (o : Outcome α) : Outcome α :=
  ⟨o.result, log ++ o.log⟩

@[simp] theorem after_nil (o : Outcome α) : after [] o = o := rfl

@[simp] theorem after_after (l m : List Log.Event) (o : Outcome α) :
    after l (after m o) = after (l ++ m) o := by
  simp [after]

end Outcome

/-! ## Queries -/

/-- A computation that reads a state of type `σ`. -/
def Query (σ α : Type) := σ → Outcome α

namespace Query

variable {σ α β : Type}

/-- Answers without looking. -/
def pure (a : α) : Query σ α := fun _ => .ok a

/-- Goes on with the answer. -/
def bind (q : Query σ α) (f : α → Query σ β) : Query σ β := fun s =>
  match q s with
  | ⟨.ok a, log⟩ => (f a s).after log
  | ⟨.error failure, log⟩ => ⟨.error failure, log⟩

instance : Monad (Query σ) where
  pure := Query.pure
  bind := Query.bind

/-- Fails. -/
def fail (failure : Failure) : Query σ α := fun _ => .fail failure

/-- Logs an event. -/
def report (event : Log.Event) : Query σ Unit := fun _ => ⟨.ok (), [event]⟩

/-- A view of the state. -/
def view (f : σ → α) : Query σ α := fun s => .ok (f s)

/-- An answer that may be a failure. -/
def lift (r : Except Failure α) : Query σ α := fun _ => ⟨r, []⟩

/-- Goes on after a failure. -/
def recover (q : Query σ α) (handle : Failure → Query σ α) : Query σ α := fun s =>
  match q s with
  | ⟨.ok a, log⟩ => ⟨.ok a, log⟩
  | ⟨.error failure, log⟩ => (handle failure s).after log

@[simp] theorem pure_apply (a : α) (s : σ) : (Pure.pure a : Query σ α) s = .ok a := rfl

theorem bind_apply (q : Query σ α) (f : α → Query σ β) (s : σ) :
    (q >>= f) s = match q s with
      | ⟨.ok a, log⟩ => (f a s).after log
      | ⟨.error failure, log⟩ => ⟨.error failure, log⟩ := rfl

end Query

/-! ## Actions -/

/-- A computation that may change a state of type `σ`. -/
def Action (σ α : Type) := σ → Outcome α × σ

namespace Action

variable {σ τ α β : Type}

/-- Answers and changes nothing. -/
def pure (a : α) : Action σ α := fun s => (.ok a, s)

/-- Goes on with the answer in the changed state. -/
def bind (x : Action σ α) (f : α → Action σ β) : Action σ β := fun s =>
  match x s with
  | (⟨.ok a, log⟩, s') => ((f a s').1.after log, (f a s').2)
  | (⟨.error failure, log⟩, s') => (⟨.error failure, log⟩, s')

instance : Monad (Action σ) where
  pure := Action.pure
  bind := Action.bind

/-- Fails. -/
def fail (failure : Failure) : Action σ α := fun s => (.fail failure, s)

/-- Logs an event. -/
def report (event : Log.Event) : Action σ Unit := fun s => (⟨.ok (), [event]⟩, s)

/-- A view of the state. -/
def view (f : σ → α) : Action σ α := fun s => (.ok (f s), s)

/-- Changes the state. -/
def modify (f : σ → σ) : Action σ Unit := fun s => (.ok (), f s)

/-- An answer that may be a failure. -/
def lift (r : Except Failure α) : Action σ α := fun s => (⟨r, []⟩, s)

/-- A query of a part of the state. -/
def ask (part : σ → τ) (q : Query τ α) : Action σ α := fun s => (q (part s), s)

/-- An action on a part of the state. -/
def onPart (part : σ → τ) (set : τ → σ → σ) (x : Action τ α) : Action σ α := fun s =>
  ((x (part s)).1, set (x (part s)).2 s)

/-- Goes on after a failure. -/
def recover (x : Action σ α) (handle : Failure → Action σ α) : Action σ α := fun s =>
  match x s with
  | (⟨.ok a, log⟩, s') => (⟨.ok a, log⟩, s')
  | (⟨.error failure, log⟩, s') => ((handle failure s').1.after log, (handle failure s').2)

@[simp] theorem pure_apply (a : α) (s : σ) : (Pure.pure a : Action σ α) s = (.ok a, s) := rfl

theorem bind_apply (x : Action σ α) (f : α → Action σ β) (s : σ) :
    (x >>= f) s = match x s with
      | (⟨.ok a, log⟩, s') => ((f a s').1.after log, (f a s').2)
      | (⟨.error failure, log⟩, s') => (⟨.error failure, log⟩, s') := rfl

end Action
end CompileCommands
