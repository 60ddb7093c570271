/-
  Rules for actions and queries.

  * `Action.Spec`: what holds after an action, if it answers and if it fails, given what held
    before;
  * `Action.Spec.bind`, `Action.Spec.recover` and so on: one rule for each way to build an action;
  * `Action.Keeps`: a property that holds after an action whenever it held before, also if the
    action fails;
  * `FailsOnly`, `Query.FailsOnly`, `Action.FailsOnly`: all failures are of one kind, with one rule
    for each way to build a result, a query and an action;
  * `Query.result_bind_of_ok`, `Action.result_recover_of_error` and so on: results computed step
    by step;
  * `Query.bind_congr`, `Action.fst_bind_congr` and so on: states in which a computation ends alike.
-/
import CompileCommands.Computation

namespace CompileCommands

/-! ## Kinds of failures -/

/-- If the result is a failure, it is one of a kind. -/
def FailsOnly {α : Type} (P : Failure → Prop) (x : Except Failure α) : Prop :=
  ∀ failure, x = .error failure → P failure

namespace FailsOnly

variable {α β : Type} {P Q : Failure → Prop} {x : Except Failure α} {f : α → Except Failure β}

theorem ok (a : α) : FailsOnly P (.ok a : Except Failure α) :=
  fun _ h => by cases h

theorem error {failure : Failure} (h : P failure) :
    FailsOnly P (.error failure : Except Failure α) := by
  intro failure' heq
  cases heq
  exact h

theorem mono (h : FailsOnly P x) (hPQ : ∀ failure, P failure → Q failure) : FailsOnly Q x :=
  fun failure heq => hPQ failure (h failure heq)

theorem bind (hx : FailsOnly P x) (hf : ∀ a, FailsOnly P (f a)) : FailsOnly P (x >>= f) := by
  cases x with
  | ok a => exact hf a
  | error failure => exact .error (hx failure rfl)

theorem map (hx : FailsOnly P x) (g : α → β) : FailsOnly P (x.map g) := by
  cases x with
  | ok a => exact .ok (g a)
  | error failure => exact .error (hx failure rfl)

theorem mapM (hf : ∀ a, FailsOnly P (f a)) (l : List α) : FailsOnly P (l.mapM f) := by
  induction l with
  | nil => exact .ok []
  | cons a l ih =>
    rw [List.mapM_cons]
    exact .bind (hf a) fun _ => .bind ih fun _ => .ok _

end FailsOnly

/-! ## Queries -/

namespace Query

variable {σ α β : Type} {q : Query σ α} {f : α → Query σ β} {s : σ}

/-- The result does not depend on what is logged on the way. -/
theorem result_bind : ((q >>= f) s).result = (q s).result >>= fun a => (f a s).result := by
  rw [bind_apply]
  rcases q s with ⟨result, log⟩
  cases result with
  | ok a => rfl
  | error failure => rfl

theorem bind_of_ok {a : α} (h : (q s).result = .ok a) :
    (q >>= f) s = (f a s).after (q s).log := by
  rw [bind_apply]
  rcases hq : q s with ⟨result, log⟩
  rw [hq] at h
  cases h
  rfl

/-- An answer with nothing logged goes straight to what follows. -/
theorem bind_of_eq_ok {a : α} (h : q s = .ok a) : (q >>= f) s = f a s := by
  rw [bind_apply, h]
  rfl

theorem view_bind (g : σ → α) (f : α → Query σ β) (s : σ) : (view g >>= f) s = f (g s) s := rfl

theorem lift_ok_bind (a : α) (f : α → Query σ β) (s : σ) :
    ((lift (.ok a) : Query σ α) >>= f) s = f a s := rfl

theorem result_bind_of_ok {a : α} (h : (q s).result = .ok a) :
    ((q >>= f) s).result = (f a s).result := by
  rw [bind_of_ok h]
  rfl

theorem result_bind_of_error {failure : Failure} (h : (q s).result = .error failure) :
    ((q >>= f) s).result = .error failure := by
  rw [result_bind, h]
  rfl

theorem result_bind_eq_ok_iff {b : β} : ((q >>= f) s).result = .ok b ↔
    ∃ a, (q s).result = .ok a ∧ (f a s).result = .ok b := by
  cases h : (q s).result with
  | ok a =>
    rw [result_bind_of_ok h]
    refine ⟨fun hb => ⟨a, rfl, hb⟩, ?_⟩
    rintro ⟨a', ha', hb⟩
    cases ha'
    exact hb
  | error failure =>
    rw [result_bind_of_error h]
    refine ⟨nofun, ?_⟩
    rintro ⟨a, ha, -⟩
    cases ha

theorem result_bind_eq_error {failure : Failure} (h : ((q >>= f) s).result = .error failure) :
    (q s).result = .error failure ∨
      ∃ a, (q s).result = .ok a ∧ (f a s).result = .error failure := by
  cases hq : (q s).result with
  | ok a =>
    rw [result_bind_of_ok hq] at h
    exact .inr ⟨a, rfl, h⟩
  | error failure' =>
    rw [result_bind_of_error hq] at h
    cases h
    exact .inl rfl

/-- Queries that end alike, with what follows their answers. -/
theorem result_bind_congr {q' : Query σ α} {f' : α → Query σ β}
    (hq : (q s).result = (q' s).result)
    (hf : ∀ a, (q s).result = .ok a → (f a s).result = (f' a s).result) :
    ((q >>= f) s).result = ((q' >>= f') s).result := by
  rw [result_bind, result_bind, ← hq]
  cases h : (q s).result with
  | ok a => exact hf a h
  | error failure => rfl

theorem recover_of_eq_ok {handle : Failure → Query σ α} {a : α} (h : q s = .ok a) :
    recover q handle s = .ok a := by
  dsimp only [recover]
  rw [h]
  rfl

theorem result_recover_of_ok {handle : Failure → Query σ α} {a : α} (h : (q s).result = .ok a) :
    (recover q handle s).result = .ok a := by
  dsimp only [recover]
  rcases hq : q s with ⟨result, log⟩
  rw [hq] at h
  cases h
  rfl

theorem result_recover_of_error {handle : Failure → Query σ α} {failure : Failure}
    (h : (q s).result = .error failure) :
    (recover q handle s).result = (handle failure s).result := by
  dsimp only [recover]
  rcases hq : q s with ⟨result, log⟩
  rw [hq] at h
  cases h
  rfl

instance : LawfulMonad (Query σ) := .mk' (Query σ)
  (fun q => by
    funext s
    change (q >>= Pure.pure) s = q s
    rw [bind_apply]
    rcases q s with ⟨result, log⟩
    cases result with
    | ok a => simp [Outcome.after, Outcome.ok]
    | error failure => rfl)
  (fun a f => rfl)
  (fun q f g => by
    funext s
    rw [bind_apply, bind_apply, bind_apply]
    rcases q s with ⟨result, log⟩
    cases result with
    | error failure => rfl
    | ok a =>
      dsimp only
      rw [bind_apply]
      rcases f a s with ⟨result', log'⟩
      cases result' with
      | error failure => rfl
      | ok b => simp only [Outcome.after, List.append_assoc])

/-- A query that does not fail. -/
def Answers (q : Query σ α) (s : σ) : Prop :=
  ∃ a, (q s).result = .ok a

namespace Answers

theorem of_ok {a : α} (h : (q s).result = .ok a) : q.Answers s :=
  ⟨a, h⟩

theorem pure (a : α) : (Pure.pure a : Query σ α).Answers s :=
  ⟨a, rfl⟩

theorem bind (hq : q.Answers s) (hf : ∀ a, (q s).result = .ok a → (f a).Answers s) :
    (q >>= f).Answers s := by
  obtain ⟨a, ha⟩ := hq
  obtain ⟨b, hb⟩ := hf a ha
  exact ⟨b, (result_bind_of_ok ha).trans hb⟩

end Answers

/-- If the query fails in this state, its failure is one of a kind. -/
def FailsOnly (P : Failure → Prop) (q : Query σ α) (s : σ) : Prop :=
  CompileCommands.FailsOnly P (q s).result

namespace FailsOnly

variable {P : Failure → Prop}

theorem pure (a : α) : FailsOnly P (Pure.pure a : Query σ α) s :=
  .ok a

theorem fail {failure : Failure} (h : P failure) :
    FailsOnly P (Query.fail failure : Query σ α) s :=
  .error h

theorem report (event : Log.Event) : FailsOnly P (Query.report event) s :=
  .ok ()

theorem view (g : σ → α) : FailsOnly P (Query.view g) s :=
  .ok (g s)

theorem lift {x : Except Failure α} (h : CompileCommands.FailsOnly P x) :
    FailsOnly P (Query.lift x) s :=
  h

theorem bind (hq : FailsOnly P q s) (hf : ∀ a, FailsOnly P (f a) s) : FailsOnly P (q >>= f) s := by
  unfold FailsOnly
  rw [result_bind]
  exact .bind hq hf

theorem map (hq : FailsOnly P q s) (g : α → β) : FailsOnly P (g <$> q) s :=
  .bind hq fun _ => .pure _

theorem recover {handle : Failure → Query σ α} (hq : FailsOnly P q s)
    (hh : ∀ failure, P failure → FailsOnly P (handle failure) s) :
    FailsOnly P (Query.recover q handle) s := by
  unfold FailsOnly
  cases hresult : (q s).result with
  | ok a =>
    rw [result_recover_of_ok hresult]
    exact .ok a
  | error failure =>
    rw [result_recover_of_error hresult]
    exact hh failure (hq failure hresult)

theorem ite {c : Prop} [Decidable c] {r : Query σ α} (hq : FailsOnly P q s)
    (hr : FailsOnly P r s) : FailsOnly P (if c then q else r) s := by
  split
  · exact hq
  · exact hr

end FailsOnly

/-- Two states that a query cannot tell apart, and neither can what follows its answer. -/
theorem bind_congr_of_ok {t : σ} {q' : Query σ α} {f' : α → Query σ β} (hq : q s = q' t)
    (hf : ∀ a, (q s).result = .ok a → f a s = f' a t) : (q >>= f) s = (q' >>= f') t := by
  rw [bind_apply, bind_apply, ← hq]
  rcases hs : q s with ⟨result, log⟩
  rw [hs] at hf
  cases result with
  | ok a => exact congrArg (Outcome.after log) (hf a rfl)
  | error failure => rfl

/-- Two states in which two queries, and what follows, cannot be told apart. -/
theorem bind_congr {t : σ} {q' : Query σ α} {f' : α → Query σ β} (hq : q s = q' t)
    (hf : ∀ a, f a s = f' a t) : (q >>= f) s = (q' >>= f') t :=
  bind_congr_of_ok hq fun a _ => hf a

theorem recover_congr {handle : Failure → Query σ α} {t : σ} {q' : Query σ α} (hq : q s = q' t)
    (hh : ∀ failure, handle failure s = handle failure t) :
    recover q handle s = recover q' handle t := by
  dsimp only [recover]
  rw [hq]
  rcases q' t with ⟨result, log⟩
  cases result with
  | ok a => rfl
  | error failure => exact congrArg (Outcome.after log) (hh failure)

theorem view_congr {g : σ → α} {t : σ} (h : g s = g t) :
    (view g : Query σ α) s = view g t := by
  rw [view, view, h]

end Query

/-! ## Actions -/

namespace Action

variable {σ τ α β : Type}

/-! ### Results -/

theorem view_bind (g : σ → α) (f : α → Action σ β) (s : σ) :
    (view g >>= f) s = f (g s) s := rfl

theorem lift_ok_bind (a : α) (f : α → Action σ β) : (lift (.ok a) >>= f) = f a := rfl

section Results

variable {x : Action σ α} {handle : Failure → Action σ α} {s : σ}

theorem bind_of_ok {f : α → Action σ β} {a : α} (h : (x s).1.result = .ok a) :
    (x >>= f) s = ((f a (x s).2).1.after (x s).1.log, (f a (x s).2).2) := by
  rw [bind_apply]
  rcases hx : x s with ⟨⟨result, log⟩, s'⟩
  rw [hx] at h
  cases h
  rfl

theorem bind_of_error {f : α → Action σ β} {failure : Failure}
    (h : (x s).1.result = .error failure) :
    (x >>= f) s = (⟨.error failure, (x s).1.log⟩, (x s).2) := by
  rw [bind_apply]
  rcases hx : x s with ⟨⟨result, log⟩, s'⟩
  rw [hx] at h
  cases h
  rfl

theorem result_bind_of_ok {f : α → Action σ β} {a : α} (h : (x s).1.result = .ok a) :
    ((x >>= f) s).1.result = (f a (x s).2).1.result := by
  rw [bind_of_ok h]
  rfl

theorem result_bind_of_error {f : α → Action σ β} {failure : Failure}
    (h : (x s).1.result = .error failure) : ((x >>= f) s).1.result = .error failure := by
  rw [bind_of_error h]

theorem result_bind_eq_ok_iff {f : α → Action σ β} {b : β} : ((x >>= f) s).1.result = .ok b ↔
    ∃ a, (x s).1.result = .ok a ∧ (f a (x s).2).1.result = .ok b := by
  cases h : (x s).1.result with
  | ok a =>
    rw [result_bind_of_ok h]
    refine ⟨fun hb => ⟨a, rfl, hb⟩, ?_⟩
    rintro ⟨a', ha', hb⟩
    cases ha'
    exact hb
  | error failure =>
    rw [result_bind_of_error h]
    refine ⟨nofun, ?_⟩
    rintro ⟨a, ha, -⟩
    cases ha

theorem snd_bind_of_ok {f : α → Action σ β} {a : α} (h : (x s).1.result = .ok a) :
    ((x >>= f) s).2 = (f a (x s).2).2 := by
  rw [bind_of_ok h]

theorem snd_bind_of_error {f : α → Action σ β} {failure : Failure}
    (h : (x s).1.result = .error failure) : ((x >>= f) s).2 = (x s).2 := by
  rw [bind_of_error h]

theorem recover_of_ok {a : α} (h : (x s).1.result = .ok a) : recover x handle s = x s := by
  dsimp only [recover]
  rcases hx : x s with ⟨⟨result, log⟩, s'⟩
  rw [hx] at h
  cases h
  rfl

theorem recover_of_error {failure : Failure} (h : (x s).1.result = .error failure) :
    recover x handle s =
      ((handle failure (x s).2).1.after (x s).1.log, (handle failure (x s).2).2) := by
  dsimp only [recover]
  rcases hx : x s with ⟨⟨result, log⟩, s'⟩
  rw [hx] at h
  cases h
  rfl

theorem result_recover_of_ok {a : α} (h : (x s).1.result = .ok a) :
    (recover x handle s).1.result = .ok a := by
  rw [recover_of_ok h, h]

theorem result_recover_of_error {failure : Failure} (h : (x s).1.result = .error failure) :
    (recover x handle s).1.result = (handle failure (x s).2).1.result := by
  rw [recover_of_error h]
  rfl

end Results

section Congruence

variable {x : Action σ α} {s t : σ}

theorem fst_pure_congr (a : α) (s t : σ) :
    ((Pure.pure a : Action σ α) s).1 = ((Pure.pure a : Action σ α) t).1 := rfl

theorem fst_fail_congr (failure : Failure) (s t : σ) :
    ((fail failure : Action σ α) s).1 = ((fail failure : Action σ α) t).1 := rfl

theorem fst_report_congr (event : Log.Event) (s t : σ) :
    (report event s).1 = (report event t).1 := rfl

theorem fst_ask_congr {part : σ → τ} {q : Query τ α} (h : q (part s) = q (part t)) :
    (ask part q s).1 = (ask part q t).1 := h

/-- Two states in which an action, and what follows, ends alike. -/
theorem fst_bind_congr {f : α → Action σ β} (hx : (x s).1 = (x t).1)
    (hf : ∀ a, (f a (x s).2).1 = (f a (x t).2).1) : ((x >>= f) s).1 = ((x >>= f) t).1 := by
  rw [bind_apply, bind_apply]
  rcases hs : x s with ⟨⟨result, log⟩, s'⟩
  rcases ht : x t with ⟨o, t'⟩
  rw [hs, ht] at hx hf
  cases hx
  cases result with
  | ok a => exact congrArg (Outcome.after log) (hf a)
  | error failure => rfl

theorem fst_recover_congr {handle : Failure → Action σ α} (hx : (x s).1 = (x t).1)
    (hh : ∀ failure, (handle failure (x s).2).1 = (handle failure (x t).2).1) :
    (recover x handle s).1 = (recover x handle t).1 := by
  dsimp only [recover]
  rcases hs : x s with ⟨⟨result, log⟩, s'⟩
  rcases ht : x t with ⟨o, t'⟩
  rw [hs, ht] at hx hh
  cases hx
  cases result with
  | ok a => rfl
  | error failure => exact congrArg (Outcome.after log) (hh failure)

end Congruence

/-! ### Before and after -/

/-- From a state with `P`, an action that answers leads to `Q`, and one that fails to `E`. -/
structure Spec (P : σ → Prop) (x : Action σ α) (Q : α → σ → Prop) (E : Failure → σ → Prop) :
    Prop where
  after : ∀ s, P s → match (x s).1.result with
    | .ok a => Q a (x s).2
    | .error failure => E failure (x s).2

namespace Spec

variable {P P' : σ → Prop} {Q Q' : α → σ → Prop} {R : β → σ → Prop} {E E' : Failure → σ → Prop}
  {x : Action σ α} {f : α → Action σ β} {s : σ}

/-- What an answer tells. -/
theorem of_ok (h : Spec P x Q E) (hs : P s) {a : α} (ha : (x s).1.result = .ok a) :
    Q a (x s).2 := by
  have hx := h.after s hs
  rw [ha] at hx
  exact hx

/-- What a failure tells. -/
theorem of_error (h : Spec P x Q E) (hs : P s) {failure : Failure}
    (hf : (x s).1.result = .error failure) : E failure (x s).2 := by
  have hx := h.after s hs
  rw [hf] at hx
  exact hx

/-- Less may be known before, and more after. -/
theorem mono (h : Spec P x Q E) (hP : ∀ s, P' s → P s) (hQ : ∀ a s, Q a s → Q' a s)
    (hE : ∀ failure s, E failure s → E' failure s) : Spec P' x Q' E' := by
  refine ⟨fun s hs => ?_⟩
  have hx := h.after s (hP s hs)
  cases hr : (x s).1.result with
  | ok a =>
    rw [hr] at hx
    exact hQ a _ hx
  | error failure =>
    rw [hr] at hx
    exact hE failure _ hx

/-- The state after an action from one state. -/
theorem self (x : Action σ α) (s : σ) (hE : ∀ failure, E failure (x s).2) :
    Spec (fun t => t = s) x (fun _ t => t = (x s).2) E := by
  refine ⟨fun t ht => ?_⟩
  subst ht
  cases (x t).1.result with
  | ok a => rfl
  | error failure => exact hE failure

/-- What holds of the state afterwards, whether the action answers or fails. -/
theorem state {R : σ → Prop} (h : Spec P x (fun _ => R) fun _ => R) (hs : P s) : R (x s).2 := by
  have hx := h.after s hs
  cases hr : (x s).1.result with
  | ok a =>
    rw [hr] at hx
    exact hx
  | error failure =>
    rw [hr] at hx
    exact hx

theorem of_state {R : σ → Prop} (h : ∀ s, P s → R (x s).2) : Spec P x (fun _ => R) fun _ => R := by
  refine ⟨fun s hs => ?_⟩
  cases (x s).1.result with
  | ok a => exact h s hs
  | error failure => exact h s hs

theorem pure {a : α} (h : ∀ s, P s → Q a s) : Spec P (Pure.pure a : Action σ α) Q E :=
  ⟨fun s hs => h s hs⟩

theorem fail {failure : Failure} (h : ∀ s, P s → E failure s) :
    Spec P (Action.fail failure : Action σ α) Q E :=
  ⟨fun s hs => h s hs⟩

theorem report {event : Log.Event} {Q : Unit → σ → Prop} (h : ∀ s, P s → Q () s) :
    Spec P (Action.report event) Q E :=
  ⟨fun s hs => h s hs⟩

theorem view {g : σ → α} (h : ∀ s, P s → Q (g s) s) : Spec P (Action.view g) Q E :=
  ⟨fun s hs => h s hs⟩

theorem ask {part : σ → τ} {q : Query τ α}
    (hok : ∀ s a, P s → (q (part s)).result = .ok a → Q a s)
    (herror : ∀ s failure, P s → (q (part s)).result = .error failure → E failure s) :
    Spec P (Action.ask part q) Q E := by
  refine ⟨fun s hs => ?_⟩
  dsimp only [Action.ask]
  cases hr : (q (part s)).result with
  | ok a => exact hok s a hs hr
  | error failure => exact herror s failure hs hr

/-- One action after the other. -/
theorem bind {M : α → σ → Prop} (hx : Spec P x M E) (hf : ∀ a, Spec (M a) (f a) R E) :
    Spec P (x >>= f) R E := by
  refine ⟨fun s hs => ?_⟩
  have h := hx.after s hs
  rw [bind_apply]
  rcases hxs : x s with ⟨⟨result, log⟩, s'⟩
  rw [hxs] at h
  cases result with
  | ok a => exact (hf a).after s' h
  | error failure => exact h

/-- An action that goes on after a failure. -/
theorem recover {M : Failure → σ → Prop} {handle : Failure → Action σ α} (hx : Spec P x Q M)
    (hh : ∀ failure, Spec (M failure) (handle failure) Q E) :
    Spec P (Action.recover x handle) Q E := by
  refine ⟨fun s hs => ?_⟩
  have h := hx.after s hs
  dsimp only [Action.recover]
  rcases hxs : x s with ⟨⟨result, log⟩, s'⟩
  rw [hxs] at h
  cases result with
  | ok a => exact h
  | error failure => exact (hh failure).after s' h

theorem ite {c : Prop} [Decidable c] {y : Action σ α} (hx : c → Spec P x Q E)
    (hy : ¬c → Spec P y Q E) : Spec P (if c then x else y) Q E := by
  by_cases h : c
  · rw [if_pos h]
    exact hx h
  · rw [if_neg h]
    exact hy h

end Spec

/-! ### Invariants -/

/-- The property holds after the action whenever it held before. -/
def Keeps (P : σ → Prop) (x : Action σ α) : Prop :=
  Spec P x (fun _ => P) fun _ => P

namespace Keeps

variable {P : σ → Prop} {x y : Action σ α} {f : α → Action σ β}

theorem apply (h : Keeps P x) {s : σ} (hs : P s) : P (x s).2 :=
  Spec.state h hs

theorem pure (a : α) : Keeps P (Pure.pure a : Action σ α) :=
  Spec.pure fun _ h => h

theorem fail (failure : Failure) : Keeps P (Action.fail failure : Action σ α) :=
  Spec.fail fun _ h => h

theorem report (event : Log.Event) : Keeps P (Action.report event) :=
  Spec.report fun _ h => h

theorem view (g : σ → α) : Keeps P (Action.view g) :=
  Spec.view fun _ h => h

theorem lift (r : Except Failure α) : Keeps P (Action.lift r : Action σ α) :=
  Spec.of_state fun _ h => h

theorem ask (part : σ → τ) (q : Query τ α) : Keeps P (Action.ask part q) :=
  Spec.ask (fun _ _ h _ => h) fun _ _ h _ => h

theorem bind (hx : Keeps P x) (hf : ∀ a, Keeps P (f a)) : Keeps P (x >>= f) :=
  Spec.bind hx hf

theorem recover {handle : Failure → Action σ α} (hx : Keeps P x)
    (hh : ∀ failure, Keeps P (handle failure)) : Keeps P (Action.recover x handle) :=
  Spec.recover hx hh

theorem ite {c : Prop} [Decidable c] (hx : Keeps P x) (hy : Keeps P y) :
    Keeps P (if c then x else y) :=
  Spec.ite (fun _ => hx) fun _ => hy

theorem onPart {part : σ → τ} {set : τ → σ → σ} {P : τ → Prop} {x : Action τ α}
    (hset : ∀ t s, part (set t s) = t) (hx : Keeps P x) :
    Keeps (fun s => P (part s)) (Action.onPart part set x) := by
  refine Spec.of_state fun s hs => ?_
  dsimp only [Action.onPart]
  rw [hset]
  exact hx.apply hs

end Keeps

/-! ### Failures -/

/-- The property holds after the action whenever it held before, and then the failures of the
    action are of a kind. -/
def FailsOnly (P : Failure → Prop) (I : σ → Prop) (x : Action σ α) : Prop :=
  Spec I x (fun _ => I) fun failure s => P failure ∧ I s

namespace FailsOnly

variable {P Q : Failure → Prop} {I : σ → Prop} {x y : Action σ α} {f : α → Action σ β} {s : σ}

theorem result (h : FailsOnly P I x) (hs : I s) : CompileCommands.FailsOnly P (x s).1.result :=
  fun _ hresult => (h.of_error hs hresult).1

theorem mono (h : FailsOnly P I x) (hPQ : ∀ failure, P failure → Q failure) : FailsOnly Q I x :=
  Spec.mono h (fun _ hs => hs) (fun _ _ hs => hs) fun failure _ hs => ⟨hPQ failure hs.1, hs.2⟩

theorem pure (a : α) : FailsOnly P I (Pure.pure a : Action σ α) :=
  Spec.pure fun _ hs => hs

theorem fail {failure : Failure} (h : P failure) :
    FailsOnly P I (Action.fail failure : Action σ α) :=
  Spec.fail fun _ hs => ⟨h, hs⟩

theorem report (event : Log.Event) : FailsOnly P I (Action.report event) :=
  Spec.report fun _ hs => hs

theorem view (g : σ → α) : FailsOnly P I (Action.view g) :=
  Spec.view fun _ hs => hs

theorem modify {g : σ → σ} (h : ∀ s, I s → I (g s)) : FailsOnly P I (Action.modify g) :=
  ⟨h⟩

theorem lift {r : Except Failure α} (h : CompileCommands.FailsOnly P r) :
    FailsOnly P I (Action.lift r) := by
  refine ⟨fun s hs => ?_⟩
  cases r with
  | ok a => exact hs
  | error failure => exact ⟨h failure rfl, hs⟩

theorem ask {part : σ → τ} {q : Query τ α} (h : ∀ s, I s → q.FailsOnly P (part s)) :
    FailsOnly P I (Action.ask part q) :=
  Spec.ask (fun _ _ hs _ => hs) fun s failure hs hresult => ⟨h s hs failure hresult, hs⟩

theorem bind (hx : FailsOnly P I x) (hf : ∀ a, FailsOnly P I (f a)) : FailsOnly P I (x >>= f) :=
  Spec.bind hx hf

theorem ite {c : Prop} [Decidable c] (hx : FailsOnly P I x) (hy : FailsOnly P I y) :
    FailsOnly P I (if c then x else y) :=
  Spec.ite (fun _ => hx) fun _ => hy

/-- What is absorbed may be of another kind than what is not. -/
theorem recover {handle : Failure → Action σ α} (hx : FailsOnly P I x)
    (hh : ∀ failure, P failure → FailsOnly Q I (handle failure)) :
    FailsOnly Q I (Action.recover x handle) :=
  Spec.recover hx fun failure => ⟨fun s hs => (hh failure hs.1).after s hs.2⟩

theorem onPart {part : σ → τ} {set : τ → σ → σ} {J : τ → Prop} {x : Action τ α}
    (hset : ∀ t s, part (set t s) = t) (hx : FailsOnly P J x) :
    FailsOnly P (fun s => J (part s)) (Action.onPart part set x) := by
  refine ⟨fun s hs => ?_⟩
  have hafter := hx.after (part s) hs
  dsimp only [Action.onPart]
  rw [hset]
  exact hafter

end FailsOnly
end Action
end CompileCommands
