/-
  Computations without escape characters.

  * `Query.Clean`, `Action.Clean`: from a state without escape characters, what is answered, why
    there is no answer, what is logged and what is left have none;
  * `Query.Clean.bind`, `Action.Clean.recover` and so on: one rule for each way to build a query
    and an action.
-/
import CompileCommands.Proofs.Computation
import CompileCommands.Proofs.Text.Escape

namespace CompileCommands

/-! ## Reports -/

/-- The texts in a report. -/
def Log.Event.parts : Log.Event → List String
  | macroUnresolved token template => [token, template]
  | settingsUnreadable path cause | activeUnreadable path cause | databaseUnreadable path cause
  | storeUnavailable path cause | saveFailed path cause | loadFailed path cause
  | cleanupFailed path cause | listingFailed path cause => [path, cause.message]
  | activeMalformed path found => [path, found]
  | buildRootUnresolved template configuration => [template, configuration]
  | configurationMissing name | buildRootMissing name => [name]
  | databaseFound path | databaseMissing path | databaseVanished path | databaseEmpty path
  | entryMissing path | headerEntryMissing path | scriptMissing path => [path]
  | captureFailed cause => [cause.message]
  | rootMissing | captureTimedOut _ | captureEmpty | processLingers _ | cleanedUp _ => []

section Instances

variable {α ε : Type} [Textual α] [Textual ε]

instance : Textual Failure := ⟨fun failure => EscapeFree failure.message⟩

instance : Textual Log.Event := ⟨fun event => EscapeFree event.parts⟩

instance : Textual (Except ε α) := ⟨fun
  | .ok a => EscapeFree a
  | .error e => EscapeFree e⟩

instance : Textual (Outcome α) := ⟨fun o => EscapeFree o.result ∧ EscapeFree o.log⟩

end Instances

/-- The wording of a report adds no escape characters to its texts. -/
theorem escapeFree_text {event : Log.Event} (h : EscapeFree event) :
    EscapeFree (event.text Failure.message) := by
  have hparts : ∀ part ∈ event.parts, EscapeFree part := h
  cases event <;>
  · simp only [Log.Event.parts, List.forall_mem_cons] at hparts
    delta Log.Event.text
    simp only [EscapeFree.string_append_iff, escapeFree_toString_int, escapeFree_toString_nat,
      hparts, and_true]
    repeat' apply And.intro
    all_goals exact .literal rfl

/-- A surrogate is shown by its number. -/
theorem escapeFree_encodingError (error : Text.EncodingError) :
    EscapeFree (Failure.notEncodable error) := by
  refine .string_append (.string_append (.literal rfl) (.ite ?_ ?_)) (.literal rfl)
  · exact .string_append (.string_append (.string_append (.literal rfl)
      (escapeFree_hexPadded _ _).ofList) (.literal rfl)) (escapeFree_toString_nat _)
  · exact .string_append (.string_append (.string_append (.literal rfl)
      (escapeFree_toString_nat _)) (.literal rfl)) (escapeFree_toString_nat _)

/-! ## Results -/

namespace EscapeFree

variable {α β : Type} [Textual α] [Textual β] {a : α} {failure : Failure}

theorem ok (h : EscapeFree a) : EscapeFree (.ok a : Except Failure α) := h

theorem of_message (h : EscapeFree failure.message) : EscapeFree failure := h

theorem error (h : EscapeFree failure) : EscapeFree (.error failure : Except Failure α) := h

theorem except_bind {ε : Type} [Textual ε] {x : Except ε α} {f : α → Except ε β}
    (hx : EscapeFree x) (hf : ∀ a, EscapeFree a → EscapeFree (f a)) : EscapeFree (x >>= f) := by
  cases x with
  | ok a => exact hf a hx
  | error e => exact hx

omit [Textual β] in
theorem except_mapM {f : β → Except Failure α} {l : List β} (hf : ∀ b ∈ l, EscapeFree (f b)) :
    EscapeFree (l.mapM f) := by
  induction l with
  | nil => exact nil
  | cons b l ih =>
    rw [List.forall_mem_cons] at hf
    rw [List.mapM_cons]
    exact except_bind hf.1 fun a ha => except_bind (ih hf.2) fun l hl => ha.cons hl

/-- An outcome with nothing logged. -/
theorem silent {result : Except Failure α} (h : EscapeFree result) :
    EscapeFree (⟨result, []⟩ : Outcome α) :=
  ⟨h, nil⟩

theorem after {log : List Log.Event} {o : Outcome α} (ho : EscapeFree o) (hlog : EscapeFree log) :
    EscapeFree (o.after log) :=
  ⟨ho.1, append hlog ho.2⟩

end EscapeFree

/-! ## Queries -/

namespace Query

variable {σ α β : Type} [Textual σ] [Textual α] [Textual β]

/-- From a state without escape characters, the answer or the failure has none, and nor has what is
    logged. -/
def Clean (q : Query σ α) : Prop :=
  ∀ s, EscapeFree s → EscapeFree (q s)

namespace Clean

variable {q : Query σ α} {f : α → Query σ β} {a : α}

theorem pure (ha : EscapeFree a) : Clean (Pure.pure a : Query σ α) :=
  fun _ _ => .silent ha

theorem fail {failure : Failure} (h : EscapeFree failure) :
    Clean (Query.fail failure : Query σ α) :=
  fun _ _ => .silent h

theorem report {event : Log.Event} (h : EscapeFree event) :
    Clean (Query.report event : Query σ Unit) :=
  fun _ _ => ⟨trivial, .singleton h⟩

theorem view {g : σ → α} (h : ∀ s, EscapeFree s → EscapeFree (g s)) : Clean (Query.view g) :=
  fun s hs => .silent (h s hs)

theorem lift {x : Except Failure α} (h : EscapeFree x) : Clean (Query.lift x : Query σ α) :=
  fun _ _ => .silent h

theorem bind (hq : Clean q) (hf : ∀ a, EscapeFree a → Clean (f a)) : Clean (q >>= f) := by
  intro s hs
  have h := hq s hs
  rw [bind_apply]
  rcases hqs : q s with ⟨result, log⟩
  rw [hqs] at h
  cases result with
  | ok a => exact (hf a h.1 s hs).after h.2
  | error failure => exact h

/-- What is only looked at may be anything. -/
theorem view_bind {τ : Type} {g : σ → τ} {f : τ → Query σ β} (hf : ∀ t, Clean (f t)) :
    Clean (Query.view g >>= f) :=
  fun s hs => hf (g s) s hs

theorem map (hq : Clean q) {g : α → β} (hg : ∀ a, EscapeFree a → EscapeFree (g a)) :
    Clean (g <$> q) :=
  .bind hq fun a ha => .pure (hg a ha)

theorem recover {handle : Failure → Query σ α} (hq : Clean q)
    (hh : ∀ failure, EscapeFree failure → Clean (handle failure)) :
    Clean (Query.recover q handle) := by
  intro s hs
  have h := hq s hs
  dsimp only [Query.recover]
  rcases hqs : q s with ⟨result, log⟩
  rw [hqs] at h
  cases result with
  | ok a => exact h
  | error failure => exact (hh failure h.1 s hs).after h.2

theorem ite {c : Prop} [Decidable c] {r : Query σ α} (hq : Clean q) (hr : Clean r) :
    Clean (if c then q else r) := by
  split
  · exact hq
  · exact hr

end Clean
end Query

/-! ## Actions -/

namespace Action

variable {σ τ α β : Type} [Textual σ] [Textual τ] [Textual α] [Textual β]

/-- From a state without escape characters, the answer or the failure has none, and nor has what is
    logged and the state afterwards. -/
def Clean (x : Action σ α) : Prop :=
  ∀ s, EscapeFree s → EscapeFree (x s)

namespace Clean

variable {x : Action σ α} {f : α → Action σ β} {a : α}

theorem pure (ha : EscapeFree a) : Clean (Pure.pure a : Action σ α) :=
  fun _ hs => ⟨.silent ha, hs⟩

theorem fail {failure : Failure} (h : EscapeFree failure) :
    Clean (Action.fail failure : Action σ α) :=
  fun _ hs => ⟨.silent h, hs⟩

theorem report {event : Log.Event} (h : EscapeFree event) :
    Clean (Action.report event : Action σ Unit) :=
  fun _ hs => ⟨⟨trivial, .singleton h⟩, hs⟩

theorem view {g : σ → α} (h : ∀ s, EscapeFree s → EscapeFree (g s)) : Clean (Action.view g) :=
  fun s hs => ⟨.silent (h s hs), hs⟩

theorem modify {g : σ → σ} (h : ∀ s, EscapeFree s → EscapeFree (g s)) :
    Clean (Action.modify g) :=
  fun s hs => ⟨.silent trivial, h s hs⟩

theorem lift {r : Except Failure α} (h : EscapeFree r) : Clean (Action.lift r : Action σ α) :=
  fun _ hs => ⟨.silent h, hs⟩

theorem ask {part : σ → τ} {q : Query τ α} (hpart : ∀ s, EscapeFree s → EscapeFree (part s))
    (hq : q.Clean) : Clean (Action.ask part q) :=
  fun s hs => ⟨hq (part s) (hpart s hs), hs⟩

theorem onPart {part : σ → τ} {set : τ → σ → σ} {x : Action τ α}
    (hpart : ∀ s, EscapeFree s → EscapeFree (part s))
    (hset : ∀ t s, EscapeFree t → EscapeFree s → EscapeFree (set t s)) (hx : Clean x) :
    Clean (Action.onPart part set x) :=
  fun s hs => ⟨(hx (part s) (hpart s hs)).1, hset _ s (hx (part s) (hpart s hs)).2 hs⟩

theorem bind (hx : Clean x) (hf : ∀ a, EscapeFree a → Clean (f a)) : Clean (x >>= f) := by
  intro s hs
  have h := hx s hs
  rw [bind_apply]
  rcases hxs : x s with ⟨⟨result, log⟩, t⟩
  rw [hxs] at h
  cases result with
  | ok a =>
    have hrest := hf a h.1.1 t h.2
    exact ⟨hrest.1.after h.1.2, hrest.2⟩
  | error failure => exact h

theorem recover {handle : Failure → Action σ α} (hx : Clean x)
    (hh : ∀ failure, EscapeFree failure → Clean (handle failure)) :
    Clean (Action.recover x handle) := by
  intro s hs
  have h := hx s hs
  dsimp only [Action.recover]
  rcases hxs : x s with ⟨⟨result, log⟩, t⟩
  rw [hxs] at h
  cases result with
  | ok a => exact h
  | error failure =>
    have hrest := hh failure h.1.1 t h.2
    exact ⟨hrest.1.after h.1.2, hrest.2⟩

theorem ite {c : Prop} [Decidable c] {y : Action σ α} (hx : Clean x) (hy : Clean y) :
    Clean (if c then x else y) := by
  split
  · exact hx
  · exact hy

end Clean
end Action
end CompileCommands
