/-
  Turns of the callers of a provider.

  * `serve`: a caller's whole turn while nobody else is in the way: it is answered from what is
    kept, or fetches and is answered by its fetch;
  * `serve_hit`, `serve_miss`: the two cases of a turn;
  * `drain_eq_foldl`: once the fetch under way has ended, the waiting callers have whole turns,
    one after the other;
  * `get_eq_serve`: a call of an idle provider is one turn;
  * `run_eq_drain`: however the ends of fetches and the turns of waiting callers follow each
    other, a provider that gets idle in this way is as after `drain`.
-/
import CompileCommands.Toolchain.Provider

namespace CompileCommands.Provider

variable {replies : Replies} {p : Provider}

/-! ## Parts of the state -/

/-- The same provider with other waiting callers. -/
def withWaiting (p : Provider) (w : List Caller) : Provider :=
  { p with waiting := w }

/-- The same provider after another count of calls. -/
def withCalls (p : Provider) (n : Nat) : Provider :=
  { p with calls := n }

theorem withWaiting_of_eq {w : List Caller} (h : p.waiting = w) : p.withWaiting w = p := by
  rw [← h]
  rfl

theorem idle_iff : p.idle ↔ p.busy = none ∧ p.waiting = [] := by
  simp [idle]

/-! ## The end of a fetch -/

theorem finish_of_not_busy (h : p.busy = none) : p.finish replies = p := by
  rw [finish, h]

theorem busy_finish (replies : Replies) (p : Provider) : (p.finish replies).busy = none := by
  unfold finish
  cases h : p.busy with
  | none => exact h
  | some c => rfl

theorem finish_finish (replies : Replies) (p : Provider) :
    (p.finish replies).finish replies = p.finish replies :=
  finish_of_not_busy (busy_finish replies p)

theorem waiting_finish (replies : Replies) (p : Provider) :
    (p.finish replies).waiting = p.waiting := by
  unfold finish
  cases p.busy <;> rfl

theorem calls_finish (replies : Replies) (p : Provider) : (p.finish replies).calls = p.calls := by
  unfold finish
  cases p.busy <;> rfl

theorem finish_withWaiting (replies : Replies) (p : Provider) (w : List Caller) :
    (p.withWaiting w).finish replies = (p.finish replies).withWaiting w := by
  obtain ⟨kept, fetches, busy, waiting, calls, answers⟩ := p
  cases busy <;> rfl

theorem finish_withCalls (replies : Replies) (p : Provider) (n : Nat) :
    (p.withCalls n).finish replies = (p.finish replies).withCalls n := by
  obtain ⟨kept, fetches, busy, waiting, calls, answers⟩ := p
  cases busy <;> rfl

theorem waiting_enter (p : Provider) (c : Caller) : (p.enter c).waiting = p.waiting := by
  unfold enter
  cases p.hit? c.params <;> rfl

theorem calls_enter (p : Provider) (c : Caller) : (p.enter c).calls = p.calls := by
  unfold enter
  cases p.hit? c.params <;> rfl

theorem resume_of_waiting {c : Caller} {rest : List Caller} (hbusy : p.busy = none)
    (hwaiting : p.waiting = c :: rest) : p.resume = (p.withWaiting rest).enter c := by
  simp only [resume, hbusy, hwaiting, withWaiting]

/-- The first waiting caller has its turn, or nothing happens. -/
theorem resume_cases (p : Provider) :
    p.resume = p ∨ ∃ c rest, p.busy = none ∧ p.waiting = c :: rest ∧
      p.resume = (p.withWaiting rest).enter c := by
  cases hbusy : p.busy with
  | some c => exact Or.inl (by simp only [resume, hbusy])
  | none =>
    cases hwaiting : p.waiting with
    | nil => exact Or.inl (by simp only [resume, hbusy, hwaiting])
    | cons c rest => exact Or.inr ⟨c, rest, rfl, rfl, resume_of_waiting hbusy hwaiting⟩

/-! ## A whole turn -/

/-- A caller's turn with the end of its fetch, if it starts one. -/
def serve (replies : Replies) (p : Provider) (c : Caller) : Provider :=
  (p.enter c).finish replies

/-- The answer that a caller's own fetch gives it. -/
def fetched (replies : Replies) (p : Provider) (c : Caller) : Answer :=
  ⟨p.fetches.length, replies p.fetches c.params⟩

/-- A caller for whom something is kept is answered at once. -/
theorem serve_hit {c : Caller} {a : Answer} (hbusy : p.busy = none) (h : p.hit? c.params = some a) :
    serve replies p c = p.answer c a := by
  rw [serve, enter, h]
  exact finish_of_not_busy hbusy

/-- Any other caller fetches, and only an environment is kept. -/
theorem serve_miss {c : Caller} (h : p.hit? c.params = none) :
    serve replies p c =
      { p.answer c (fetched replies p c) with
        busy := none
        fetches := p.fetches ++ [c.params]
        kept := keep p.kept c.params (fetched replies p c) } := by
  rw [serve, enter, h]
  simp [finish, start, answer, lastReply, fetched]

theorem busy_serve (replies : Replies) (p : Provider) (c : Caller) :
    (serve replies p c).busy = none :=
  busy_finish replies _

theorem waiting_serve (replies : Replies) (p : Provider) (c : Caller) :
    (serve replies p c).waiting = p.waiting := by
  rw [serve, waiting_finish, waiting_enter]

theorem calls_serve (replies : Replies) (p : Provider) (c : Caller) :
    (serve replies p c).calls = p.calls := by
  rw [serve, calls_finish, calls_enter]

theorem serve_withWaiting (replies : Replies) (hbusy : p.busy = none) (c : Caller)
    (w : List Caller) :
    serve replies (p.withWaiting w) c = (serve replies p c).withWaiting w := by
  have hhit : (p.withWaiting w).hit? c.params = p.hit? c.params := rfl
  have hbusy' : (p.withWaiting w).busy = none := hbusy
  cases h : p.hit? c.params with
  | some a =>
    rw [serve_hit hbusy h, serve_hit hbusy' (hhit.trans h)]
    rfl
  | none =>
    rw [serve_miss h, serve_miss (hhit.trans h)]
    rfl

theorem serve_withCalls (replies : Replies) (hbusy : p.busy = none) (c : Caller) (n : Nat) :
    serve replies (p.withCalls n) c = (serve replies p c).withCalls n := by
  have hhit : (p.withCalls n).hit? c.params = p.hit? c.params := rfl
  have hbusy' : (p.withCalls n).busy = none := hbusy
  cases h : p.hit? c.params with
  | some a =>
    rw [serve_hit hbusy h, serve_hit hbusy' (hhit.trans h)]
    rfl
  | none =>
    rw [serve_miss h, serve_miss (hhit.trans h)]
    rfl

/-! ## Many turns -/

/-- Whole turns of waiting callers: each turn of `settle` goes on where the last one ended. -/
theorem settle_eq_foldl (replies : Replies) : ∀ (w : List Caller) (p : Provider), p.waiting = w →
    settle replies w.length p = w.foldl (serve replies) ((p.finish replies).withWaiting [])
  | [], p, h => by
    rw [← waiting_finish replies p] at h
    rw [List.length_nil, settle, List.foldl_nil, withWaiting_of_eq h]
  | c :: rest, p, h => by
    have hresume : (p.finish replies).resume = ((p.finish replies).withWaiting rest).enter c :=
      resume_of_waiting (busy_finish replies p) ((waiting_finish replies p).trans h)
    have hwaiting : (p.finish replies).resume.waiting = rest := by
      rw [hresume, waiting_enter]
      rfl
    have hturn : (p.finish replies).resume.finish replies =
        serve replies ((p.finish replies).withWaiting rest) c := by
      rw [hresume, serve]
    have hbusy := busy_finish replies p
    rw [List.length_cons, settle, settle_eq_foldl replies rest _ hwaiting, hturn, List.foldl_cons,
      serve_withWaiting replies hbusy, serve_withWaiting replies hbusy]
    rfl

theorem drain_eq_foldl (replies : Replies) (p : Provider) :
    p.drain replies = p.waiting.foldl (serve replies) ((p.finish replies).withWaiting []) :=
  settle_eq_foldl replies p.waiting p rfl

theorem idle_foldl_serve (replies : Replies) {p : Provider} (h : p.idle) (cs : List Caller) :
    (cs.foldl (serve replies) p).idle := by
  induction cs generalizing p with
  | nil => exact h
  | cons c cs ih =>
    exact ih (idle_iff.2 ⟨busy_serve replies p c, (waiting_serve replies p c).trans (idle_iff.1 h).2⟩)

theorem drain_of_idle (h : p.idle) : p.drain replies = p := by
  obtain ⟨hbusy, hwaiting⟩ := idle_iff.1 h
  rw [drain_eq_foldl, hwaiting, finish_of_not_busy hbusy, List.foldl_nil,
    withWaiting_of_eq hwaiting]

theorem idle_drain (replies : Replies) (p : Provider) : (p.drain replies).idle := by
  have hidle : ((p.finish replies).withWaiting []).idle :=
    idle_iff.2 ⟨busy_finish replies p, rfl⟩
  rw [drain_eq_foldl]
  exact idle_foldl_serve replies hidle _

/-! ## One call -/

/-- The caller that the next call makes. -/
def next (p : Provider) (params : Option String) : Caller :=
  ⟨p.calls, params⟩

theorem call_hit {params : Option String} {a : Answer} (h : p.hit? params = some a) :
    p.call params = (p.withCalls (p.calls + 1)).answer (p.next params) a := by
  have hhit : (p.withCalls (p.calls + 1)).hit? params = some a := h
  simp only [withCalls] at hhit
  simp only [call, hhit, withCalls, next]

theorem call_idle {params : Option String} (h : p.idle) :
    p.call params = (p.withCalls (p.calls + 1)).enter (p.next params) := by
  have hidle : (p.withCalls (p.calls + 1)).idle = true := h
  simp only [withCalls] at hidle
  simp only [call, enter, next, withCalls, hidle, if_true]

theorem call_busy {params : Option String} (h : p.hit? params = none) (hidle : ¬ p.idle) :
    p.call params =
      (p.withCalls (p.calls + 1)).withWaiting (p.waiting ++ [p.next params]) := by
  have hhit : (p.withCalls (p.calls + 1)).hit? params = none := h
  have hidle' : (p.withCalls (p.calls + 1)).idle = false := Bool.eq_false_iff.2 hidle
  simp only [withCalls] at hhit hidle'
  simp only [call, hhit, hidle', withCalls, withWaiting, next]
  rfl

theorem kept_call (p : Provider) (params : Option String) : (p.call params).kept = p.kept := by
  cases h : p.hit? params with
  | some a =>
    rw [call_hit h]
    rfl
  | none =>
    by_cases hidle : p.idle
    · have hhit : (p.withCalls (p.calls + 1)).hit? params = none := h
      rw [call_idle hidle, enter]
      simp only [next, hhit]
      rfl
    · rw [call_busy h hidle]
      rfl

theorem get_eq_serve (replies : Replies) {p : Provider} (h : p.idle) (params : Option String) :
    p.get replies params = serve replies (p.withCalls (p.calls + 1)) (p.next params) := by
  have hwaiting : (p.call params).waiting = [] := by
    rw [call_idle h, waiting_enter]
    exact (idle_iff.1 h).2
  rw [get, drain, hwaiting, List.length_nil, settle, call_idle h, serve]

/-! ## Answers -/

/-- A turn ends with one answer, which is the caller's. -/
theorem answers_serve (replies : Replies) (hbusy : p.busy = none) (c : Caller) :
    ∃ a, (serve replies p c).answers = p.answers ++ [(c.number, a)] := by
  cases h : p.hit? c.params with
  | some a => exact ⟨a, by rw [serve_hit hbusy h]; rfl⟩
  | none => exact ⟨_, by rw [serve_miss h]; rfl⟩

theorem answers_enter (p : Provider) (c : Caller) : p.answers <+: (p.enter c).answers := by
  unfold enter
  cases p.hit? c.params with
  | some a => exact List.prefix_append _ _
  | none => exact List.prefix_rfl

theorem answers_call (p : Provider) (params : Option String) :
    p.answers <+: (p.call params).answers := by
  cases h : p.hit? params with
  | some a =>
    rw [call_hit h]
    exact List.prefix_append _ _
  | none =>
    by_cases hidle : p.idle
    · rw [call_idle hidle]
      exact answers_enter (p.withCalls (p.calls + 1)) _
    · rw [call_busy h hidle]
      exact List.prefix_rfl

theorem answers_finish (replies : Replies) (p : Provider) :
    p.answers <+: (p.finish replies).answers := by
  unfold finish
  cases p.busy with
  | none => exact List.prefix_rfl
  | some c => exact List.prefix_append _ _

theorem answers_resume (p : Provider) : p.answers <+: p.resume.answers := by
  rcases resume_cases p with h | ⟨c, rest, -, -, h⟩
  · have hsame : p.resume.answers = p.answers := congrArg answers h
    exact hsame ▸ List.prefix_rfl
  · rw [h]
    exact answers_enter (p.withWaiting rest) c

/-- No answer is ever taken back or changed. -/
theorem answers_step (replies : Replies) (p : Provider) (e : Event) :
    p.answers <+: (p.step replies e).answers := by
  cases e with
  | call params => exact answers_call p params
  | finish => exact answers_finish replies p
  | resume => exact answers_resume p
  | clear => exact List.prefix_rfl

theorem answers_run (replies : Replies) (p : Provider) (events : List Event) :
    p.answers <+: (p.run replies events).answers := by
  unfold run
  induction events generalizing p with
  | nil => exact List.prefix_rfl
  | cons e events ih => exact (answers_step replies p e).trans (ih _)

/-! ## Any order of steps -/

/-- Neither the end of a fetch nor a turn changes where the rest of them leads. -/
theorem drain_step {replies : Replies} {e : Event} (h : e = .finish ∨ e = .resume) (p : Provider) :
    (p.step replies e).drain replies = p.drain replies := by
  rcases h with rfl | rfl
  · rw [step, drain_eq_foldl, drain_eq_foldl, finish_finish, waiting_finish]
  · rw [step]
    rcases resume_cases p with hsame | ⟨c, rest, hbusy, hwaiting, hturn⟩
    · rw [hsame]
    · have hrest : p.resume.waiting = rest := by
        rw [hturn, waiting_enter]
        rfl
      rw [drain, drain, hrest, hwaiting, List.length_cons, settle, finish_of_not_busy hbusy]

theorem drain_run {replies : Replies} {turns : List Event}
    (h : ∀ e ∈ turns, e = .finish ∨ e = .resume) (p : Provider) :
    (p.run replies turns).drain replies = p.drain replies := by
  unfold run
  induction turns generalizing p with
  | nil => rfl
  | cons e turns ih =>
    rw [List.foldl_cons, ih (fun x hx => h x (by simp [hx])), drain_step (h e (by simp))]

/-- The turns by which all callers get their answers. -/
theorem exists_run_eq_settle (replies : Replies) (n : Nat) (p : Provider) :
    ∃ turns : List Event, (∀ e ∈ turns, e = .finish ∨ e = .resume) ∧
      p.run replies turns = settle replies n p := by
  induction n generalizing p with
  | zero => exact ⟨[.finish], by simp, rfl⟩
  | succ n ih =>
    obtain ⟨turns, hturns, hrun⟩ := ih (p.finish replies).resume
    refine ⟨.finish :: .resume :: turns, ?_, hrun⟩
    intro e he
    simp only [List.mem_cons] at he
    rcases he with rfl | rfl | he
    · exact Or.inl rfl
    · exact Or.inr rfl
    · exact hturns e he

/-- Many calls at once are a run: the calls, and the turns by which all get their answers. -/
theorem exists_run_eq_gather (replies : Replies) (p : Provider) (params : List (Option String)) :
    ∃ turns : List Event, (∀ e ∈ turns, e = .finish ∨ e = .resume) ∧
      p.run replies (params.map .call ++ turns) = p.gather replies params := by
  obtain ⟨turns, hturns, hrun⟩ :=
    exists_run_eq_settle replies (params.foldl call p).waiting.length (params.foldl call p)
  refine ⟨turns, hturns, ?_⟩
  rw [run, List.foldl_append, List.foldl_map]
  exact hrun

theorem run_eq_drain {replies : Replies} {turns : List Event}
    (h : ∀ e ∈ turns, e = .finish ∨ e = .resume) {p : Provider}
    (hidle : (p.run replies turns).idle) : p.run replies turns = p.drain replies := by
  rw [← drain_run h, drain_of_idle hidle]

end CompileCommands.Provider
