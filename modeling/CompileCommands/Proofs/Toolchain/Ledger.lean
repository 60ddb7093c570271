/-
  What becomes of the calls of a provider, from one clearing to the next.

  * `Step`, `performAll`: single calls, many calls at once and clearings, one after the other;
  * `Record`, `recordOf`: a call with its answer, and whether it made a fetch of its own;
  * `Ledger`: the laws of the records since what was captured was last dropped;
  * `Ledger.get`: one more call keeps the laws; `Ledger.gather`: so do many calls at once, since
    they come to the same as one after the other;
  * `performAll_fetchesOnce`: between two clearings every key has at most one fetch that succeeds. It
    answers all later calls for the key, and those before it fetch for themselves.
-/
import CompileCommands.Proofs.Toolchain.Gather

namespace CompileCommands.Provider

/-! ## Steps -/

/-- What is asked of a provider. -/
inductive Step where
  /-- One call, up to its answer. -/
  | get (params : Option String)
  /-- Many calls at once, up to all answers. -/
  | gather (params : List (Option String))
  /-- What was captured is dropped. -/
  | clear
  deriving DecidableEq

/-- The calls of a step, in order, by their parameters. -/
def Step.calls : Step → List (Option String)
  | get params => [params]
  | gather params => params
  | clear => []

/-- What a step does. -/
def perform (replies : Replies) (p : Provider) : Step → Provider
  | .get params => p.get replies params
  | .gather params => p.gather replies params
  | .clear => p.clear

/-- What steps do, one after the other. -/
def performAll (replies : Replies) (p : Provider) (steps : List Step) : Provider :=
  steps.foldl (perform replies) p

variable {replies : Replies} {p q : Provider}

/-! ## Between steps -/

/-- No call is under way, and only calls that were made have answers. -/
structure Ready (p : Provider) : Prop where
  idle : p.idle
  unasked : ∀ n, p.calls ≤ n → p.answer? n = none

theorem answer?_answer (p : Provider) (c : Caller) (a : Answer) (n : ℕ) :
    (p.answer c a).answer? n = (p.answer? n).or (if n = c.number then some a else none) := by
  rw [answer?, answer, List.lookup_append, List.lookup_cons, List.lookup_nil]
  by_cases h : n = c.number
  · rw [if_pos h, beq_iff_eq.2 h]
    rfl
  · rw [if_neg h, beq_eq_false_iff_ne.2 h]
    rfl

theorem calls_get (replies : Replies) (hp : p.idle) (params : Option String) :
    (p.get replies params).calls = p.calls + 1 := by
  rw [get_eq_serve replies hp, calls_serve]
  rfl

/-! ## Records -/

/-- The answer is an environment. -/
def Answer.Succeeds (a : Answer) : Prop :=
  ∃ environment, a.reply = .ok (some environment)

/-- A call with what came of it. -/
structure Record where
  /-- The parameters of the call. -/
  params : Option String
  /-- The call made a fetch of its own. -/
  fetched : Bool
  /-- The answer to the call. -/
  answer : Answer

/-- The fetches of records, in order, by their parameters. -/
def fetchesOf (log : List Record) : List (Option String) :=
  (log.filter (·.fetched)).map (·.params)

/-- The record of a call that is made while no other is under way. -/
def recordOf (replies : Replies) (p : Provider) (params : Option String) : Record :=
  match p.hit? params with
  | some a => ⟨params, false, a⟩
  | none => ⟨params, true, fetched replies p (p.next params)⟩

@[simp] theorem fetchesOf_append (log later : List Record) :
    fetchesOf (log ++ later) = fetchesOf log ++ fetchesOf later := by
  simp [fetchesOf]

@[simp] theorem params_recordOf (replies : Replies) (p : Provider) (params : Option String) :
    (recordOf replies p params).params = params := by
  unfold recordOf
  cases p.hit? params <;> rfl

theorem recordOf_hit {params : Option String} {a : Answer} (h : p.hit? params = some a) :
    recordOf replies p params = ⟨params, false, a⟩ := by
  rw [recordOf, h]

theorem recordOf_miss {params : Option String} (h : p.hit? params = none) :
    recordOf replies p params = ⟨params, true, p.fetches.length, replies p.fetches params⟩ := by
  rw [recordOf, h]
  rfl

/-- What one call does, by its record. -/
theorem get_eq_recordOf (replies : Replies) (hp : p.idle) (params : Option String) :
    p.get replies params =
      let r := recordOf replies p params
      { (p.withCalls (p.calls + 1)).answer (p.next params) r.answer with
        fetches := p.fetches ++ fetchesOf [r]
        kept := if r.fetched then keep p.kept params r.answer else p.kept } := by
  have hbusy : (p.withCalls (p.calls + 1)).busy = none := (idle_iff.1 hp).1
  rw [get_eq_serve replies hp]
  cases h : p.hit? params with
  | some a =>
    have hhit : (p.withCalls (p.calls + 1)).hit? (p.next params).params = some a := h
    rw [serve_hit hbusy hhit, recordOf_hit h]
    simp [fetchesOf, Provider.answer, withCalls]
  | none =>
    have hmiss : (p.withCalls (p.calls + 1)).hit? (p.next params).params = none := h
    rw [serve_miss hmiss, recordOf_miss h]
    rw [withCalls] at hbusy
    simp [fetchesOf, Provider.answer, withCalls, hbusy, fetched, next]

theorem ready_get (replies : Replies) (hp : Ready p) (params : Option String) :
    Ready (p.get replies params) := by
  refine ⟨idle_get replies p params, fun n hn => ?_⟩
  rw [calls_get replies hp.idle] at hn
  have hanswer : (p.get replies params).answer? n = (p.answer? n).or
      (if n = p.calls then some (recordOf replies p params).answer else none) := by
    rw [get_eq_recordOf replies hp.idle]
    exact answer?_answer p (p.next params) _ n
  rw [hanswer, hp.unasked n (by omega), if_neg (by omega)]
  rfl

theorem calls_gather (replies : Replies) (hp : p.idle) (params : List (Option String)) :
    (p.gather replies params).calls = (params.foldl (get replies) p).calls :=
  (agree_gather replies hp params).calls

theorem ready_foldl_get (replies : Replies) (hp : Ready p) (params : List (Option String)) :
    Ready (params.foldl (get replies) p) :=
  List.foldlRecOn params _ hp fun _ hq x _ => ready_get replies hq x

theorem ready_gather (replies : Replies) (hp : Ready p) (params : List (Option String)) :
    Ready (p.gather replies params) := by
  refine ⟨idle_drain replies _, fun n hn => ?_⟩
  rw [calls_gather replies hp.idle] at hn
  rw [answer?_gather replies hp.idle]
  exact (ready_foldl_get replies hp params).unasked n hn

theorem ready_performAll (replies : Replies) (hp : Ready p) (steps : List Step) :
    Ready (performAll replies p steps) := by
  refine List.foldlRecOn steps _ hp fun q hq s _ => ?_
  cases s with
  | get params => exact ready_get replies hq params
  | gather params => exact ready_gather replies hq params
  | clear => exact ⟨hq.idle, hq.unasked⟩

/-! ## The laws -/

/-- The laws of the records of all calls that were made since a provider `p` had nothing kept, when
    the provider has become `q`. -/
structure Ledger (replies : Replies) (p q : Provider) (log : List Record) : Prop where
  /-- The records are those of the calls, by number, and every call has its answer. -/
  calls : q.calls = p.calls + log.length
  answers : ∀ (i : ℕ) (r : Record), log[i]? = some r → q.answer? (p.calls + i) = some r.answer
  /-- All fetches are on record. -/
  fetches : q.fetches = p.fetches ++ fetchesOf log
  /-- A call that fetches gets the outcome of its own fetch. -/
  own : ∀ (i : ℕ) (r : Record), log[i]? = some r → r.fetched →
    r.answer = ⟨(p.fetches ++ fetchesOf (log.take i)).length,
      replies (p.fetches ++ fetchesOf (log.take i)) r.params⟩
  /-- A call that does not fetch gets the outcome of an earlier fetch for its key, which succeeded. -/
  source : ∀ (i : ℕ) (r : Record), log[i]? = some r → r.fetched = false →
    ∃ (j : ℕ) (e : Record), j < i ∧ log[j]? = some e ∧ key e.params = key r.params ∧ e.fetched ∧
      e.answer.Succeeds ∧ r.answer = e.answer
  /-- After a success, all calls for the key get the same answer, and none fetches. -/
  shared : ∀ (i j : ℕ) (e r : Record), i < j → log[i]? = some e → log[j]? = some r →
    key e.params = key r.params → e.answer.Succeeds → r.fetched = false ∧ r.answer = e.answer
  /-- What is kept are the outcomes of the fetches that succeeded. -/
  kept : ∀ k s, q.kept.get? k = some s ↔
    ∃ r ∈ log, r.fetched ∧ key r.params = k ∧ r.answer = ⟨s.fetch, .ok (some s.environment)⟩

theorem getElem?_concat_cases {α : Type} {log : List α} {last r : α} {i : ℕ}
    (h : (log ++ [last])[i]? = some r) :
    (i < log.length ∧ log[i]? = some r) ∨ (i = log.length ∧ r = last) := by
  rw [List.getElem?_append] at h
  split at h
  · next hi => exact Or.inl ⟨hi, h⟩
  · next hi =>
    obtain ⟨hlt, hr⟩ := List.getElem?_eq_some_iff.1 h
    rw [List.length_singleton] at hlt
    exact Or.inr ⟨by omega, by simpa using hr.symm⟩

namespace Ledger

variable {log : List Record}

theorem nil (replies : Replies) (hp : p.kept = []) : Ledger replies p p [] := by
  refine ⟨rfl, by simp, by simp [fetchesOf], by simp, by simp, by simp, fun k s => ?_⟩
  rw [hp]
  simp

/-- Only the answers, the fetches and what is kept count. -/
theorem congr (h : Ledger replies p q log) {q' : Provider} (hcalls : q'.calls = q.calls)
    (hanswers : ∀ n, q'.answer? n = q.answer? n) (hfetches : q'.fetches = q.fetches)
    (hkept : q'.kept = q.kept) : Ledger replies p q' log :=
  { h with
    calls := hcalls.trans h.calls
    answers := fun i r hr => (hanswers _).trans (h.answers i r hr)
    fetches := hfetches.trans h.fetches
    kept := fun k s => by rw [hkept]; exact h.kept k s }

/-- What a call got that had success is kept. -/
theorem hit?_of_succeeds (h : Ledger replies p q log) {i : ℕ} {e : Record} (he : log[i]? = some e)
    (hsuccess : e.answer.Succeeds) {params : Option String} (hkey : key e.params = key params) :
    q.hit? params = some e.answer := by
  have hkept (r : Record) (hr : r ∈ log) (hfetched : r.fetched) (hsame : key r.params = key params)
      (hanswer : e.answer = r.answer) : q.hit? params = some e.answer := by
    obtain ⟨environment, hreply⟩ := hsuccess
    have hs : e.answer = ⟨e.answer.fetch, .ok (some environment)⟩ := by rw [← hreply]
    have hget := (h.kept (key params) ⟨e.answer.fetch, environment⟩).2
      ⟨r, hr, hfetched, hsame, hanswer ▸ hs⟩
    rw [hit?, hget, hs]
    rfl
  cases hfetched : e.fetched with
  | true => exact hkept e (List.mem_of_getElem? he) hfetched hkey rfl
  | false =>
    obtain ⟨j, r, -, hr, hsame, hr', -, hanswer⟩ := h.source i e he hfetched
    exact hkept r (List.mem_of_getElem? hr) hr' (hsame.trans hkey) hanswer

/-- What is kept for a call is the outcome of a fetch on record. -/
theorem exists_of_hit? (h : Ledger replies p q log) {params : Option String} {a : Answer}
    (hhit : q.hit? params = some a) : ∃ (j : ℕ) (e : Record), j < log.length ∧ log[j]? = some e ∧
      key e.params = key params ∧ e.fetched ∧ e.answer.Succeeds ∧ a = e.answer := by
  obtain ⟨s, hs, rfl⟩ := Option.map_eq_some_iff.1 hhit
  obtain ⟨e, he, hfetched, hkey, hanswer⟩ := (h.kept _ s).1 hs
  obtain ⟨j, hj, he⟩ := List.mem_iff_getElem.1 he
  refine ⟨j, e, hj, List.getElem?_eq_some_iff.2 ⟨hj, he⟩, hkey, hfetched, ?_, hanswer.symm⟩
  exact ⟨s.environment, by rw [hanswer]⟩

/-- What is kept after one more call. -/
theorem kept_get (h : Ledger replies p q log) (hq : q.idle) (params : Option String) (k : String)
    (s : Snapshot) : (q.get replies params).kept.get? k = some s ↔
      ∃ r ∈ log ++ [recordOf replies q params], r.fetched ∧ key r.params = k ∧
        r.answer = ⟨s.fetch, .ok (some s.environment)⟩ := by
  simp only [List.mem_append, List.mem_singleton, or_and_right, exists_or, exists_eq_left,
    ← h.kept k s]
  rw [get_eq_recordOf replies hq]
  cases hhit : q.hit? params with
  | some a => simp [recordOf_hit hhit]
  | none =>
    have hnone : q.kept.get? (key params) = none := Option.map_eq_none_iff.1 hhit
    rw [recordOf_miss hhit]
    dsimp only
    rw [if_pos rfl, keep]
    cases replies q.fetches params with
    | error failure => simp
    | ok reply =>
      cases reply with
      | none => simp
      | some environment =>
        dsimp only
        rw [Bindings.get?_insert]
        by_cases hk : k = key params
        · subst hk
          obtain ⟨fetch, environment'⟩ := s
          simp [hnone]
        · simp [hk, Ne.symm hk]

/-- One more call. -/
theorem get (h : Ledger replies p q log) (hq : Ready q) (params : Option String) :
    Ledger replies p (q.get replies params) (log ++ [recordOf replies q params]) := by
  have hget := get_eq_recordOf replies hq.idle params
  have hanswer (n : ℕ) : (q.get replies params).answer? n = (q.answer? n).or
      (if n = q.calls then some (recordOf replies q params).answer else none) := by
    rw [hget]
    exact answer?_answer q (q.next params) _ n
  -- in each law, only the case in which the new record is the later one of a pair is new
  refine ⟨?calls, ?answers, ?fetches, ?own, ?source, ?shared, h.kept_get hq.idle params⟩
  case calls =>
    rw [calls_get replies hq.idle, h.calls, List.length_append, List.length_singleton,
      Nat.add_assoc]
  case answers =>
    intro i r hr
    rw [hanswer]
    rcases getElem?_concat_cases hr with ⟨-, hr⟩ | ⟨rfl, rfl⟩
    · rw [h.answers i r hr]
      rfl
    · rw [← h.calls, hq.unasked _ (Nat.le_refl _), if_pos rfl]
      rfl
  case fetches => rw [hget, fetchesOf_append, ← List.append_assoc, ← h.fetches]
  case own =>
    intro i r hr hfetched
    rcases getElem?_concat_cases hr with ⟨hi, hr⟩ | ⟨rfl, rfl⟩
    · rw [List.take_append_of_le_length (Nat.le_of_lt hi)]
      exact h.own i r hr hfetched
    · rw [List.take_left' rfl, ← h.fetches]
      cases hhit : q.hit? params with
      | some a =>
        rw [recordOf_hit hhit] at hfetched
        cases hfetched
      | none => rw [recordOf_miss hhit]
  case source =>
    intro i r hr hfetched
    rcases getElem?_concat_cases hr with ⟨hi, hr⟩ | ⟨rfl, rfl⟩
    · obtain ⟨j, e, hj, he, hrest⟩ := h.source i r hr hfetched
      exact ⟨j, e, hj, by rw [List.getElem?_append_left (by omega)]; exact he, hrest⟩
    · cases hhit : q.hit? params with
      | some a =>
        obtain ⟨j, e, hj, he, hkey, hfetched, hsuccess, hanswer⟩ := h.exists_of_hit? hhit
        rw [recordOf_hit hhit]
        refine ⟨j, e, hj, ?_, hkey, hfetched, hsuccess, hanswer⟩
        rw [List.getElem?_append_left hj]
        exact he
      | none =>
        rw [recordOf_miss hhit] at hfetched
        cases hfetched
  case shared =>
    intro i j e r hij he hr hkey hsuccess
    rcases getElem?_concat_cases he with ⟨hi, he⟩ | ⟨rfl, -⟩
    · rcases getElem?_concat_cases hr with ⟨-, hr⟩ | ⟨rfl, rfl⟩
      · exact h.shared i j e r hij he hr hkey hsuccess
      · rw [params_recordOf] at hkey
        rw [recordOf_hit (h.hit?_of_succeeds he hsuccess hkey)]
        exact ⟨rfl, rfl⟩
    · have hj := (List.getElem?_eq_some_iff.1 hr).1
      rw [List.length_append, List.length_singleton] at hj
      omega

theorem foldl_get (h : Ledger replies p q log) (hq : Ready q) (params : List (Option String)) :
    ∃ new, new.map (·.params) = params ∧
      Ledger replies p (params.foldl (Provider.get replies) q) (log ++ new) := by
  induction params generalizing q log with
  | nil => exact ⟨[], rfl, by simpa using h⟩
  | cons x params ih =>
    obtain ⟨new, hnew, hledger⟩ := ih (h.get hq x) (ready_get replies hq x)
    refine ⟨recordOf replies q x :: new, by simp [hnew], ?_⟩
    rw [List.append_assoc] at hledger
    exact hledger

/-- Many calls at once. -/
theorem gather (h : Ledger replies p q log) (hq : Ready q) (params : List (Option String)) :
    ∃ new, new.map (·.params) = params ∧
      Ledger replies p (q.gather replies params) (log ++ new) := by
  obtain ⟨new, hnew, hledger⟩ := h.foldl_get hq params
  have hagree := agree_gather replies hq.idle params
  refine ⟨new, hnew, hledger.congr hagree.calls ?_ hagree.fetches hagree.kept⟩
  exact answer?_gather replies hq.idle params

theorem perform (h : Ledger replies p q log) (hq : Ready q) {step : Step} (hstep : step ≠ .clear) :
    ∃ new, new.map (·.params) = step.calls ∧
      Ledger replies p (q.perform replies step) (log ++ new) := by
  cases step with
  | get params => exact ⟨_, by simp [Step.calls], h.get hq params⟩
  | gather params => exact h.gather hq params
  | clear => contradiction

/-- By induction on the steps, with the records of each step following those before it. -/
theorem performAll (h : Ledger replies p q log) (hq : Ready q) {steps : List Step}
    (hsteps : .clear ∉ steps) : ∃ new, new.map (·.params) = steps.flatMap Step.calls ∧
      Ledger replies p (q.performAll replies steps) (log ++ new) := by
  induction steps generalizing q log with
  | nil =>
    refine ⟨[], rfl, ?_⟩
    rw [List.append_nil]
    exact h
  | cons step steps ih =>
    rw [List.mem_cons, not_or] at hsteps
    obtain ⟨first, hfirst, hledger⟩ := h.perform hq (Ne.symm hsteps.1)
    obtain ⟨new, hnew, hledger⟩ := ih hledger (ready_performAll replies hq [step]) hsteps.2
    refine ⟨first ++ new, by simp [hfirst, hnew], ?_⟩
    rw [List.append_assoc] at hledger
    exact hledger

/-- No key has two fetches that succeed. -/
theorem once (h : Ledger replies p q log) {i j : ℕ} {e r : Record} (he : log[i]? = some e)
    (hr : log[j]? = some r) (hkey : key e.params = key r.params)
    (hfetched : e.fetched ∧ r.fetched) (hsuccess : e.answer.Succeeds ∧ r.answer.Succeeds) : i = j := by
  rcases Nat.lt_trichotomy i j with hij | hij | hij
  · rw [(h.shared i j e r hij he hr hkey hsuccess.1).1] at hfetched
    cases hfetched.2
  · exact hij
  · rw [(h.shared j i r e hij hr he hkey.symm hsuccess.2).1] at hfetched
    cases hfetched.1

/-- Without an earlier success for its key, a call fetches. -/
theorem fetched (h : Ledger replies p q log) {i : ℕ} {r : Record} (hr : log[i]? = some r)
    (hnone : ∀ j e, j < i → log[j]? = some e → key e.params = key r.params →
      ¬e.answer.Succeeds) : r.fetched := by
  cases hfetched : r.fetched with
  | true => rfl
  | false =>
    obtain ⟨j, e, hj, he, hkey, -, hsuccess, -⟩ := h.source i r hr hfetched
    exact absurd hsuccess (hnone j e hj he hkey)

end Ledger

/-- Only an environment changes what is kept. -/
theorem kept_finish {c : Caller} (hbusy : p.busy = some c)
    (hreply : ∀ environment, lastReply replies p c ≠ .ok (some environment)) :
    (p.finish replies).kept = p.kept := by
  rw [finish, hbusy]
  dsimp only [keep]
  split
  · next environment h => exact absurd h (hreply environment)
  · rfl
  · rfl

/-- **Between two clearings every key has at most one fetch that succeeds.** After any steps and a
    clearing, let more steps follow without one. All their calls have answers. The first call for a
    key fetches, as does every call as long as no fetch for its key has had success, and gets the
    outcome of its own fetch; a fetch without success changes nothing of what is kept. Once a
    fetch has had success, even with an empty environment, all calls for the key get its outcome
    and none fetches. -/
theorem performAll_fetchesOnce (replies : Replies) (before steps : List Step)
    (hsteps : .clear ∉ steps) :
    let p := (performAll replies {} before).clear
    let q := performAll replies p steps
    ∃ log : List Record,
      log.map (·.params) = steps.flatMap Step.calls ∧ Ledger replies p q log ∧ q.idle ∧
      (∀ (i j : ℕ) (e r : Record), log[i]? = some e → log[j]? = some r → key e.params = key r.params →
        e.fetched ∧ r.fetched → e.answer.Succeeds ∧ r.answer.Succeeds → i = j) ∧
      (∀ (i : ℕ) (r : Record), log[i]? = some r → (∀ (j : ℕ) (e : Record), j < i →
        log[j]? = some e → key e.params = key r.params → ¬e.answer.Succeeds) → r.fetched) ∧
      ∀ (s : Provider) (c : Caller), s.busy = some c →
        (∀ environment, lastReply replies s c ≠ .ok (some environment)) →
        (s.finish replies).kept = s.kept := by
  intro p q
  have hempty : Ready {} := ⟨rfl, fun _ _ => rfl⟩
  have hp : Ready p := by
    obtain ⟨hidle, hunasked⟩ := ready_performAll replies hempty before
    exact ⟨hidle, hunasked⟩
  obtain ⟨log, hlog, hledger⟩ := (Ledger.nil replies rfl).performAll hp hsteps
  rw [List.nil_append] at hledger
  refine ⟨log, hlog, hledger, (ready_performAll replies hp steps).idle, ?_, ?_, ?_⟩
  · exact fun i j e r => hledger.once
  · exact fun i r => hledger.fetched
  · exact fun s c => kept_finish

/-- The first fetch gives nothing, the second fails, and the later ones give an environment without
    variables. -/
def thirdTime : Replies := fun earlier _ =>
  match earlier.length with
  | 0 => .ok none
  | 1 => .error (.runtime "injected")
  | _ => .ok (some [])

/-- After a clearing, the first of three calls at once fails, the second fetches again, and the
    third and a later call share the empty environment that the second has fetched. -/
theorem performAll_fetchesOnce_thirdTime :
    .clear ∉ [Step.gather [none, some "", none], .get none] ∧
    ∃ log : List Record, log.map (·.params) = [none, some "", none, none] ∧
      fetchesOf log = [none, some ""] ∧
      ∀ (i : ℕ) (r : Record), log[i]? = some r → 1 ≤ i → r.answer = ⟨2, .ok (some [])⟩ := by
  have hsteps : Step.clear ∉ [Step.gather [none, some "", none], .get none] := by decide
  refine ⟨hsteps, ?_⟩
  obtain ⟨log, hlog, hledger, -⟩ :=
    performAll_fetchesOnce thirdTime [.get (some "x")] _ hsteps
  have hfetches : [some "x", none, some ""] = [some "x"] ++ fetchesOf log := hledger.fetches
  have hlater : [none, some ""] = fetchesOf log := by simpa using hfetches
  have hlength : log.length = 4 := by simpa [Step.calls] using congrArg List.length hlog
  refine ⟨log, hlog, hlater.symm, ?_⟩
  intro i r hr hi
  have hlt := (List.getElem?_eq_some_iff.1 hr).1
  have hanswer := hledger.answers i r hr
  obtain rfl | rfl | rfl : i = 1 ∨ i = 2 ∨ i = 3 := by omega
  · exact (Option.some.inj hanswer).symm
  · exact (Option.some.inj hanswer).symm
  · exact (Option.some.inj hanswer).symm

end CompileCommands.Provider
