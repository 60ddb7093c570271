/-
  Many calls at once are as good as one after the other.

  * `Agree`: two providers in the same state, up to the order of their answers;
  * `Agree.serve`, `agree_drain_answer`: turns keep the agreement, and it makes no difference
    whether a caller is answered from what is kept before or after the turns of others;
  * `drain_call_miss`: a call for which nothing is kept is served after all earlier ones;
  * `agree_gather`: by induction on the calls, many at once agree with one after the other. What
    was kept at the beginning is kept throughout, so that an answer that overtakes the waiting
    callers is the one that the call would get in its turn;
  * `gather_eq_get`: the same answer to every call, the same fetches in the same order and the
    same environments kept, however the turns follow each other.
-/
import CompileCommands.Proofs.Toolchain.Turn
import Mathlib.Data.List.Induction
import Mathlib.Data.List.Perm.Basic
import Mathlib.Data.List.Range

namespace CompileCommands.Provider

/-! ## Agreement -/

/-- Two providers differ at most in the order of their answers. -/
structure Agree (p q : Provider) : Prop where
  kept : p.kept = q.kept
  fetches : p.fetches = q.fetches
  busy : p.busy = q.busy
  waiting : p.waiting = q.waiting
  calls : p.calls = q.calls
  answers : p.answers.Perm q.answers

namespace Agree

variable {p q r : Provider}

theorem refl (p : Provider) : Agree p p :=
  ⟨rfl, rfl, rfl, rfl, rfl, .refl _⟩

theorem trans (h : Agree p q) (h' : Agree q r) : Agree p r :=
  ⟨h.kept.trans h'.kept, h.fetches.trans h'.fetches, h.busy.trans h'.busy,
    h.waiting.trans h'.waiting, h.calls.trans h'.calls, h.answers.trans h'.answers⟩

theorem hit?_eq (h : Agree p q) (params : Option String) : p.hit? params = q.hit? params := by
  rw [hit?, hit?, h.kept]

theorem answer (h : Agree p q) (c : Caller) (a : Answer) : Agree (p.answer c a) (q.answer c a) :=
  ⟨h.kept, h.fetches, h.busy, h.waiting, h.calls, h.answers.append_right _⟩

theorem withCalls (h : Agree p q) (n : ℕ) : Agree (p.withCalls n) (q.withCalls n) :=
  ⟨h.kept, h.fetches, h.busy, h.waiting, rfl, h.answers⟩

theorem serve (h : Agree p q) (replies : Replies) (hbusy : q.busy = none) (c : Caller) :
    Agree (serve replies p c) (serve replies q c) := by
  cases hhit : q.hit? c.params with
  | some a =>
    rw [serve_hit (h.busy.trans hbusy) ((h.hit?_eq _).trans hhit), serve_hit hbusy hhit]
    exact h.answer c a
  | none =>
    have hfetched : fetched replies p c = fetched replies q c := by
      rw [fetched, fetched, h.fetches]
    rw [serve_miss ((h.hit?_eq _).trans hhit), serve_miss hhit]
    refine ⟨?_, ?_, rfl, h.waiting, h.calls, ?_⟩
    · rw [h.kept, hfetched]
    · rw [h.fetches]
    · rw [hfetched]
      exact h.answers.append_right _

theorem foldl_serve (h : Agree p q) (replies : Replies) (hbusy : q.busy = none) (cs : List Caller) :
    Agree (cs.foldl (Provider.serve replies) p) (cs.foldl (Provider.serve replies) q) := by
  induction cs generalizing p q with
  | nil => exact h
  | cons c cs ih => exact ih (h.serve replies hbusy c) (busy_serve replies q c)

end Agree

/-! ## Early answers -/

variable {replies : Replies} {p : Provider}

theorem agree_finish_answer (replies : Replies) (p : Provider) (c : Caller) (a : Answer) :
    Agree ((p.answer c a).finish replies) ((p.finish replies).answer c a) := by
  unfold finish
  have hbusy : (p.answer c a).busy = p.busy := rfl
  cases h : p.busy with
  | none => rw [hbusy, h]; exact .refl _
  | some b =>
    rw [hbusy, h]
    refine ⟨rfl, rfl, rfl, rfl, rfl, ?_⟩
    simp only [Provider.answer, List.append_assoc]
    exact List.Perm.append_left _ List.perm_append_comm

/-- A caller that is answered before another's turn may as well be answered after it. -/
theorem agree_serve_answer (replies : Replies) (hbusy : p.busy = none) (b c : Caller) (a : Answer) :
    Agree (serve replies (p.answer c a) b) ((serve replies p b).answer c a) := by
  have swap : ∀ x : ℕ × Answer, (p.answers ++ [(c.number, a)] ++ [x]).Perm
      (p.answers ++ [x] ++ [(c.number, a)]) := by
    intro x
    rw [List.append_assoc, List.append_assoc]
    exact List.Perm.append_left _ List.perm_append_comm
  have hhit : (p.answer c a).hit? b.params = p.hit? b.params := rfl
  have hbusy' : (p.answer c a).busy = none := hbusy
  cases h : p.hit? b.params with
  | some x =>
    rw [serve_hit hbusy h, serve_hit hbusy' (hhit.trans h)]
    exact ⟨rfl, rfl, rfl, rfl, rfl, swap _⟩
  | none =>
    rw [serve_miss h, serve_miss (hhit.trans h)]
    exact ⟨rfl, rfl, rfl, rfl, rfl, swap _⟩

theorem agree_foldl_serve_answer (replies : Replies) (hbusy : p.busy = none) (cs : List Caller)
    (c : Caller) (a : Answer) :
    Agree (cs.foldl (serve replies) (p.answer c a)) ((cs.foldl (serve replies) p).answer c a) := by
  induction cs generalizing p with
  | nil => exact .refl _
  | cons b cs ih =>
    have hturn := agree_serve_answer replies hbusy b c a
    have hbusy' : ((serve replies p b).answer c a).busy = none := busy_serve replies p b
    exact (hturn.foldl_serve replies hbusy' cs).trans (ih (busy_serve replies p b))

theorem agree_drain_answer (replies : Replies) (p : Provider) (c : Caller) (a : Answer) :
    Agree ((p.answer c a).drain replies) ((p.drain replies).answer c a) := by
  have hwaiting : (p.answer c a).waiting = p.waiting := rfl
  have hbusy : ((p.finish replies).withWaiting []).busy = none := busy_finish replies p
  have hstart : Agree (((p.answer c a).finish replies).withWaiting [])
      (((p.finish replies).withWaiting []).answer c a) := by
    obtain ⟨h₁, h₂, h₃, -, h₅, h₆⟩ := agree_finish_answer replies p c a
    exact ⟨h₁, h₂, h₃, rfl, h₅, h₆⟩
  rw [drain_eq_foldl, drain_eq_foldl, hwaiting]
  exact (hstart.foldl_serve replies hbusy _).trans
    (agree_foldl_serve_answer replies hbusy _ c a)

/-! ## Calls -/

theorem foldl_serve_withCalls (replies : Replies) (hbusy : p.busy = none) (cs : List Caller)
    (n : ℕ) :
    cs.foldl (serve replies) (p.withCalls n) = (cs.foldl (serve replies) p).withCalls n := by
  induction cs generalizing p with
  | nil => rfl
  | cons c cs ih =>
    rw [List.foldl_cons, serve_withCalls replies hbusy, ih (busy_serve replies p c)]
    rfl

/-- A call for which nothing is kept is served after all that are under way. -/
theorem drain_call_miss (replies : Replies) {params : Option String} (h : p.hit? params = none) :
    (p.call params).drain replies =
      serve replies ((p.drain replies).withCalls (p.calls + 1)) (p.next params) := by
  by_cases hidle : p.idle
  · rw [drain_of_idle hidle]
    exact get_eq_serve replies hidle params
  · have hbusy : ((p.finish replies).withWaiting []).busy = none := busy_finish replies p
    have hstart : (p.call params).finish replies = (((p.finish replies).withCalls
        (p.calls + 1)).withWaiting (p.waiting ++ [p.next params])) := by
      rw [call_busy h hidle, finish_withWaiting, finish_withCalls]
    have hwaiting : (p.call params).waiting = p.waiting ++ [p.next params] := by
      rw [call_busy h hidle]
      rfl
    rw [drain_eq_foldl, drain_eq_foldl, hwaiting, hstart, List.foldl_append, List.foldl_cons,
      List.foldl_nil, ← foldl_serve_withCalls replies hbusy]
    rfl

/-! ## What is kept -/

/-- All that one provider keeps is kept by another. -/
def KeptBy (p q : Provider) : Prop :=
  ∀ k s, p.kept.get? k = some s → q.kept.get? k = some s

theorem KeptBy.hit? {q : Provider} (h : KeptBy p q) {params : Option String} {a : Answer}
    (hit : p.hit? params = some a) : q.hit? params = some a := by
  obtain ⟨s, hs, rfl⟩ := Option.map_eq_some_iff.1 hit
  rw [Provider.hit?, h _ _ hs]
  rfl

/-- A turn adds to what is kept and drops nothing: a fetch is only made for a key under which
    nothing is kept. -/
theorem keptBy_serve (replies : Replies) (hbusy : p.busy = none) (c : Caller) :
    KeptBy p (serve replies p c) := by
  intro k s hs
  cases h : p.hit? c.params with
  | some a =>
    rw [serve_hit hbusy h]
    exact hs
  | none =>
    rw [serve_miss h]
    have hkey : k ≠ key c.params := by
      rintro rfl
      rw [Provider.hit?, hs] at h
      cases h
    dsimp only [keep]
    cases fetched replies p c with
    | mk fetch reply =>
      cases reply with
      | error failure => exact hs
      | ok environment =>
        cases environment with
        | none => exact hs
        | some environment =>
          rw [Bindings.get?_insert, if_neg hkey]
          exact hs

/-! ## Many calls -/

theorem drain_withCalls (replies : Replies) (p : Provider) (n : ℕ) :
    (p.withCalls n).drain replies = (p.drain replies).withCalls n := by
  have hbusy : ((p.finish replies).withWaiting []).busy = none := busy_finish replies p
  rw [drain_eq_foldl, drain_eq_foldl, finish_withCalls,
    ← foldl_serve_withCalls replies hbusy]
  rfl

theorem calls_foldl_serve (replies : Replies) (cs : List Caller) (p : Provider) :
    (cs.foldl (serve replies) p).calls = p.calls := by
  induction cs generalizing p with
  | nil => rfl
  | cons c cs ih => rw [List.foldl_cons, ih, calls_serve]

theorem calls_drain (replies : Replies) (p : Provider) : (p.drain replies).calls = p.calls := by
  rw [drain_eq_foldl, calls_foldl_serve]
  exact calls_finish replies p

/-- What one more call does to providers that agree when all calls so far have their answers. -/
theorem agree_drain_call {q s : Provider} (h : Agree (q.drain replies) s) (hkept : KeptBy q s)
    (hs : s.idle) (params : Option String) :
    Agree ((q.call params).drain replies) (s.get replies params) := by
  have hcalls : q.calls = s.calls := (calls_drain replies q).symm.trans h.calls
  have hnext : q.next params = s.next params := by rw [next, next, hcalls]
  have hbusy : (s.withCalls (s.calls + 1)).busy = none := (idle_iff.1 hs).1
  rw [get_eq_serve replies hs]
  cases hit : q.hit? params with
  | some a =>
    have hit' : (s.withCalls (s.calls + 1)).hit? params = some a := hkept.hit? hit
    rw [call_hit hit, serve_hit hbusy hit', hnext, hcalls]
    refine (agree_drain_answer replies _ _ a).trans ?_
    rw [drain_withCalls]
    exact (h.withCalls _).answer _ a
  | none =>
    rw [drain_call_miss replies hit, hnext, hcalls]
    exact (h.withCalls _).serve replies hbusy _

theorem idle_get (replies : Replies) (p : Provider) (params : Option String) :
    (p.get replies params).idle :=
  idle_drain replies _

theorem keptBy_get (replies : Replies) (hp : p.idle) (params : Option String) :
    KeptBy p (p.get replies params) := by
  have hbusy : (p.withCalls (p.calls + 1)).busy = none := (idle_iff.1 hp).1
  rw [get_eq_serve replies hp]
  exact keptBy_serve replies hbusy _

/-- Many calls at once agree with one after the other: by induction on the calls, with what was
    kept at the beginning kept by both. -/
theorem agree_gather (replies : Replies) (hp : p.idle) (params : List (Option String)) :
    Agree (p.gather replies params) (params.foldl (get replies) p) := by
  have all : Agree ((params.foldl call p).drain replies) (params.foldl (get replies) p) ∧
      (params.foldl call p).kept = p.kept ∧ KeptBy p (params.foldl (get replies) p) ∧
      (params.foldl (get replies) p).idle := by
    induction params using List.reverseRecOn with
    | nil =>
      refine ⟨?_, rfl, fun _ _ h => h, hp⟩
      rw [List.foldl_nil, List.foldl_nil, drain_of_idle hp]
      exact .refl p
    | append_singleton params x ih =>
      obtain ⟨hagree, hkept, hmore, hidle⟩ := ih
      simp only [List.foldl_append, List.foldl_cons, List.foldl_nil]
      have hmore' : KeptBy (params.foldl call p) (params.foldl (get replies) p) := by
        rw [KeptBy, hkept]
        exact hmore
      refine ⟨agree_drain_call hagree hmore' hidle x, ?_, ?_, idle_get replies _ x⟩
      · rw [kept_call, hkept]
      · exact fun k s h => keptBy_get replies hidle x k s (hmore k s h)
  exact all.1

/-! ## Answers -/

/-- The order of the answers does not matter, since no call is answered twice. -/
theorem lookup_eq_of_perm {l m : List (ℕ × Answer)} (h : l.Perm m) (hl : (l.map (·.1)).Nodup)
    (n : ℕ) : l.lookup n = m.lookup n := by
  induction h with
  | nil => rfl
  | cons x _ ih =>
    rw [List.map_cons, List.nodup_cons] at hl
    obtain ⟨k, a⟩ := x
    rw [List.lookup_cons, List.lookup_cons, ih hl.2]
  | swap x y l =>
    obtain ⟨k, a⟩ := x
    obtain ⟨k', a'⟩ := y
    simp only [List.map_cons, List.nodup_cons, List.mem_cons, not_or] at hl
    by_cases hk : n = k
    · have hk' : (n == k') = false := by
        rw [hk, beq_eq_false_iff_ne]
        exact fun h => hl.1.1 h.symm
      rw [List.lookup_cons, List.lookup_cons, List.lookup_cons, List.lookup_cons, hk']
    · have hk' : (n == k) = false := beq_eq_false_iff_ne.2 hk
      rw [List.lookup_cons, List.lookup_cons, List.lookup_cons, List.lookup_cons, hk']
  | trans h _ ih ih' => rw [ih hl, ih' ((h.map _).nodup_iff.1 hl)]

/-- One call after the other: each adds its answer, and the calls are numbered in order. -/
theorem answers_foldl_get (replies : Replies) (hp : p.idle) (params : List (Option String)) :
    ∃ new, (params.foldl (get replies) p).answers = p.answers ++ new ∧
      new.map (·.1) = List.range' p.calls params.length := by
  induction params generalizing p with
  | nil => exact ⟨[], by simp, rfl⟩
  | cons x params ih =>
    have hbusy : (p.withCalls (p.calls + 1)).busy = none := (idle_iff.1 hp).1
    obtain ⟨a, ha⟩ := answers_serve replies hbusy (p.next x)
    obtain ⟨new, hnew, hnumbers⟩ := ih (idle_get replies p x)
    have hcalls : (p.get replies x).calls = p.calls + 1 := by
      rw [get_eq_serve replies hp, calls_serve]
      rfl
    refine ⟨(p.calls, a) :: new, ?_, ?_⟩
    · rw [List.foldl_cons, hnew, get_eq_serve replies hp, ha, List.append_assoc]
      rfl
    · rw [List.map_cons, hnumbers, hcalls, List.length_cons, List.range'_succ]

theorem answer?_gather (replies : Replies) (hp : p.idle) (params : List (Option String)) (n : ℕ) :
    (p.gather replies params).answer? n = (params.foldl (get replies) p).answer? n := by
  obtain ⟨new, hnew, hnumbers⟩ := answers_foldl_get replies hp params
  obtain ⟨turns, -, hrun⟩ := exists_run_eq_gather replies p params
  obtain ⟨early, hearly⟩ := answers_run replies p (params.map .call ++ turns)
  rw [hrun] at hearly
  have hperm : early.Perm new := by
    have h := (agree_gather replies hp params).answers
    rw [← hearly, hnew] at h
    exact (List.perm_append_left_iff _).1 h
  have hnodup : (early.map (·.1)).Nodup := by
    rw [(hperm.map _).nodup_iff, hnumbers]
    exact List.nodup_range'
  rw [answer?, answer?, ← hearly, hnew, List.lookup_append, List.lookup_append,
    lookup_eq_of_perm hperm hnodup]

/-- **Many calls at once are as good as one after the other.** An idle provider keeps the same
    environments after both, has made the same fetches in the same order, and has given every
    call the same answer; each call has one. This holds for every order in which fetches end and
    waiting callers have their turns until the provider is idle, and there is such an order. -/
theorem gather_eq_get (replies : Replies) (p : Provider) (hp : p.idle)
    (params : List (Option String)) :
    (p.gather replies params).kept = (params.foldl (get replies) p).kept ∧
    (p.gather replies params).fetches = (params.foldl (get replies) p).fetches ∧
    (∀ n, (p.gather replies params).answer? n = (params.foldl (get replies) p).answer? n) ∧
    (∃ new, (params.foldl (get replies) p).answers = p.answers ++ new ∧
      new.map (·.1) = List.range' p.calls params.length) ∧
    (∀ turns : List Event, (∀ e ∈ turns, e = .finish ∨ e = .resume) →
      (p.run replies (params.map .call ++ turns)).idle →
      p.run replies (params.map .call ++ turns) = p.gather replies params) ∧
    ∃ turns : List Event, (∀ e ∈ turns, e = .finish ∨ e = .resume) ∧
      p.run replies (params.map .call ++ turns) = p.gather replies params := by
  have hagree := agree_gather replies hp params
  refine ⟨hagree.kept, hagree.fetches, answer?_gather replies hp params,
    answers_foldl_get replies hp params, ?_, exists_run_eq_gather replies p params⟩
  intro turns hturns hidle
  have hrun : p.run replies (params.map .call ++ turns) =
      (params.foldl call p).run replies turns := by
    rw [run, List.foldl_append, List.foldl_map]
    rfl
  rw [hrun] at hidle ⊢
  exact run_eq_drain hturns hidle

/-- The first fetch gives nothing and the later ones give the parameters. -/
def secondTime : Replies := fun earlier params =>
  if earlier.isEmpty then .ok none else .ok (some [("PARAMS", key params)])

/-- Of four calls at once, the second makes the fetch of the first again and the third is answered
    from what the second has fetched. -/
theorem gather_eq_get_secondTime :
    ({} : Provider).idle ∧
    (gather secondTime {} [none, some "", none, some "x"]).fetches = [none, some "", some "x"] ∧
    ([none, some "", none, some "x"].foldl (get secondTime) {}).fetches =
      [none, some "", some "x"] := by
  have hidle : ({} : Provider).idle := rfl
  have hfetches : (gather secondTime {} [none, some "", none, some "x"]).fetches =
      [none, some "", some "x"] := by decide +kernel
  obtain ⟨-, hsame, -⟩ := gather_eq_get secondTime {} hidle [none, some "", none, some "x"]
  exact ⟨hidle, hfetches, hsame.symm.trans hfetches⟩

end CompileCommands.Provider
