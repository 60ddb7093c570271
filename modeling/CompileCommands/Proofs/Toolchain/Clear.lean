/-
  Clearing while a fetch is under way.

  * `Numbered`: only calls that were made wait, fetch or have answers; `numbered_run`: it is so
    after every run;
  * `underway?`: the answer that the fetch under way is going to give;
  * `Since`: the invariant of a provider that was cleared: its answers come from fetches that were
    begun since, or from the one that was under way then;
  * `since_step`, `since_run`: each event keeps the invariant, and so does every run;
  * `stale_iff`: a call after a clearing may get the snapshot of the fetch that was under way then,
    and no other old one; `stale_waiting`: how it does.
-/
import CompileCommands.Proofs.Toolchain.Ledger

namespace CompileCommands.Provider

variable {replies : Replies} {p q : Provider}

/-! ## Numbers of calls -/

/-- Only calls that were made wait, fetch or have answers, and a caller that fetches has begun to. -/
structure Numbered (p : Provider) : Prop where
  waiting : ∀ c ∈ p.waiting, c.number < p.calls
  busy : ∀ c, p.busy = some c → c.number < p.calls
  begun : ∀ c, p.busy = some c → p.fetches ≠ []
  answers : ∀ n a, (n, a) ∈ p.answers → n < p.calls

namespace Numbered

theorem answer (h : Numbered p) {c : Caller} (hc : c.number < p.calls) (a : Answer) :
    Numbered (p.answer c a) := by
  refine ⟨h.waiting, h.busy, h.begun, fun n b hb => ?_⟩
  rcases List.mem_append.1 hb with hb | hb
  · exact h.answers n b hb
  · cases List.mem_singleton.1 hb
    exact hc

theorem start (h : Numbered p) {c : Caller} (hc : c.number < p.calls) : Numbered (p.start c) := by
  refine ⟨h.waiting, ?_, fun _ _ => List.append_ne_nil_of_right_ne_nil _ (by simp), h.answers⟩
  rintro d ⟨⟩
  exact hc

theorem enter (h : Numbered p) {c : Caller} (hc : c.number < p.calls) : Numbered (p.enter c) := by
  unfold Provider.enter
  cases p.hit? c.params with
  | some a => exact h.answer hc a
  | none => exact h.start hc

theorem withCalls (h : Numbered p) {n : ℕ} (hn : p.calls ≤ n) : Numbered (p.withCalls n) where
  waiting c hc := (h.waiting c hc).trans_le hn
  busy c hc := (h.busy c hc).trans_le hn
  begun := h.begun
  answers k a ha := (h.answers k a ha).trans_le hn

theorem withWaiting (h : Numbered p) {w : List Caller} (hw : ∀ c ∈ w, c.number < p.calls) :
    Numbered (p.withWaiting w) :=
  ⟨hw, h.busy, h.begun, h.answers⟩

theorem call (h : Numbered p) (params : Option String) : Numbered (p.call params) := by
  have hmore := h.withCalls (Nat.le_succ p.calls)
  have hnext : (p.next params).number < (p.withCalls (p.calls + 1)).calls := Nat.lt_succ_self _
  cases hhit : p.hit? params with
  | some a =>
    rw [call_hit hhit]
    exact hmore.answer hnext a
  | none =>
    by_cases hidle : p.idle
    · rw [call_idle hidle]
      exact hmore.enter hnext
    · rw [call_busy hhit hidle]
      refine hmore.withWaiting fun c hc => ?_
      rcases List.mem_append.1 hc with hc | hc
      · exact hmore.waiting c hc
      · rw [List.mem_singleton.1 hc]
        exact hnext

theorem finish (h : Numbered p) (replies : Replies) : Numbered (p.finish replies) := by
  unfold Provider.finish
  cases hbusy : p.busy with
  | none => exact h
  | some c => exact ⟨h.waiting, nofun, nofun, (h.answer (h.busy c hbusy) _).answers⟩

theorem resume (h : Numbered p) : Numbered p.resume := by
  rcases resume_cases p with hsame | ⟨c, rest, -, hwaiting, hturn⟩
  · rwa [hsame]
  · have hmem : ∀ d ∈ c :: rest, d.number < p.calls := hwaiting ▸ h.waiting
    rw [hturn]
    refine (h.withWaiting fun d hd => hmem d (List.mem_cons_of_mem c hd)).enter ?_
    exact hmem c List.mem_cons_self

theorem clear (h : Numbered p) : Numbered p.clear :=
  ⟨h.waiting, h.busy, h.begun, h.answers⟩

theorem step (h : Numbered p) (replies : Replies) (e : Event) : Numbered (p.step replies e) := by
  cases e with
  | call params => exact h.call params
  | finish => exact h.finish replies
  | resume => exact h.resume
  | clear => exact h.clear

theorem answer?_eq_none (h : Numbered p) {n : ℕ} (hn : p.calls ≤ n) : p.answer? n = none := by
  rw [answer?, List.lookup_eq_none_iff]
  intro entry hentry
  have hlt := h.answers entry.1 entry.2 hentry
  exact bne_iff_ne.2 (by omega)

end Numbered

/-- By induction on the events. -/
theorem numbered_run (replies : Replies) (events : List Event) :
    Numbered (({} : Provider).run replies events) := by
  have hstart : Numbered {} := ⟨nofun, nofun, nofun, nofun⟩
  exact List.foldlRecOn events _ hstart fun p hp e _ => hp.step replies e

/-! ## After a clearing -/

/-- The answer that the fetch under way is going to give. -/
def underway? (replies : Replies) (p : Provider) : Option Answer :=
  p.busy.map fun c => ⟨p.fetches.length - 1, p.lastReply replies c⟩

/-- The answer comes from a fetch that was begun later, or from the one under way. -/
def Late (replies : Replies) (p : Provider) (a : Answer) : Prop :=
  p.fetches.length ≤ a.fetch ∨ p.underway? replies = some a

/-- A provider that was cleared, some time after. -/
structure Since (replies : Replies) (p q : Provider) : Prop where
  fetches : p.fetches.length ≤ q.fetches.length
  busy : ∀ c, q.busy = some c →
    p.fetches.length < q.fetches.length ∨ p.busy = some c ∧ q.fetches = p.fetches
  kept : ∀ k s, q.kept.get? k = some s → p.Late replies ⟨s.fetch, .ok (some s.environment)⟩
  answers : ∀ n a, (n, a) ∈ q.answers → (n, a) ∈ p.answers ∨ p.Late replies a

namespace Since

theorem clear_self (replies : Replies) (p : Provider) : Since replies p p.clear :=
  ⟨Nat.le_refl _, fun _ hc => .inr ⟨hc, rfl⟩, nofun, fun _ _ h => .inl h⟩

theorem answer (h : Since replies p q) (c : Caller) {a : Answer} (ha : p.Late replies a) :
    Since replies p (q.answer c a) := by
  refine ⟨h.fetches, h.busy, h.kept, fun n b hb => ?_⟩
  rcases List.mem_append.1 hb with hb | hb
  · exact h.answers n b hb
  · cases List.mem_singleton.1 hb
    exact .inr ha

theorem start (h : Since replies p q) (c : Caller) : Since replies p (q.start c) := by
  have hlength : p.fetches.length < (q.start c).fetches.length := by
    have hle := h.fetches
    rw [Provider.start, List.length_append, List.length_singleton]
    omega
  exact ⟨Nat.le_of_lt hlength, fun _ _ => .inl hlength, h.kept, h.answers⟩

theorem late_of_hit? (h : Since replies p q) {params : Option String} {a : Answer}
    (ha : q.hit? params = some a) : p.Late replies a := by
  obtain ⟨s, hs, rfl⟩ := Option.map_eq_some_iff.1 ha
  exact h.kept _ s hs

theorem enter (h : Since replies p q) (c : Caller) : Since replies p (q.enter c) := by
  unfold Provider.enter
  cases hhit : q.hit? c.params with
  | some a => exact h.answer c (h.late_of_hit? hhit)
  | none => exact h.start c

theorem withCalls (h : Since replies p q) (n : ℕ) : Since replies p (q.withCalls n) :=
  ⟨h.fetches, h.busy, h.kept, h.answers⟩

theorem withWaiting (h : Since replies p q) (w : List Caller) : Since replies p (q.withWaiting w) :=
  ⟨h.fetches, h.busy, h.kept, h.answers⟩

theorem call (h : Since replies p q) (params : Option String) : Since replies p (q.call params) := by
  cases hhit : q.hit? params with
  | some a =>
    rw [call_hit hhit]
    exact (h.withCalls _).answer _ (h.late_of_hit? hhit)
  | none =>
    by_cases hidle : q.idle
    · rw [call_idle hidle]
      exact (h.withCalls _).enter _
    · rw [call_busy hhit hidle]
      exact (h.withCalls _).withWaiting _

/-- The fetch that ends was begun after the clearing, or was under way then. -/
theorem late_of_busy (h : Since replies p q) {c : Caller} (hc : q.busy = some c) :
    p.Late replies ⟨q.fetches.length - 1, q.lastReply replies c⟩ := by
  rcases h.busy c hc with hlength | ⟨hbusy, hfetches⟩
  · exact .inl (Nat.le_sub_one_of_lt hlength)
  · right
    rw [underway?, hbusy]
    simp only [Option.map_some, lastReply, hfetches]

theorem kept_keep (h : Since replies p q) (params : Option String) {a : Answer}
    (ha : p.Late replies a) {k : String} {s : Snapshot}
    (hs : (keep q.kept params a).get? k = some s) :
    p.Late replies ⟨s.fetch, .ok (some s.environment)⟩ := by
  unfold keep at hs
  split at hs
  · next environment hreply =>
    rw [Bindings.get?_insert] at hs
    split at hs
    · cases hs
      rwa [← hreply]
    · exact h.kept k s hs
  · exact h.kept k s hs
  · exact h.kept k s hs

theorem finish (h : Since replies p q) : Since replies p (q.finish replies) := by
  unfold Provider.finish
  cases hbusy : q.busy with
  | none => exact h
  | some c =>
    have hlate := h.late_of_busy hbusy
    exact ⟨h.fetches, nofun, fun k s hs => h.kept_keep _ hlate hs, (h.answer c hlate).answers⟩

theorem resume (h : Since replies p q) : Since replies p q.resume := by
  rcases resume_cases q with hsame | ⟨c, rest, -, -, hturn⟩
  · rwa [hsame]
  · rw [hturn]
    exact (h.withWaiting rest).enter c

theorem clear (h : Since replies p q) : Since replies p q.clear :=
  ⟨h.fetches, h.busy, nofun, h.answers⟩

end Since

theorem since_step (h : Since replies p q) (e : Event) : Since replies p (q.step replies e) := by
  cases e with
  | call params => exact h.call params
  | finish => exact h.finish
  | resume => exact h.resume
  | clear => exact h.clear

/-- By induction on the events since the clearing. -/
theorem since_run (replies : Replies) (p : Provider) (events : List Event) :
    Since replies p (p.clear.run replies events) :=
  List.foldlRecOn events _ (.clear_self replies p) fun _ hq e _ => since_step hq e

/-! ## Stale snapshots -/

/-- The provider is cleared, and after that a call is made that is answered with a snapshot whose
    fetch had been begun before. -/
structure Stale (replies : Replies) (p : Provider) (after : List Event) (n : ℕ) (a : Answer) :
    Prop where
  later : p.calls ≤ n
  answered : (p.clear.run replies after).answer? n = some a
  snapshot : a.Succeeds
  old : a.fetch < p.fetches.length

/-- Once the fetch under way has ended, the next call with its parameters gets its snapshot. -/
theorem answer?_underway (hp : Numbered p) {a : Answer} (h : p.underway? replies = some a)
    (ha : a.Succeeds) :
    ∃ params, (p.clear.run replies [.finish, .call params]).answer? p.calls = some a := by
  obtain ⟨c, hc, rfl⟩ := Option.map_eq_some_iff.1 h
  obtain ⟨environment, hreply⟩ := ha
  dsimp only at hreply
  refine ⟨c.params, ?_⟩
  have hfinish : p.clear.finish replies =
      { p.answer c ⟨p.fetches.length - 1, p.lastReply replies c⟩ with
        busy := none
        kept := [(key c.params, ⟨p.fetches.length - 1, environment⟩)] } := by
    have hlast : p.clear.lastReply replies c = .ok (some environment) := hreply
    have hbusy : p.clear.busy = some c := hc
    simp only [finish, hbusy, hlast, keep, hreply]
    rfl
  have hhit : (p.clear.finish replies).hit? c.params =
      some ⟨p.fetches.length - 1, p.lastReply replies c⟩ := by
    rw [hfinish, hit?, Bindings.get?_cons, if_pos rfl, hreply]
    rfl
  have hcalls : (p.clear.finish replies).calls = p.calls := calls_finish replies p.clear
  have hne : p.calls ≠ c.number := Nat.ne_of_gt (hp.busy c hc)
  have hbefore : (p.clear.finish replies).answer? p.calls = none := by
    rw [hfinish]
    refine (answer?_answer p c _ p.calls).trans ?_
    rw [hp.answer?_eq_none (Nat.le_refl _), if_neg hne]
    rfl
  change ((p.clear.finish replies).call c.params).answer? p.calls = _
  rw [call_hit hhit, answer?_answer, next, hcalls, if_pos rfl]
  change ((p.clear.finish replies).answer? p.calls).or _ = _
  rw [hbefore]
  rfl

/-- **A clearing does not reach the fetch under way.** Let calls, fetches and clearings follow each
    other in any order, and then let the provider be cleared. The snapshots from before that calls
    made after the clearing can get, in whatever order events follow, are exactly this one: that
    of the fetch that is under way at the clearing, if it gives one. -/
theorem stale_iff (replies : Replies) (before : List Event) (a : Answer) :
    (∃ after n, Stale replies (({} : Provider).run replies before) after n a) ↔
      (({} : Provider).run replies before).underway? replies = some a ∧ a.Succeeds := by
  have hnumbered := numbered_run replies before
  generalize ({} : Provider).run replies before = p at hnumbered ⊢
  constructor
  · rintro ⟨after, n, hlater, hanswered, hsnapshot, hold⟩
    refine ⟨?_, hsnapshot⟩
    obtain ⟨earlier, later, hsplit, -⟩ := List.lookup_eq_some_iff.1 hanswered
    have hmem : (n, a) ∈ (p.clear.run replies after).answers := by
      rw [hsplit]
      exact List.mem_append_right _ List.mem_cons_self
    rcases (since_run replies p after).answers n a hmem with hearlier | hnew | hunderway
    · exact absurd (hnumbered.answers n a hearlier) (by omega)
    · exact absurd hold (by omega)
    · exact hunderway
  · rintro ⟨hunderway, hsnapshot⟩
    obtain ⟨params, hanswer⟩ := answer?_underway hnumbered hunderway hsnapshot
    refine ⟨_, _, Nat.le_refl _, hanswer, hsnapshot, ?_⟩
    obtain ⟨c, hc, rfl⟩ := Option.map_eq_some_iff.1 hunderway
    have hlength := List.length_pos_iff.2 (hnumbered.begun c hc)
    dsimp only
    omega

/-- Every fetch gives its own number. -/
def counting : Replies := fun earlier _ => .ok (some [("N", toString earlier.length)])

/-- A call is made, and while its fetch is under way, the provider is cleared. The next call waits
    for that fetch to end and is answered with its snapshot. -/
theorem stale_waiting :
    Stale counting (({} : Provider).run counting [.call none]) [.call none, .finish, .resume] 1
      ⟨0, .ok (some [("N", "0")])⟩ := by
  refine ⟨by decide, ?_, ⟨_, rfl⟩, by decide⟩
  rfl

end CompileCommands.Provider
