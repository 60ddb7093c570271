/-
  The calls for one key, apart from all others.

  * `only`: the steps without the calls for other keys;
  * `KeyWise`: replies that depend on earlier fetches for the same key only, as those from scripts
    do (`keyWise_scripted`);
  * `Separate`: two providers that are the same to the calls for one key: the one was asked for
    other keys as well;
  * `Separate.get_same`, `Separate.get_other`: a call for the key, to both, and a call for another
    key, to the one alone, keep them so; `Separate.performAll`: so do steps, and those for the key;
  * `performAll_only`: what the calls for a key get, and what is fetched for it, does not depend on
    the calls for other keys.
-/
import CompileCommands.Proofs.Toolchain.Ledger

namespace CompileCommands.Provider

/-! ## The calls for a key -/

/-- The parameters have a key. -/
def isOf (k : String) (params : Option String) : Bool :=
  key params = k

/-- What is left of a step without the calls for other keys. -/
def Step.only? (k : String) : Step → Option Step
  | get params => if isOf k params then some (get params) else none
  | gather params => some (gather (params.filter (isOf k)))
  | clear => some clear

/-- The steps without the calls for other keys. -/
def only (k : String) (steps : List Step) : List Step :=
  steps.filterMap (Step.only? k)

/-- The number that a call, or a fetch, has among those for a key. -/
def rank (k : String) (all : List (Option String)) (number : ℕ) : ℕ :=
  (all.take number).countP (isOf k)

/-- The same answer, with the number of its fetch among those for a key. -/
def Answer.among (k : String) (fetches : List (Option String)) (a : Answer) : Answer :=
  ⟨rank k fetches a.fetch, a.reply⟩

/-- A reply depends on the earlier fetches for the same key only. -/
def KeyWise (replies : Replies) : Prop :=
  ∀ earlier params, replies earlier params = replies (earlier.filter (isOf (key params))) params

variable {replies : Replies} {k : String} {p q : Provider} {params : Option String}
  {asked : List (Option String)}

theorem keyWise_scripted (scripts : String → ℕ → Reply) : KeyWise (scripted scripts) := by
  intro earlier params
  rw [scripted, scripted, List.countP_filter]
  simp [isOf]

theorem calls_only (k : String) (steps : List Step) :
    (only k steps).flatMap Step.calls = (steps.flatMap Step.calls).filter (isOf k) := by
  induction steps with
  | nil => rfl
  | cons step steps ih =>
    rw [only, List.filterMap_cons, List.flatMap_cons, List.filter_append, ← ih, only]
    cases step with
    | get params => by_cases h : isOf k params <;> simp [Step.only?, Step.calls, h]
    | gather params => simp [Step.only?, Step.calls]
    | clear => simp [Step.only?, Step.calls]

/-! ## Numbers -/

theorem rank_append {all : List (Option String)} {number : ℕ} (h : number ≤ all.length)
    (more : List (Option String)) : rank k (all ++ more) number = rank k all number := by
  rw [rank, List.take_append_of_le_length h, rank]

theorem rank_length (k : String) (all : List (Option String)) :
    rank k all all.length = (all.filter (isOf k)).length := by
  rw [rank, List.take_length, List.countP_eq_length_filter]

/-- Calls for the key keep their order. -/
theorem rank_lt {all : List (Option String)} {number : ℕ} (hnumber : all[number]? = some params)
    (h : isOf k params) : rank k all number < (all.filter (isOf k)).length := by
  obtain ⟨hlt, rfl⟩ := List.getElem?_eq_some_iff.1 hnumber
  have hsplit : all = all.take number ++ all[number] :: all.drop (number + 1) := by
    rw [List.getElem_cons_drop, List.take_append_drop]
  calc rank k all number
      < (all.take number ++ all[number] :: all.drop (number + 1)).countP (isOf k) := by
        rw [List.countP_append, List.countP_cons_of_pos h, rank]
        omega
    _ = (all.filter (isOf k)).length := by rw [← hsplit, List.countP_eq_length_filter]

/-- The answer comes from a fetch for a key. -/
def Answer.IsOf (k : String) (fetches : List (Option String)) (a : Answer) : Prop :=
  ∃ params, fetches[a.fetch]? = some params ∧ isOf k params

theorem Answer.IsOf.append {fetches : List (Option String)} {a : Answer} (h : a.IsOf k fetches)
    (more : List (Option String)) : a.IsOf k (fetches ++ more) := by
  obtain ⟨params, hparams, hk⟩ := h
  have hlt := (List.getElem?_eq_some_iff.1 hparams).1
  exact ⟨params, (List.getElem?_append_left hlt).trans hparams, hk⟩

theorem Answer.IsOf.among_append {fetches : List (Option String)} {a : Answer}
    (h : a.IsOf k fetches) (more : List (Option String)) :
    a.among k (fetches ++ more) = a.among k fetches := by
  obtain ⟨params, hparams, -⟩ := h
  have hlt := (List.getElem?_eq_some_iff.1 hparams).1
  rw [among, rank_append (Nat.le_of_lt hlt), among]

/-! ## One call -/

/-- The answer, if it is kept. -/
def Answer.kept? (a : Answer) : Option Answer :=
  match a.reply with
  | .ok (some _) => some a
  | .ok none | .error _ => none

theorem Answer.kept?_among (k : String) (fetches : List (Option String)) (a : Answer) :
    (a.among k fetches).kept? = a.kept?.map (among k fetches) := by
  obtain ⟨fetch, reply⟩ := a
  obtain failure | _ | environment := reply <;> rfl

theorem Answer.eq_of_kept? {a b : Answer} (h : a.kept? = some b) : a = b := by
  obtain ⟨fetch, reply⟩ := a
  obtain failure | _ | environment := reply
  · cases h
  · cases h
  · exact Option.some.inj h

theorem fetchesOf_recordOf (replies : Replies) (p : Provider) (params : Option String) :
    fetchesOf [recordOf replies p params] =
      if (recordOf replies p params).fetched then [params] else [] := by
  cases hfetched : (recordOf replies p params).fetched <;> simp [fetchesOf, hfetched]

theorem fetches_get (replies : Replies) (hp : p.idle) (params : Option String) :
    (p.get replies params).fetches = p.fetches ++ fetchesOf [recordOf replies p params] := by
  rw [get_eq_recordOf replies hp]

theorem answer?_get (replies : Replies) (hp : Ready p) (params : Option String) (n : ℕ) :
    (p.get replies params).answer? n =
      if n = p.calls then some (recordOf replies p params).answer else p.answer? n := by
  have hanswer : (p.get replies params).answer? n = (p.answer? n).or
      (if n = p.calls then some (recordOf replies p params).answer else none) := by
    rw [get_eq_recordOf replies hp.idle]
    exact answer?_answer p (p.next params) _ n
  rw [hanswer]
  split
  · next h =>
    rw [hp.unasked n (Nat.le_of_eq h.symm)]
    rfl
  · exact Option.or_none

theorem hit?_congr {other : Option String} (h : key other = key params) :
    p.hit? other = p.hit? params := by
  rw [hit?, hit?, h]

theorem kept?_of_hit? {a : Answer} (h : p.hit? params = some a) : a.kept? = some a := by
  obtain ⟨s, -, rfl⟩ := Option.map_eq_some_iff.1 h
  rfl

/-- What the calls after a call are answered from. -/
theorem hit?_get (replies : Replies) (hp : p.idle) (params other : Option String) :
    (p.get replies params).hit? other =
      if key other = key params then (recordOf replies p params).answer.kept?
      else p.hit? other := by
  rw [get_eq_recordOf replies hp]
  cases hhit : p.hit? params with
  | some a =>
    rw [recordOf_hit hhit]
    split
    · next h => exact (hit?_congr h).trans (hhit.trans (kept?_of_hit? hhit).symm)
    · rfl
  | none =>
    -- Nothing was kept for this key, and only an environment is kept now.
    have hnone : p.kept.get? (key params) = none := Option.map_eq_none_iff.1 hhit
    rw [recordOf_miss hhit]
    dsimp only [hit?]
    rw [if_pos rfl]
    by_cases h : key other = key params
    · rw [if_pos h, h]
      obtain failure | _ | environment := replies p.fetches params <;>
        simp [keep, Answer.kept?, Bindings.get?_insert, hnone]
    · rw [if_neg h]
      obtain failure | _ | environment := replies p.fetches params <;>
        simp [keep, Bindings.get?_insert, h]

/-! ## Two providers -/

/-- Two providers are the same to calls for a key, where the first was asked for more. -/
structure Separate (k : String) (asked : List (Option String)) (p q : Provider) : Prop where
  ready : Ready p
  ready_only : Ready q
  calls : p.calls = asked.length
  calls_only : q.calls = (asked.filter (isOf k)).length
  /-- The same was fetched for the key. -/
  fetches : q.fetches = p.fetches.filter (isOf k)
  /-- The same is kept for the key. -/
  hits : ∀ params, isOf k params →
    (∀ a, p.hit? params = some a → a.IsOf k p.fetches) ∧
      q.hit? params = (p.hit? params).map (Answer.among k p.fetches)
  /-- Every call for the key got the same. -/
  answers : ∀ n params, asked[n]? = some params → isOf k params →
    ∃ a, p.answer? n = some a ∧ a.IsOf k p.fetches ∧
      q.answer? (rank k asked n) = some (a.among k p.fetches)

/-- To callers that come later, two providers are the same. -/
structure Alike (p q : Provider) : Prop where
  ready : Ready p
  calls : p.calls = q.calls
  fetches : p.fetches = q.fetches
  kept : p.kept = q.kept
  answers : ∀ n, p.answer? n = q.answer? n

theorem Alike.hit?_eq (h : Alike p q) (params : Option String) : p.hit? params = q.hit? params := by
  rw [hit?, hit?, h.kept]

/-- Many calls at once and one after the other. -/
theorem alike_gather (replies : Replies) (hp : Ready p) (params : List (Option String)) :
    Alike (p.gather replies params) (params.foldl (get replies) p) :=
  have hagree := agree_gather replies hp.idle params
  ⟨ready_gather replies hp params, hagree.calls, hagree.fetches, hagree.kept,
    answer?_gather replies hp.idle params⟩

namespace Separate

theorem start (k : String) : Separate k [] {} {} :=
  have hready : Ready {} := ⟨rfl, fun _ _ => rfl⟩
  ⟨hready, hready, rfl, rfl, rfl, fun _ _ => ⟨by simp [hit?], rfl⟩, by simp⟩

section Calls

variable (h : Separate k asked p q)
include h

theorem clear : Separate k asked p.clear q.clear :=
  { h with
    ready := ⟨h.ready.idle, h.ready.unasked⟩
    ready_only := ⟨h.ready_only.idle, h.ready_only.unasked⟩
    hits := fun _ _ => ⟨by simp [hit?, Provider.clear], rfl⟩ }

/-- The next call for the key has the same outcome for both. -/
theorem recordOf_eq (hreplies : KeyWise replies) (hk : isOf k params) :
    recordOf replies q params = ⟨params, (recordOf replies p params).fetched,
      (recordOf replies p params).answer.among k p.fetches⟩ := by
  have hhit' := (h.hits params hk).2
  cases hhit : p.hit? params with
  | some a =>
    rw [hhit, Option.map_some] at hhit'
    rw [recordOf_hit hhit, recordOf_hit hhit']
  | none =>
    rw [hhit, Option.map_none] at hhit'
    rw [recordOf_miss hhit, recordOf_miss hhit', Answer.among, rank_length, h.fetches,
      hreplies p.fetches params, of_decide_eq_true hk]

/-- It is answered from a fetch for the key, which may be the last one. -/
theorem isOf_recordOf (replies : Replies) (hk : isOf k params) :
    let r := recordOf replies p params
    let fetches := p.fetches ++ fetchesOf [r]
    r.answer.IsOf k fetches ∧ r.answer.among k fetches = r.answer.among k p.fetches := by
  cases hhit : p.hit? params with
  | some a =>
    have ha := (h.hits params hk).1 a hhit
    rw [recordOf_hit hhit]
    exact ⟨ha.append _, ha.among_append _⟩
  | none =>
    rw [recordOf_miss hhit]
    refine ⟨⟨params, List.getElem?_concat_length, hk⟩, ?_⟩
    dsimp only
    rw [Answer.among, rank_append (Nat.le_refl _), Answer.among]

/-- The answers to earlier calls stay. -/
theorem answers_get (replies : Replies) (params : Option String) {n : ℕ} {other : Option String}
    (hother : asked[n]? = some other) (hk : isOf k other) :
    ∃ a, (p.get replies params).answer? n = some a ∧ a.IsOf k (p.get replies params).fetches ∧
      q.answer? (rank k asked n) = some (a.among k (p.get replies params).fetches) := by
  obtain ⟨a, ha, hof, ha'⟩ := h.answers n other hother hk
  have hn : n ≠ p.calls := by
    have hlt := (List.getElem?_eq_some_iff.1 hother).1
    rw [h.calls]
    omega
  rw [answer?_get replies h.ready, if_neg hn, fetches_get replies h.ready.idle]
  exact ⟨a, ha, hof.append _, by rw [hof.among_append, ha']⟩

/-- A call for the key, to both. -/
theorem get_same (hreplies : KeyWise replies) (hk : isOf k params) :
    Separate k (asked ++ [params]) (p.get replies params) (q.get replies params) := by
  have hrecord := h.recordOf_eq hreplies hk
  obtain ⟨hanswer, hamong⟩ := h.isOf_recordOf replies hk
  rw [← fetches_get replies h.ready.idle] at hanswer hamong
  refine ⟨ready_get replies h.ready params, ready_get replies h.ready_only params, ?calls,
    ?calls_only, ?fetches, ?hits, ?answers⟩
  case calls =>
    rw [calls_get replies h.ready.idle, h.calls, List.length_append, List.length_singleton]
  case calls_only =>
    rw [calls_get replies h.ready_only.idle, h.calls_only, List.filter_append,
      List.filter_cons_of_pos hk, List.length_append]
    rfl
  case fetches =>
    rw [fetches_get replies h.ready.idle, fetches_get replies h.ready_only.idle, h.fetches,
      List.filter_append, fetchesOf_recordOf, fetchesOf_recordOf, hrecord]
    split <;> simp [hk]
  case hits =>
    intro other hother
    have hkey : key other = key params :=
      (of_decide_eq_true hother).trans (of_decide_eq_true hk).symm
    rw [hit?_get replies h.ready.idle, hit?_get replies h.ready_only.idle, if_pos hkey, if_pos hkey,
      hrecord, ← hamong, Answer.kept?_among]
    refine ⟨fun a ha => ?_, rfl⟩
    rwa [← Answer.eq_of_kept? ha]
  case answers =>
    intro n other hother hk'
    rw [answer?_get replies h.ready_only]
    rcases getElem?_concat_cases hother with ⟨hn, hother⟩ | ⟨rfl, rfl⟩
    · -- Among those for the key, too, an earlier call comes before the new one.
      have hrank := rank_lt hother hk'
      rw [rank_append (Nat.le_of_lt hn), if_neg (by rw [h.calls_only]; omega)]
      exact h.answers_get replies params hother hk'
    · rw [answer?_get replies h.ready, rank_append (Nat.le_refl _), rank_length,
        if_pos h.calls.symm, if_pos h.calls_only.symm, hrecord, ← hamong]
      exact ⟨_, rfl, hanswer, rfl⟩

/-- A call for another key, to the first alone. -/
theorem get_other (replies : Replies) (hk : isOf k params = false) :
    Separate k (asked ++ [params]) (p.get replies params) q := by
  refine ⟨ready_get replies h.ready params, h.ready_only, ?calls, ?calls_only, ?fetches, ?hits,
    ?answers⟩
  case calls =>
    rw [calls_get replies h.ready.idle, h.calls, List.length_append, List.length_singleton]
  case calls_only =>
    rw [h.calls_only, List.filter_append, List.filter_cons_of_neg (by simp [hk]), List.filter_nil,
      List.append_nil]
  case fetches =>
    rw [fetches_get replies h.ready.idle, h.fetches, List.filter_append, fetchesOf_recordOf]
    split <;> simp [hk]
  case hits =>
    intro other hother
    have hkey : key other ≠ key params := by
      intro hkey
      rw [isOf, hkey, ← isOf, hk] at hother
      cases hother
    rw [hit?_get replies h.ready.idle, if_neg hkey, fetches_get replies h.ready.idle]
    obtain ⟨hof, hhit⟩ := h.hits other hother
    refine ⟨fun a ha => (hof a ha).append _, ?_⟩
    rw [hhit]
    exact Option.map_congr fun a ha => ((hof a ha).among_append _).symm
  case answers =>
    intro n other hother hk'
    rcases getElem?_concat_cases hother with ⟨hn, hother⟩ | ⟨rfl, rfl⟩
    · rw [rank_append (Nat.le_of_lt hn)]
      exact h.answers_get replies params hother hk'
    · rw [hk] at hk'
      cases hk'

theorem foldl_get (hreplies : KeyWise replies) (params : List (Option String)) :
    Separate k (asked ++ params) (params.foldl (get replies) p)
      ((params.filter (isOf k)).foldl (get replies) q) := by
  induction params generalizing asked p q with
  | nil =>
    rw [List.append_nil]
    exact h
  | cons x params ih =>
    rw [List.append_cons]
    cases hk : isOf k x with
    | true =>
      rw [List.filter_cons_of_pos hk]
      exact ih (h.get_same hreplies hk)
    | false =>
      rw [List.filter_cons_of_neg (by simp [hk])]
      exact ih (h.get_other replies hk)

/-- Only the answers, the fetches and what is kept count. -/
theorem congr {p' q' : Provider} (hp : Alike p' p) (hq : Alike q' q) : Separate k asked p' q' := by
  refine ⟨hp.ready, hq.ready, hp.calls.trans h.calls, hq.calls.trans h.calls_only, ?_, ?_, ?_⟩
  · rw [hp.fetches, hq.fetches, h.fetches]
  · simp only [hp.hit?_eq, hq.hit?_eq, hp.fetches]
    exact h.hits
  · simp only [hp.answers, hq.answers, hp.fetches]
    exact h.answers

theorem gather (hreplies : KeyWise replies) (params : List (Option String)) :
    Separate k (asked ++ params) (p.gather replies params)
      (q.gather replies (params.filter (isOf k))) :=
  (h.foldl_get hreplies params).congr (alike_gather replies h.ready params)
    (alike_gather replies h.ready_only _)

/-- A step, and what is left of it without the calls for other keys. -/
theorem perform (hreplies : KeyWise replies) (step : Step) :
    Separate k (asked ++ step.calls) (p.perform replies step)
      ((only k [step]).foldl (Provider.perform replies) q) := by
  cases step with
  | get params =>
    cases hk : isOf k params with
    | true =>
      have hstep : only k [.get params] = [.get params] := by simp [only, Step.only?, hk]
      rw [hstep]
      exact h.get_same hreplies hk
    | false =>
      have hstep : only k [.get params] = [] := by simp [only, Step.only?, hk]
      rw [hstep]
      exact h.get_other replies hk
  | gather params => exact h.gather hreplies params
  | clear =>
    rw [Step.calls, List.append_nil]
    exact h.clear

/-- By induction on the steps. -/
theorem performAll (hreplies : KeyWise replies) (steps : List Step) :
    Separate k (asked ++ steps.flatMap Step.calls) (p.performAll replies steps)
      (q.performAll replies (only k steps)) := by
  induction steps generalizing asked p q with
  | nil =>
    rw [List.flatMap_nil, List.append_nil]
    exact h
  | cons step steps ih =>
    have hsteps : only k (step :: steps) = only k [step] ++ only k steps :=
      List.filterMap_append (l := [step])
    rw [List.flatMap_cons, ← List.append_assoc, hsteps]
    unfold Provider.performAll
    rw [List.foldl_cons, List.foldl_append]
    exact ih (h.perform hreplies step)

end Calls

end Separate

/-- **The calls for one key are served as if there were no others.** For every script, let steps
    follow in which calls for all keys share the provider, and compare them with the steps from
    which all calls for other keys are deleted. The fetches for the key are the same, in the same
    order, and every call for the key gets the same answer from the same one of these fetches:
    fetches and failures for other keys make no difference. -/
theorem performAll_only (scripts : String → ℕ → Reply) (k : String) (steps : List Step) :
    let p := performAll (scripted scripts) {} steps
    let q := performAll (scripted scripts) {} (only k steps)
    let asked := steps.flatMap Step.calls
    (only k steps).flatMap Step.calls = asked.filter (isOf k) ∧
      q.fetches = p.fetches.filter (isOf k) ∧
      ∀ n params, asked[n]? = some params → isOf k params →
        ∃ a, p.answer? n = some a ∧ a.IsOf k p.fetches ∧
          q.answer? (rank k asked n) = some (a.among k p.fetches) := by
  have hseparate := (Separate.start k).performAll (keyWise_scripted scripts) steps
  exact ⟨calls_only k steps, hseparate.fetches, hseparate.answers⟩

/-- For every key, the first fetch fails and the later ones give an environment. -/
def onceFailing : String → ℕ → Reply := fun k n =>
  if n = 0 then .error (.runtime "injected") else .ok (some [("KEY", k)])

/-- With the calls for `b` and `c`, the last call without parameters gets the environment of the
    sixth fetch, and without them the same environment of the third. -/
theorem performAll_only_onceFailing :
    let steps : List Step :=
      [.gather [some "b", none, some "b", some ""], .clear, .get (some "c"), .get none]
    only "" steps = [.gather [none, some ""], .clear, .get none] ∧
      (performAll (scripted onceFailing) {} (only "" steps)).fetches = [none, some "", none] ∧
      (performAll (scripted onceFailing) {} steps).answer? 5 =
        some ⟨5, .ok (some [("KEY", "")])⟩ ∧
      (performAll (scripted onceFailing) {} (only "" steps)).answer? 2 =
        some ⟨2, .ok (some [("KEY", "")])⟩ := by
  intro steps
  obtain ⟨-, hfetches, hanswers⟩ := performAll_only onceFailing "" steps
  obtain ⟨a, ha, -, ha'⟩ := hanswers 5 none rfl (by decide)
  have hfirst : (performAll (scripted onceFailing) {} steps).answer? 5 =
      some ⟨5, .ok (some [("KEY", "")])⟩ := rfl
  obtain rfl : a = ⟨5, .ok (some [("KEY", "")])⟩ := Option.some.inj (ha.symm.trans hfirst)
  exact ⟨by decide, hfetches, hfirst, ha'⟩

end CompileCommands.Provider
