/-
  Shared access to captured environments.

  * `Provider`: what was captured, by parameters; the fetch under way, the callers that wait for
    it, and the answers given so far;
  * `Provider.scripted`: replies to fetches from scripts, one for each key;
  * `Provider.call`: a caller asks; it is answered at once, starts a fetch, or waits;
  * `Provider.finish`, `Provider.resume`: the end of a fetch; the next waiting caller's turn;
  * `Provider.step`, `Provider.run`: the same as events, in any order;
  * `Provider.get`, `Provider.gather`: one call, or many at once, up to their answers.

  At most one fetch is under way. A waiting caller looks again at what was captured when its turn
  comes. Only environments are kept; a fetch that gives none is made again by the next caller.
-/
import CompileCommands.Snapshot.Stored

namespace CompileCommands

/-! ## Fetches -/

/-- What a fetch gives: an environment, nothing, or a failure. -/
abbrev Reply := Except Failure (Option Environment)

/-- The replies to fetches, by the parameters of the fetches before and of the fetch itself. -/
abbrev Replies := List (Option String) → Option String → Reply

namespace Provider

/-- The key under which the environment for parameters is kept. -/
def key (params : Option String) : String := params.getD ""

/-- Replies from scripts: every key has its own, with the reply to its first fetch, to its
    second, and so on. -/
def scripted (scripts : String → Nat → Reply) : Replies := fun earlier params =>
  scripts (key params) (earlier.countP fun q => key q = key params)

/-- A captured environment, with the number of the fetch that captured it. -/
structure Snapshot where
  fetch : Nat
  environment : Environment
  deriving DecidableEq

/-- A reply, with the number of the fetch that gave it. -/
structure Answer where
  fetch : Nat
  reply : Reply

/-- A caller, by the number of its call. -/
structure Caller where
  number : Nat
  params : Option String
  deriving DecidableEq

/-- What can happen to a provider. -/
inductive Event where
  /-- A caller asks. -/
  | call (params : Option String)
  /-- The fetch under way ends. -/
  | finish
  /-- The first waiting caller has its turn. -/
  | resume
  /-- What was captured is dropped. -/
  | clear
  deriving DecidableEq

end Provider

open Provider in
/-- The state of shared access. -/
structure Provider where
  /-- The environments kept. -/
  kept : Bindings Snapshot := []
  /-- The parameters of all fetches, in the order of their start. -/
  fetches : List (Option String) := []
  /-- The caller whose fetch is under way. -/
  busy : Option Caller := none
  /-- The waiting callers, in order. -/
  waiting : List Caller := []
  /-- How many calls were made. -/
  calls : Nat := 0
  /-- The answers, by the number of the call. -/
  answers : List (Nat × Answer) := []

namespace Provider

/-! ## Steps -/

/-- The answer from what is kept. -/
def hit? (p : Provider) (params : Option String) : Option Answer :=
  (p.kept.get? (key params)).map fun s => ⟨s.fetch, .ok (some s.environment)⟩

/-- Answers a caller. -/
def answer (p : Provider) (c : Caller) (a : Answer) : Provider :=
  { p with answers := p.answers ++ [(c.number, a)] }

/-- Starts a fetch for a caller. -/
def start (p : Provider) (c : Caller) : Provider :=
  { p with busy := some c, fetches := p.fetches ++ [c.params] }

/-- A caller's turn: it is answered from what is kept, or starts a fetch. -/
def enter (p : Provider) (c : Caller) : Provider :=
  match p.hit? c.params with
  | some a => p.answer c a
  | none => p.start c

/-- No fetch is under way and nobody waits. -/
def idle (p : Provider) : Bool :=
  p.busy.isNone && p.waiting.isEmpty

/-- A caller asks. -/
def call (p : Provider) (params : Option String) : Provider :=
  let c : Caller := ⟨p.calls, params⟩
  let p := { p with calls := p.calls + 1 }
  match p.hit? params with
  | some a => p.answer c a
  | none => if p.idle then p.start c else { p with waiting := p.waiting ++ [c] }

/-- The reply to the last fetch, which is a caller's. -/
def lastReply (replies : Replies) (p : Provider) (c : Caller) : Reply :=
  replies p.fetches.dropLast c.params

/-- What is kept after a reply. -/
def keep (kept : Bindings Snapshot) (params : Option String) (a : Answer) : Bindings Snapshot :=
  match a.reply with
  | .ok (some environment) => kept.insert (key params) ⟨a.fetch, environment⟩
  | .ok none | .error _ => kept

/-- The fetch under way ends, and its caller is answered. -/
def finish (replies : Replies) (p : Provider) : Provider :=
  match p.busy with
  | none => p
  | some c =>
    let a : Answer := ⟨p.fetches.length - 1, lastReply replies p c⟩
    { p.answer c a with busy := none, kept := keep p.kept c.params a }

/-- The first waiting caller has its turn, unless a fetch is under way. -/
def resume (p : Provider) : Provider :=
  match p.busy, p.waiting with
  | none, c :: rest => enter { p with waiting := rest } c
  | _, _ => p

/-- Drops what was captured. -/
def clear (p : Provider) : Provider :=
  { p with kept := [] }

/-! ## Runs -/

/-- What an event does. -/
def step (replies : Replies) (p : Provider) : Event → Provider
  | .call params => p.call params
  | .finish => p.finish replies
  | .resume => p.resume
  | .clear => p.clear

/-- What events do, one after the other. -/
def run (replies : Replies) (p : Provider) (events : List Event) : Provider :=
  events.foldl (step replies) p

/-- Lets the fetch under way end, and then so many waiting callers have their turn. -/
def settle (replies : Replies) : (turns : Nat) → Provider → Provider
  | 0, p => p.finish replies
  | turns + 1, p => settle replies turns (p.finish replies).resume

/-- Lets all callers have their answers. -/
def drain (replies : Replies) (p : Provider) : Provider :=
  settle replies p.waiting.length p

/-- One call, up to its answer. -/
def get (replies : Replies) (p : Provider) (params : Option String) : Provider :=
  (p.call params).drain replies

/-- Many calls at once, up to all answers. -/
def gather (replies : Replies) (p : Provider) (params : List (Option String)) : Provider :=
  (params.foldl call p).drain replies

/-- The answer to a call. -/
def answer? (p : Provider) (number : Nat) : Option Answer :=
  p.answers.lookup number

end Provider
end CompileCommands
