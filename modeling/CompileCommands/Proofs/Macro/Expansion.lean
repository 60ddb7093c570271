/-
  What an expansion consists of.

  * `literals`, `weave`: the parts of a template between its references, and literal parts with
    values between them;
  * `HasValue`: the value of a reference, by the scope and the name that it gives;
  * `weave_literals`: the literal parts with the references between them are the template;
  * `substituteFrom_weave`, `substituteFrom_error`: what replacing the references gives if all of
    them have values, and if one has none;
  * `expand_weave`: an expansion has every literal part in its place and the values between
    them as they are; without a value for every reference there is none, and one report names
    the first reference at fault.
-/
import CompileCommands.Macro.Expansion
import CompileCommands.Proofs.Macro.Scan
import Mathlib.Data.List.Forall2

namespace CompileCommands.Macro

open Text

/-! ## Literal parts -/

/-- The parts of a template from a place on that no reference covers: before the first of some
    references, between each two, and after the last. -/
def literalsFrom (template : List Char) (position : ℕ) (ts : List Token) : List (List Char) :=
  List.zipWith (between template) (position :: ts.map (·.stop))
    (ts.map (·.start) ++ [template.length])

/-- The parts of a template before its first reference, between each two, and after the last. -/
def literals (template : String) : List (List Char) :=
  literalsFrom template.toList 0 (tokens template)

/-- Literal parts with values between them. -/
def weave : List (List Char) → List String → List Char
  | literal :: rest, value :: values => literal ++ value.toList ++ weave rest values
  | parts, _ => parts.flatten

theorem literalsFrom_nil (template : List Char) (position : ℕ) :
    literalsFrom template position [] = [template.drop position] := by
  simp [literalsFrom, between]

theorem literalsFrom_cons (template : List Char) (position : ℕ) (token : Token)
    (ts : List Token) :
    literalsFrom template position (token :: ts) =
      between template position token.start :: literalsFrom template token.stop ts := rfl

theorem weave_nil (parts : List (List Char)) : weave parts [] = parts.flatten := by
  cases parts <;> rfl

/-- A literal character in front goes with the first literal part. -/
theorem weave_literalsFrom_succ {template : List Char} {n : ℕ} {c : Char} {s : List Char}
    (hs : template.drop n = c :: s) {ts : List Token} (hle : ∀ token ∈ ts, n < token.start)
    (values : List String) (hlen : values.length = ts.length) :
    weave (literalsFrom template n ts) values =
      c :: weave (literalsFrom template (n + 1) ts) values := by
  have hs' : template.drop (n + 1) = s := by
    rw [← List.drop_drop, hs, List.drop_one, List.tail_cons]
  cases ts with
  | nil =>
    obtain rfl := List.length_eq_zero_iff.1 hlen
    simp [literalsFrom_nil, weave_nil, hs, hs']
  | cons token ts =>
    obtain ⟨value, values, rfl⟩ := List.exists_cons_of_length_eq_add_one hlen
    have hlt := hle token (by simp)
    have hbetween : between template n token.start = c :: between template (n + 1) token.start := by
      obtain ⟨k, hk⟩ : ∃ k, token.start - n = k + 1 := ⟨token.start - n - 1, by omega⟩
      rw [between, between, hs, hs', hk, List.take_succ_cons]
      congr 2
      omega
    rw [literalsFrom_cons, literalsFrom_cons, hbetween]
    rfl

/-- The literal parts with the references between them are the text that was scanned. -/
theorem Scan.weave_eq {template : List Char} {n : ℕ} {s : List Char} {ts : List Token}
    (h : Scan n s ts) (hs : template.drop n = s) :
    weave (literalsFrom template n ts) (ts.map (·.text)) = s := by
  induction h with
  | done => rw [literalsFrom_nil, hs]; rfl
  | literal _ hscan ih =>
    rw [weave_literalsFrom_succ hs (fun token ht => hscan.le_start token ht) _ (by simp), ih]
    rw [← List.drop_drop, hs, List.drop_one, List.tail_cons]
  | @reference n body s ts _ _ ih =>
    have hbetween : between template n n = [] := by simp [between]
    have hrest : template.drop (n + body.length + 3) = s := by
      rw [Nat.add_assoc, ← List.drop_drop, hs, ← length_delimited, List.drop_left]
    rw [literalsFrom_cons, List.map_cons, Token.start_of, hbetween, weave, Token.stop_of, ih hrest,
      Token.text_of, String.toList_ofList, List.nil_append]

theorem weave_literals (template : String) :
    weave (literals template) ((tokens template).map (·.text)) = template.toList :=
  (scan_tokensFrom 0 template.toList).weave_eq rfl

/-! ## Values -/

/-- A reference has a value: of an environment variable, or of a builtin macro. -/
inductive HasValue (source : Source) (ctx : Context) (token : Token) (value : String) : Prop
  /-- In the scope `env`, in any case of letters, the source has a variable of the name. -/
  | variable : lower token.scope = "env" → source token.name = some value →
      HasValue source ctx token value
  /-- Without a scope, a builtin macro of exactly this name has a value. -/
  | builtin : token.scope = "" → ctx.builtin? token.name = some value →
      HasValue source ctx token value

theorem resolve_eq_some_iff {source : Source} {ctx : Context} {token : Token} {value : String} :
    resolve source ctx token = some value ↔ HasValue source ctx token value := by
  unfold resolve
  constructor
  · intro h
    split_ifs at h with hscope henv
    · exact .builtin hscope h
    · exact .variable henv h
  · rintro (⟨henv, hvalue⟩ | ⟨hscope, hvalue⟩)
    · have hscope : token.scope ≠ "" := by
        rintro hscope
        rw [hscope] at henv
        exact absurd henv (by decide)
      rw [if_neg hscope, if_pos henv, hvalue]
    · rw [if_pos hscope, hvalue]

theorem resolve_eq_none_iff {source : Source} {ctx : Context} {token : Token} :
    resolve source ctx token = none ↔ ¬ ∃ value, HasValue source ctx token value := by
  simp only [← resolve_eq_some_iff, Option.eq_none_iff_forall_ne_some, ne_eq, not_exists]

/-! ## Replacing references -/

variable {value : Token → Option String} {template : List Char}

theorem substituteFrom_weave {ts : List Token} {values : List String}
    (h : List.Forall₂ (fun token v => value token = some v) ts values) (position : ℕ) :
    substituteFrom value template position ts =
      .ok (weave (literalsFrom template position ts) values) := by
  induction h generalizing position with
  | nil => simp [substituteFrom, literalsFrom_nil, weave_nil]
  | cons hv _ ih =>
    rw [substituteFrom, hv, literalsFrom_cons]
    simp only [ih, Except.map, weave, between]

theorem substituteFrom_error {earlier later : List Token} {token : Token}
    (h : ∀ t ∈ earlier, ∃ v, value t = some v) (hnone : value token = none) (position : ℕ) :
    substituteFrom value template position (earlier ++ token :: later) = .error token := by
  induction earlier generalizing position with
  | nil => rw [List.nil_append, substituteFrom, hnone]
  | cons t earlier ih =>
    obtain ⟨v, hv⟩ := h t (by simp)
    rw [List.cons_append, substituteFrom, hv]
    simp only [ih fun x hx => h x (by simp [hx]), Except.map]

/-- All of some references have values, or there is a first one that has none. -/
theorem values_or_first (value : Token → Option String) (ts : List Token) :
    (∃ values, List.Forall₂ (fun token v => value token = some v) ts values) ∨
    ∃ earlier token later, ts = earlier ++ token :: later ∧
      (∀ t ∈ earlier, ∃ v, value t = some v) ∧ value token = none := by
  induction ts with
  | nil => exact Or.inl ⟨[], .nil⟩
  | cons t ts ih =>
    cases ht : value t with
    | none => exact Or.inr ⟨[], t, ts, rfl, by simp, ht⟩
    | some v =>
      rcases ih with ⟨values, hvalues⟩ | ⟨earlier, token, later, rfl, hsome, hnone⟩
      · exact Or.inl ⟨v :: values, .cons ht hvalues⟩
      · refine Or.inr ⟨t :: earlier, token, later, rfl, fun x hx => ?_, hnone⟩
        rcases List.mem_cons.1 hx with rfl | hx
        · exact ⟨v, ht⟩
        · exact hsome x hx

theorem substituteFrom_congr {value' : Token → Option String} {ts : List Token}
    (h : ∀ token ∈ ts, value' token = value token) (position : ℕ) :
    substituteFrom value' template position ts = substituteFrom value template position ts := by
  induction ts generalizing position with
  | nil => rfl
  | cons token ts ih =>
    rw [List.forall_mem_cons] at h
    rw [substituteFrom, substituteFrom, h.1]
    simp only [ih h.2]

/-! ## Expansion -/

theorem result_expand (source : Source) (ctx : Context) (template : String) :
    (expand source ctx template).result =
      .ok (substitute (resolve source ctx) template).toOption := by
  unfold expand
  cases substitute (resolve source ctx) template <;> rfl

theorem resolve_congr {source source' : Source} {ctx : Context} {template : String}
    (h : ∀ token ∈ tokens template, lower token.scope = "env" →
      source' token.name = source token.name) {token : Token} (htoken : token ∈ tokens template) :
    resolve source' ctx token = resolve source ctx token := by
  unfold resolve
  split
  · rfl
  · split
    · next henv => exact h token htoken henv
    · rfl

/-- Only the variables that a template refers to count. -/
theorem expand_congr {source source' : Source} (ctx : Context) {template : String}
    (h : ∀ token ∈ tokens template, lower token.scope = "env" →
      source' token.name = source token.name) :
    expand source' ctx template = expand source ctx template := by
  rw [expand, expand, substitute, substitute, substituteFrom_congr fun _ => resolve_congr h]

theorem expand_of_values {source : Source} {ctx : Context} {template : String}
    {values : List String}
    (h : List.Forall₂ (HasValue source ctx) (tokens template) values) :
    expand source ctx template =
      .ok (some (String.ofList (weave (literals template) values))) := by
  have hvalues := h.imp fun _ _ => resolve_eq_some_iff.2
  rw [expand, substitute, substituteFrom_weave hvalues]
  rfl

theorem expand_of_none {source : Source} {ctx : Context} {template : String}
    {earlier later : List Token} {token : Token}
    (hts : tokens template = earlier ++ token :: later)
    (hsome : ∀ t ∈ earlier, ∃ v, resolve source ctx t = some v)
    (hnone : resolve source ctx token = none) :
    expand source ctx template = ⟨.ok none, [.macroUnresolved token.text template]⟩ := by
  rw [expand, substitute, hts, substituteFrom_error hsome hnone]
  rfl

end CompileCommands.Macro
