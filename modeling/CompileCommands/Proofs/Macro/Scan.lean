/-
  A template read from left to right, as literal characters and references.

  * `delimited`: a body between its delimiters;
  * `IsBody`: what may stand between them;
  * `reference?_eq_some_iff`: a text begins with a reference if and only if it begins with a
    body between its delimiters;
  * `Scan`: the references met on the way through a text that begins at a place of the template;
  * `scan_tokensFrom`: `tokensFrom` lists the references of a scan. It goes through the inside of
    a reference as well, but no dollar sign stands there;
  * `Scan.le_start`, `Scan.between_eq`: the references of a scan begin no earlier than the scan,
    and stand in the template where their places say.
-/
import CompileCommands.Macro.Token
import Mathlib.Data.List.Infix
import Mathlib.Data.List.TakeWhile
import Mathlib.Order.Basic

namespace CompileCommands.Macro

/-! ## References -/

/-- A body between the delimiters of a reference. -/
def delimited (body : List Char) : List Char :=
  '$' :: '\x7b' :: body ++ ['\x7d']

/-- The characters of a body: some, and none of them a dollar sign or a brace. -/
def IsBody (body : List Char) : Prop :=
  body ≠ [] ∧ ∀ c ∈ body, isBodyChar c

@[simp] theorem length_delimited (body : List Char) : (delimited body).length = body.length + 3 := by
  simp [delimited]

@[simp] theorem Token.text_of (start : ℕ) (body : List Char) :
    (Token.of start body).text = String.ofList (delimited body) := rfl

@[simp] theorem Token.start_of (start : ℕ) (body : List Char) :
    (Token.of start body).start = start := rfl

@[simp] theorem Token.stop_of (start : ℕ) (body : List Char) :
    (Token.of start body).stop = start + body.length + 3 := rfl

theorem takeWhile_body {body : List Char} (h : ∀ c ∈ body, isBodyChar c) (rest : List Char) :
    (body ++ '\x7d' :: rest).takeWhile isBodyChar = body := by
  rw [List.takeWhile_append_of_pos h]
  simp [isBodyChar]

theorem reference?_eq_some_iff {s body : List Char} :
    reference? s = some body ↔ IsBody body ∧ ∃ rest, s = delimited body ++ rest := by
  constructor
  · intro h
    unfold reference? at h
    split at h
    · rename_i rest
      dsimp only at h
      split_ifs at h with hb
      obtain rfl := Option.some.inj h
      obtain ⟨tail, htail⟩ := List.head?_eq_some_iff.1 hb.2
      refine ⟨⟨hb.1, fun c hc => List.mem_takeWhile_imp hc⟩, tail, ?_⟩
      have hrest := List.prefix_append_drop (List.takeWhile_prefix isBodyChar (l := rest))
      rw [htail] at hrest
      simpa [delimited] using hrest
    · cases h
  · rintro ⟨⟨hne, hbody⟩, rest, rfl⟩
    have hw := takeWhile_body hbody rest
    simp [delimited, reference?, hw, hne]

/-! ## Scans -/

/-- The references of a text that begins at a place, met from left to right. -/
inductive Scan : ℕ → List Char → List Token → Prop
  /-- Nothing is left. -/
  | done {n} : Scan n [] []
  /-- A character with which no reference begins. -/
  | literal {n c s ts} : reference? (c :: s) = none → Scan (n + 1) s ts → Scan n (c :: s) ts
  /-- A whole reference. -/
  | reference {n body s ts} : IsBody body → Scan (n + body.length + 3) s ts →
      Scan n (delimited body ++ s) (Token.of n body :: ts)

/-- No reference begins among characters that are no dollar signs. -/
theorem tokensFrom_append {s : List Char} (h : ∀ c ∈ s, c ≠ '$') (n : ℕ) (r : List Char) :
    tokensFrom n (s ++ r) = tokensFrom (n + s.length) r := by
  induction s generalizing n with
  | nil => rfl
  | cons c s ih =>
    have hc : reference? (c :: (s ++ r)) = none := by
      unfold reference?
      split
      · rename_i heq
        exact absurd (List.cons.inj heq).1 (h c (by simp))
      · rfl
    rw [List.cons_append, tokensFrom, hc, ih (fun x hx => h x (by simp [hx]))]
    rw [List.length_cons, Nat.add_right_comm, Nat.add_assoc]

theorem tokensFrom_delimited {body : List Char} (h : IsBody body) (n : ℕ) (s : List Char) :
    tokensFrom n (delimited body ++ s) =
      Token.of n body :: tokensFrom (n + body.length + 3) s := by
  have href : reference? (delimited body ++ s) = some body := reference?_eq_some_iff.2 ⟨h, s, rfl⟩
  have hplain : ∀ c ∈ '\x7b' :: (body ++ ['\x7d']), c ≠ '$' := by
    intro c hc
    simp only [List.mem_cons, List.mem_append, List.not_mem_nil, or_false] at hc
    rcases hc with rfl | hc | rfl
    · decide
    · have := h.2 c hc
      simp only [isBodyChar, Bool.and_eq_true, decide_eq_true_eq] at this
      exact this.1.1
    · decide
  have hrest : tokensFrom (n + 1) ('\x7b' :: (body ++ ['\x7d']) ++ s) =
      tokensFrom (n + body.length + 3) s := by
    rw [tokensFrom_append hplain]
    congr 1
    simp only [List.length_cons, List.length_append, List.length_nil]
    omega
  simp only [delimited, List.cons_append] at href hrest ⊢
  rw [tokensFrom, href, hrest]

theorem scan_tokensFrom (n : ℕ) (s : List Char) : Scan n s (tokensFrom n s) := by
  -- by the length of the text, since a reference is passed as a whole
  induction hlen : s.length using Nat.strong_induction_on generalizing n s with
  | _ len ih =>
    subst hlen
    cases s with
    | nil => exact .done
    | cons c s =>
      cases href : reference? (c :: s) with
      | none =>
        rw [tokensFrom, href]
        exact .literal href (ih s.length (by simp) _ _ rfl)
      | some body =>
        obtain ⟨hbody, rest, hs⟩ := reference?_eq_some_iff.1 href
        rw [hs, tokensFrom_delimited hbody]
        refine .reference hbody (ih rest.length ?_ _ _ rfl)
        rw [hs, List.length_append, length_delimited]
        omega

theorem Scan.le_start {n : ℕ} {s : List Char} {ts : List Token} (h : Scan n s ts) :
    ∀ token ∈ ts, n ≤ token.start := by
  induction h with
  | done => simp
  | literal _ _ ih =>
    intro token htoken
    have := ih token htoken
    omega
  | reference _ _ ih =>
    intro token htoken
    rcases List.mem_cons.1 htoken with rfl | htoken
    · exact le_rfl
    · have := ih token htoken
      omega

/-! ## Parts of a template -/

/-- The characters of a template from one place up to another. -/
def between (template : List Char) (start stop : ℕ) : List Char :=
  (template.drop start).take (stop - start)

/-- A reference stands where its places say. -/
theorem Scan.between_eq {template : List Char} {n : ℕ} {s : List Char} {ts : List Token}
    (h : Scan n s ts) (hs : template.drop n = s) :
    ∀ token ∈ ts, between template token.start token.stop = token.text.toList := by
  induction h with
  | done => simp
  | literal _ _ ih =>
    refine ih ?_
    rw [← List.drop_drop, hs, List.drop_one, List.tail_cons]
  | @reference n body s ts _ _ ih =>
    intro token htoken
    rcases List.mem_cons.1 htoken with rfl | htoken
    · simp only [between, Token.start_of, Token.stop_of, Token.text_of, hs, String.toList_ofList]
      rw [List.take_append_of_le_length (by simp; omega), List.take_of_length_le (by simp; omega)]
    · refine ih ?_ token htoken
      rw [Nat.add_assoc, ← List.drop_drop, hs, ← length_delimited, List.drop_left]

end CompileCommands.Macro
