/-
  Where the references of a template stand.

  * `IsReference`: the characters from one place up to another are a whole reference, said without
    the scan;
  * `isReference_iff`: this is so if and only if a reference begins at the first place and ends at
    the other;
  * `mem_tokensFrom_iff`, `exists_token_iff`: the scan lists all of them, and nothing else;
  * `Scan.pairwise`: it lists them one after the other, without overlap;
  * `SplitsAtDot`: a body at its first dot;
  * `tokens_spans`: what the references of a template are.
-/
import CompileCommands.Proofs.Macro.Scan

namespace CompileCommands.Macro

variable {template : List Char} {start stop n : ℕ}

/-! ## Whole references -/

/-- The characters from one place up to another are a whole reference: a dollar sign with an
    opening brace, a closing brace at the end, and between them some characters that are none of
    the three. -/
structure IsReference (template : List Char) (start stop : ℕ) : Prop where
  opens : between template start (start + 2) = ['$', '\x7b']
  closes : template[stop - 1]? = some '\x7d'
  nonempty : start + 2 < stop - 1
  plain : ∀ c ∈ between template (start + 2) (stop - 1), c ≠ '$' ∧ c ≠ '\x7b' ∧ c ≠ '\x7d'

theorem isBodyChar_iff {c : Char} : isBodyChar c ↔ c ≠ '$' ∧ c ≠ '\x7b' ∧ c ≠ '\x7d' := by
  simp only [isBodyChar, Bool.and_eq_true, decide_eq_true_eq, and_assoc]

/-- The template from a place on, cut at three further places. -/
theorem drop_eq_between (template : List Char) {i j k : ℕ} (hij : i ≤ j) (hjk : j ≤ k) :
    template.drop i = between template i j ++ (between template j k ++ template.drop k) := by
  have hcut {i j : ℕ} (h : i ≤ j) :
      template.drop i = between template i j ++ template.drop j := by
    have hdrop : template.drop j = (template.drop i).drop (j - i) := by
      rw [List.drop_drop, Nat.add_sub_cancel' h]
    rw [hdrop, between, List.take_append_drop]
  rw [← hcut hjk, ← hcut hij]

theorem drop_reference {body rest : List Char} (h : template.drop start = delimited body ++ rest)
    (k : ℕ) : template.drop (start + 2 + k) = (body ++ '\x7d' :: rest).drop k := by
  rw [Nat.add_assoc, ← List.drop_drop, h, ← List.drop_drop]
  simp [delimited]

/-- The body stands between the braces. -/
theorem between_body {body : List Char} (h : reference? (template.drop start) = some body) :
    between template (start + 2) (start + body.length + 3 - 1) = body := by
  obtain ⟨-, rest, hrest⟩ := reference?_eq_some_iff.1 h
  have hlength : start + body.length + 3 - 1 - (start + 2) = body.length := by omega
  rw [between, hlength, ← Nat.add_zero (start + 2), drop_reference hrest, List.drop_zero,
    List.take_left]

theorem isReference_iff : IsReference template start stop ↔
    ∃ body, reference? (template.drop start) = some body ∧ stop = start + body.length + 3 := by
  constructor
  · rintro ⟨hopens, hcloses, hnonempty, hplain⟩
    have hlast : stop - 1 < template.length := (List.getElem?_eq_some_iff.1 hcloses).1
    have hlength : (between template (start + 2) (stop - 1)).length = stop - 1 - (start + 2) := by
      rw [between, List.length_take, List.length_drop]
      omega
    refine ⟨between template (start + 2) (stop - 1), reference?_eq_some_iff.2 ⟨⟨?_, ?_⟩, ?_⟩, ?_⟩
    · rw [← List.length_pos_iff, hlength]
      omega
    · exact fun c hc => isBodyChar_iff.2 (hplain c hc)
    · have hclosed : template.drop (stop - 1) = '\x7d' :: template.drop (stop - 1 + 1) := by
        rw [List.drop_eq_getElem_cons hlast, (List.getElem?_eq_some_iff.1 hcloses).2]
      refine ⟨template.drop (stop - 1 + 1), ?_⟩
      rw [drop_eq_between template (Nat.le_add_right start 2) (Nat.le_of_lt hnonempty), hopens,
        hclosed]
      simp [delimited]
    · rw [hlength]
      omega
  · rintro ⟨body, hbody, rfl⟩
    have hbetween := between_body hbody
    obtain ⟨⟨hne, hplain⟩, rest, hrest⟩ := reference?_eq_some_iff.1 hbody
    have hpos := List.length_pos_iff.2 hne
    constructor
    case opens => simp [between, hrest, delimited]
    case closes =>
      have hstop : start + body.length + 3 - 1 = start + 2 + body.length := by omega
      rw [hstop, ← List.head?_drop, drop_reference hrest, List.drop_left]
      rfl
    case nonempty => omega
    case plain =>
      rw [hbetween]
      exact fun c hc => isBodyChar_iff.1 (hplain c hc)

/-! ## What the scan lists -/

/-- The scan lists a reference for every place at which one begins. By induction on the text: every
    place of it is looked at. -/
theorem mem_tokensFrom_iff {s : List Char} {token : Token} : token ∈ tokensFrom n s ↔
    ∃ k body, reference? (s.drop k) = some body ∧ token = Token.of (n + k) body := by
  induction s generalizing n with
  | nil => simp [tokensFrom, reference?]
  | cons c s ih =>
    -- a reference begins at the first character or later
    have hsplit : (∃ k body, reference? ((c :: s).drop k) = some body ∧
          token = Token.of (n + k) body) ↔
        (∃ body, reference? (c :: s) = some body ∧ token = Token.of n body) ∨
          token ∈ tokensFrom (n + 1) s := by
      rw [ih]
      constructor
      · rintro ⟨k, body, hbody, rfl⟩
        cases k with
        | zero => exact .inl ⟨body, hbody, rfl⟩
        | succ k => exact .inr ⟨k, body, hbody, by rw [Nat.add_right_comm, Nat.add_assoc]⟩
      · rintro (⟨body, hbody, rfl⟩ | ⟨k, body, hbody, rfl⟩)
        · exact ⟨0, body, hbody, rfl⟩
        · exact ⟨k + 1, body, hbody, by rw [Nat.add_right_comm, Nat.add_assoc]⟩
    rw [hsplit, tokensFrom]
    cases reference? (c :: s) with
    | none => simp
    | some body => simp

theorem exists_token_iff {template : String} :
    (∃ token ∈ tokens template, token.start = start ∧ token.stop = stop) ↔
      IsReference template.toList start stop := by
  rw [isReference_iff]
  constructor
  · rintro ⟨token, htoken, rfl, rfl⟩
    obtain ⟨k, body, hbody, rfl⟩ := mem_tokensFrom_iff.1 htoken
    rw [Token.start_of, Token.stop_of, Nat.zero_add]
    exact ⟨body, hbody, rfl⟩
  · rintro ⟨body, hbody, rfl⟩
    refine ⟨Token.of start body, mem_tokensFrom_iff.2 ⟨start, body, hbody, ?_⟩, rfl, rfl⟩
    rw [Nat.zero_add]

/-- Every reference ends before the next begins. -/
theorem Scan.pairwise {s : List Char} {ts : List Token} (h : Scan n s ts) :
    ts.Pairwise fun a b => a.stop ≤ b.start := by
  induction h with
  | done => exact .nil
  | literal _ _ ih => exact ih
  | reference _ hscan ih => exact .cons (fun b hb => hscan.le_start b hb) ih

/-! ## Scopes and names -/

/-- A body at its first dot: the scope in front of it and the name after it. Without a dot there is
    no scope, and all is the name. -/
inductive SplitsAtDot : List Char → String → String → Prop
  /-- There is a dot, and none before it. -/
  | dotted {scope name : List Char} : '.' ∉ scope →
      SplitsAtDot (scope ++ '.' :: name) (String.ofList scope) (String.ofList name)
  /-- There is no dot. -/
  | plain {body : List Char} : '.' ∉ body → SplitsAtDot body "" (String.ofList body)

theorem splitsAtDot_of (start : ℕ) (body : List Char) :
    SplitsAtDot body (Token.of start body).scope (Token.of start body).name := by
  have hbody := List.takeWhile_append_dropWhile (p := (· ≠ '.')) (l := body)
  unfold Token.of splitBody
  cases hrest : body.dropWhile (· ≠ '.') with
  | nil =>
    rw [List.dropWhile_eq_nil_iff] at hrest
    exact .plain fun hdot => by simpa using hrest '.' hdot
  | cons dot name =>
    obtain rfl : dot = '.' := by
      have hfirst := List.head?_dropWhile_not (fun c => decide (c ≠ '.')) body
      rw [hrest] at hfirst
      simpa using hfirst
    rw [hrest] at hbody
    have hscope : '.' ∉ body.takeWhile (· ≠ '.') := fun hdot => by
      simpa using List.mem_takeWhile_imp hdot
    have hsplits := @SplitsAtDot.dotted _ name hscope
    rwa [hbody] at hsplits

/-! ## References -/

/-- **The references of a template are its well-formed spans.** They are listed in order, each
    ending before the next begins. From one place to another there is a reference exactly if the
    characters between are a dollar sign with an opening brace, some characters that are neither
    dollar signs nor braces, and a closing brace. The text of a reference is these characters, and
    its scope and name are what stands between the braces, before and after the first dot. -/
theorem tokens_spans (template : String) :
    (tokens template).Pairwise (fun a b => a.stop ≤ b.start) ∧
    (∀ start stop, (∃ token ∈ tokens template, token.start = start ∧ token.stop = stop) ↔
      IsReference template.toList start stop) ∧
    ∀ token ∈ tokens template, token.start < token.stop ∧
      token.text.toList = between template.toList token.start token.stop ∧
      SplitsAtDot (between template.toList (token.start + 2) (token.stop - 1))
        token.scope token.name := by
  have hscan := scan_tokensFrom 0 template.toList
  refine ⟨hscan.pairwise, fun start stop => exists_token_iff, fun token htoken => ⟨?_, ?_, ?_⟩⟩
  · obtain ⟨k, body, -, rfl⟩ := mem_tokensFrom_iff.1 htoken
    rw [Token.start_of, Token.stop_of]
    omega
  · exact (hscan.between_eq rfl token htoken).symm
  · obtain ⟨k, body, hbody, rfl⟩ := mem_tokensFrom_iff.1 htoken
    have hbetween := between_body hbody
    rw [Nat.zero_add, Token.start_of, Token.stop_of, hbetween]
    exact splitsAtDot_of k body

/-- Inside a beginning without an end, there is a reference all the same. -/
theorem tokens_spans_inner :
    IsReference "$\x7ba$\x7bb.c.d\x7d\x7d".toList 3 11 ∧
      ∃ token ∈ tokens "$\x7ba$\x7bb.c.d\x7d\x7d", token.start = 3 ∧ token.stop = 11 ∧
        SplitsAtDot "b.c.d".toList token.scope token.name := by
  have hinner : ∃ token ∈ tokens "$\x7ba$\x7bb.c.d\x7d\x7d", token.start = 3 ∧ token.stop = 11 := by
    decide +kernel
  obtain ⟨-, hspans, hparts⟩ := tokens_spans "$\x7ba$\x7bb.c.d\x7d\x7d"
  have hspan := (hspans 3 11).1 hinner
  obtain ⟨token, htoken, hstart, hstop⟩ := hinner
  obtain ⟨-, -, hsplits⟩ := hparts token htoken
  rw [hstart, hstop] at hsplits
  exact ⟨hspan, token, htoken, hstart, hstop, hsplits⟩

end CompileCommands.Macro
