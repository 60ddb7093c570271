/-
  References to the workspace root.

  * `Rootless`: a template without such references, and `substitute_of_rootless`: its expansion does
    not depend on the root;
  * `noneCrosses_delimited`, `toOption_substitute_delimited`: a whole reference in front of a
    template;
  * `RootInFront`: a template with one such reference, in front of a separator or of nothing, and
    `RootInFront.expand`: the root stands in front of its expansion.
-/
import CompileCommands.Path.Comparison
import CompileCommands.Proofs.Macro.Concat

namespace CompileCommands.Macro

/-! ## Without references to the root -/

/-- No reference of the template is one to the workspace root. -/
def Rootless (template : String) : Prop :=
  ∀ token ∈ tokens template, token.scope = "" → token.name ≠ "workspaceRoot"

instance (template : String) : Decidable (Rootless template) :=
  inferInstanceAs (Decidable (∀ token ∈ tokens template, _))

theorem builtin?_of_ne (ctx : Context) (root : Option String) {name : String}
    (h : name ≠ "workspaceRoot") : { ctx with root := root }.builtin? name = ctx.builtin? name := by
  unfold Context.builtin?
  split
  · contradiction
  all_goals rfl

theorem substitute_of_rootless {template : String} (h : Rootless template) (source : Source)
    (ctx : Context) (root : Option String) :
    substitute (resolve source { ctx with root := root }) template =
      substitute (resolve source ctx) template := by
  have hvalue : ∀ token ∈ tokens template,
      resolve source { ctx with root := root } token = resolve source ctx token := by
    intro token htoken
    unfold resolve
    split
    · next hscope => exact builtin?_of_ne ctx root (h token htoken hscope)
    · rfl
  rw [substitute, substitute, substituteFrom_congr hvalue]

theorem result_expand_of_rootless {template : String} (h : Rootless template) (source : Source)
    (ctx : Context) (root : Option String) :
    (expand source { ctx with root := root } template).result =
      (expand source ctx template).result := by
  rw [result_expand, result_expand, substitute_of_rootless h]

/-! ## A reference in front -/

section Front

variable {body : List Char} (h : IsBody body)
include h

theorem noneCrosses_delimited (rest : String) : NoneCrosses (String.ofList (delimited body)) rest := by
  intro start stop href
  obtain ⟨token, htoken, rfl, rfl⟩ := exists_token_iff.2 href
  rw [tokens, String.toList_append, String.toList_ofList, tokensFrom_delimited h,
    List.mem_cons] at htoken
  rw [← String.length_toList, String.toList_ofList, length_delimited]
  obtain rfl | htoken := htoken
  · left
    rw [Token.stop_of, Nat.zero_add]
  · right
    have hstart := (scan_tokensFrom _ rest.toList).le_start token htoken
    omega

theorem toOption_substitute_single (value : Token → Option String) :
    (substitute value (String.ofList (delimited body))).toOption = value (Token.of 0 body) := by
  have htokens : tokens (String.ofList (delimited body)) = [Token.of 0 body] := by
    rw [tokens, String.toList_ofList, ← List.append_nil (delimited body), tokensFrom_delimited h]
    rfl
  have hrest : (delimited body).drop (Token.of 0 body).stop = [] := by
    rw [Token.stop_of, Nat.zero_add, ← length_delimited, List.drop_length]
  rw [substitute, htokens, String.toList_ofList, substituteFrom, substituteFrom, hrest]
  cases value (Token.of 0 body) with
  | none => rfl
  | some v => simp [Except.map, Except.toOption]

theorem toOption_substitute_delimited {value : Token → Option String}
    (hvalue : ∀ distance token, value (token.shift distance) = value token) (rest : String) :
    (substitute value (String.ofList (delimited body) ++ rest)).toOption =
      (value (Token.of 0 body)).bind fun v => (substitute value rest).toOption.map (v ++ ·) := by
  rw [toOption_substitute_concat hvalue (noneCrosses_delimited h rest),
    toOption_substitute_single h]

end Front

/-- The template is a reference to the workspace root, without a scope or with an empty one, and a
    rest without such references. What the rest expands to is empty or begins with a separator, in
    either style. -/
structure RootInFront (source : Source) (ctx : Context) (template rest : String) : Prop where
  eq : template = "$\x7bworkspaceRoot\x7d" ++ rest ∨ template = "$\x7b.workspaceRoot\x7d" ++ rest
  rootless : Rootless rest
  separated : ∀ text, (expand source ctx rest).result = .ok (some text) →
    text = "" ∨ Path.isRooted (Path.withSlashes text)

/-- The root stands in front of what the rest expands to. -/
theorem RootInFront.expand {source : Source} {ctx : Context} {template rest : String}
    (h : RootInFront source ctx template rest) (root : String) :
    (expand source { ctx with root := some root } template).result =
      .ok ((substitute (resolve source ctx) rest).toOption.map (root ++ ·)) := by
  -- with or without a dot in front, the reference is one to the root
  have hfront (body : List Char) (hbody : IsBody body) (hscope : (Token.of 0 body).scope = "")
      (hname : (Token.of 0 body).name = "workspaceRoot") :
      (substitute (resolve source { ctx with root := some root })
        (String.ofList (delimited body) ++ rest)).toOption =
          (substitute (resolve source ctx) rest).toOption.map (root ++ ·) := by
    have hvalue : resolve source { ctx with root := some root } (Token.of 0 body) = some root := by
      rw [resolve, if_pos hscope, hname]
      rfl
    rw [toOption_substitute_delimited hbody (fun _ _ => rfl), hvalue,
      substitute_of_rootless h.rootless, Option.bind_some]
  rw [result_expand]
  obtain heq | heq := h.eq
  · rw [heq]
    exact congrArg Except.ok
      (hfront "workspaceRoot".toList ⟨by decide, List.all_eq_true.1 (by decide)⟩ (by decide)
        (by decide))
  · rw [heq]
    exact congrArg Except.ok
      (hfront ".workspaceRoot".toList ⟨by decide, List.all_eq_true.1 (by decide)⟩ (by decide)
        (by decide))

end CompileCommands.Macro
