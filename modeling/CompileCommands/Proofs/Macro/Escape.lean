/-
  Templates without escape characters.

  * `escapeFree_stableIdentifier`: identifiers have none, whatever the text is;
  * `escapeFree_resolve`, `escapeFree_expand`: nor have the values of references and whole
    expansions, if the variables and the context have none; a reference without a value is a part
    of the template.
-/
import CompileCommands.Macro.Expansion
import CompileCommands.Proofs.Computation.Escape
import CompileCommands.Proofs.Digest.Identifier
import CompileCommands.Proofs.Json.Escape
import CompileCommands.Proofs.Macro.Scan
import CompileCommands.Proofs.Path.Escape

namespace CompileCommands

open Text

theorem escapeFree_stableIdentifier (value : String) : EscapeFree (stableIdentifier value) := by
  intro c hc hescape
  have hdigit := (Identifier.isFormed_format _).digits c hc
  rw [hescape] at hdigit
  exact absurd (hdigit (by decide)) (by decide)

namespace Macro

/-! ## Values -/

/-- The value of a variable. -/
instance : Textual Source := ⟨fun source => ∀ name, EscapeFree (source name)⟩

/-- What builtin macros stand for. -/
instance : Textual Context := ⟨fun ctx => EscapeFree ctx.configuration ∧ EscapeFree ctx.root ∧
  EscapeFree ctx.generator ∧ EscapeFree ctx.settingsFile ∧ EscapeFree ctx.descriptor⟩

variable {source : Source} {ctx : Context} {template : String}

theorem escapeFree_projectName? (h : EscapeFree ctx) : EscapeFree ctx.projectName? := by
  obtain ⟨-, -, -, -, hdescriptor⟩ := h
  intro name hname
  obtain ⟨directory, hdirectory, hname⟩ := Option.bind_eq_some_iff.1 hname
  have hfree := hdescriptor.option_map (fun _ => EscapeFree.directory) directory hdirectory
  split at hname
  · cases hname
  · obtain rfl := Option.some.inj hname
    exact hfree.collapse.path_name

theorem escapeFree_builtin? (h : EscapeFree ctx) (name : String) :
    EscapeFree (ctx.builtin? name) := by
  obtain ⟨hconfiguration, hroot, hgenerator, hsettings, hdescriptor⟩ := id h
  unfold Context.builtin?
  split
  · exact hroot
  · exact hdescriptor.option_map fun _ _ => escapeFree_stableIdentifier _
  · exact hdescriptor.option_map fun _ _ => escapeFree_stableIdentifier _
  · exact hdescriptor
  · exact hdescriptor.option_map fun _ => .directory
  · exact escapeFree_projectName? h
  · exact hsettings
  · exact hsettings.option_map fun _ => .directory
  · exact hconfiguration
  · exact hgenerator
  · exact .none

theorem escapeFree_resolve (hsource : EscapeFree source) (hctx : EscapeFree ctx) (token : Token) :
    EscapeFree (resolve source ctx token) :=
  .ite (escapeFree_builtin? hctx _) (.ite (hsource _) .none)

/-! ## Expansions -/

/-- The text of a reference. -/
instance : Textual Token := ⟨fun token => EscapeFree token.text⟩

theorem escapeFree_tokensFrom {s : List Char} (h : EscapeFree s) (n : ℕ) :
    EscapeFree (tokensFrom n s) := by
  induction s generalizing n with
  | nil => exact .nil
  | cons c s ih =>
    rw [tokensFrom]
    split
    · next body hbody =>
      obtain ⟨-, rest, hrest⟩ := reference?_eq_some_iff.1 hbody
      have htoken : EscapeFree (delimited body) := by
        refine h.subset ?_
        rw [hrest]
        exact List.subset_append_left _ _
      exact .cons htoken.ofList (ih h.of_cons.2 _)
    · exact ih h.of_cons.2 _

/-- By induction on the references; the first one without a value is one of them. -/
theorem escapeFree_substituteFrom {value : Token → Option String}
    (hvalue : ∀ token, EscapeFree (value token)) {s : List Char} (hs : EscapeFree s)
    (position : ℕ) {ts : List Token} (hts : EscapeFree ts) :
    EscapeFree (substituteFrom value s position ts) := by
  induction ts generalizing position with
  | nil => exact hs.subset (List.drop_subset _ _)
  | cons token ts ih =>
    obtain ⟨htoken, hts⟩ := hts.of_cons
    rw [substituteFrom]
    split
    · exact htoken
    · next v hv =>
      have hliteral : EscapeFree ((s.drop position).take (token.start - position)) :=
        hs.subset (List.Subset.trans (List.take_subset _ _) (List.drop_subset _ _))
      have htail := ih token.stop hts
      revert htail
      cases substituteFrom value s token.stop ts with
      | error fault => exact id
      | ok tail => exact fun htail => .append (.append hliteral (hvalue token v hv)) htail

theorem escapeFree_expand (hsource : EscapeFree source) (hctx : EscapeFree ctx)
    (htemplate : EscapeFree template) : EscapeFree (expand source ctx template) := by
  have hresult := escapeFree_substituteFrom (escapeFree_resolve hsource hctx) htemplate 0
    (escapeFree_tokensFrom htemplate 0)
  unfold expand substitute tokens
  revert hresult
  cases substituteFrom (resolve source ctx) template.toList 0 (tokensFrom 0 template.toList) with
  | error token =>
    exact fun htoken => ⟨.ok .none, .singleton (.cons htoken (.singleton htemplate))⟩
  | ok text => exact fun htext => .silent (.ok (EscapeFree.ofList htext).some)

theorem escapeFree_evaluate (ofProcess : Bool) (hsource : EscapeFree source) (hctx : EscapeFree ctx)
    (htemplate : EscapeFree template) : EscapeFree (evaluate ofProcess source ctx template) := by
  unfold evaluate
  split
  · exact .silent (.error (escapeFree_encodingError _))
  · exact escapeFree_expand hsource hctx htemplate

end Macro
end CompileCommands
