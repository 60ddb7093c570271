/-
  References that cannot be looked up.

  * `StopsAt`: all references in front of the first one that is refused have values;
    `stop?_eq_some_iff`: this is when an expansion fails;
  * `evaluate_of_stop`, `evaluate_of_none`: what an evaluation is then, and otherwise;
    `evaluate_of_unrefused`: if no reference is refused, a template is expanded as ever;
  * `evaluate_congr`, `stop?_withRoot`: only the variables that a template refers to count, and
    which workspace root there is makes no difference to the failure.
-/
import CompileCommands.Proofs.Macro.Expansion
import Mathlib.Data.List.Find

namespace CompileCommands.Macro

open Text

variable {ofProcess : Bool} {source : Source} {ctx : Context} {template : String}
  {error : EncodingError}

/-- The look-up of the references comes to one that is refused, for this reason: all in front of it
    have values and are not refused. -/
def StopsAt (ofProcess : Bool) (source : Source) (ctx : Context) (template : String)
    (error : EncodingError) : Prop :=
  ∃ earlier token later, tokens template = earlier ++ token :: later ∧
    (∀ t ∈ earlier, refusal? ofProcess ctx t = none ∧ ∃ v, HasValue source ctx t v) ∧
    refusal? ofProcess ctx token = some error

theorem isStop_eq_false_iff {token : Token} : isStop ofProcess source ctx token = false ↔
    refusal? ofProcess ctx token = none ∧ ∃ v, HasValue source ctx token v := by
  rw [isStop, Bool.or_eq_false_iff, Option.isSome_eq_false_iff, Option.isNone_iff_eq_none,
    Option.isNone_eq_false_iff, Option.isSome_iff_exists]
  simp only [resolve_eq_some_iff]

theorem stop?_eq_some_iff :
    stop? ofProcess source ctx template = some error ↔
      StopsAt ofProcess source ctx template error := by
  rw [stop?, Option.bind_eq_some_iff]
  constructor
  · rintro ⟨token, hfind, herror⟩
    obtain ⟨-, earlier, later, hts, hearlier⟩ := List.find?_eq_some_iff_append.1 hfind
    refine ⟨earlier, token, later, hts, fun t ht => isStop_eq_false_iff.1 ?_, herror⟩
    simpa using hearlier t ht
  · rintro ⟨earlier, token, later, hts, hearlier, herror⟩
    refine ⟨token, ?_, herror⟩
    refine List.find?_eq_some_iff_append.2 ⟨?_, earlier, later, hts, fun t ht => ?_⟩
    · rw [isStop, herror]
      rfl
    · rw [isStop_eq_false_iff.2 (hearlier t ht)]
      rfl

theorem stop?_of_unrefused (h : ∀ token ∈ tokens template, refusal? ofProcess ctx token = none) :
    stop? ofProcess source ctx template = none := by
  rw [stop?, Option.bind_eq_none_iff]
  exact fun token htoken => h token (List.mem_of_find?_eq_some htoken)

theorem evaluate_of_stop (h : stop? ofProcess source ctx template = some error) :
    evaluate ofProcess source ctx template = .fail (.notEncodable error) := by
  rw [evaluate, h]

theorem evaluate_of_none (h : stop? ofProcess source ctx template = none) :
    evaluate ofProcess source ctx template = expand source ctx template := by
  rw [evaluate, h]

theorem evaluate_of_unrefused
    (h : ∀ token ∈ tokens template, refusal? ofProcess ctx token = none) :
    evaluate ofProcess source ctx template = expand source ctx template :=
  evaluate_of_none (stop?_of_unrefused h)

/-! ## What counts -/

theorem stop?_congr {source' : Source} {ctx' : Context}
    (hrefusal : refusal? ofProcess ctx' = refusal? ofProcess ctx)
    (hresolve : ∀ token ∈ tokens template,
      (resolve source' ctx' token).isNone = (resolve source ctx token).isNone) :
    stop? ofProcess source' ctx' template = stop? ofProcess source ctx template := by
  have hstop : ∀ token ∈ tokens template,
      isStop ofProcess source' ctx' token = isStop ofProcess source ctx token := by
    intro token htoken
    rw [isStop, isStop, hrefusal, hresolve token htoken]
  rw [stop?, stop?, hrefusal, List.find?_congr hstop]

/-- Only the variables that a template refers to count. -/
theorem evaluate_congr {source' : Source} (h : ∀ token ∈ tokens template,
      lower token.scope = "env" → source' token.name = source token.name) :
    evaluate ofProcess source' ctx template = evaluate ofProcess source ctx template := by
  have hresolve : ∀ token ∈ tokens template,
      (resolve source' ctx token).isNone = (resolve source ctx token).isNone := by
    intro token htoken
    rw [resolve_congr h htoken]
  rw [evaluate, evaluate, stop?_congr rfl hresolve, expand_congr ctx h]

/-- With any workspace root an expansion fails alike. -/
theorem stop?_withRoot (root root' : String) :
    stop? ofProcess source { ctx with root := some root' } template =
      stop? ofProcess source { ctx with root := some root } template := by
  refine stop?_congr rfl fun token _ => ?_
  unfold resolve
  split
  · unfold Context.builtin?
    split <;> rfl
  · rfl

end CompileCommands.Macro
