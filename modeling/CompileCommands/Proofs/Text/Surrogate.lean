/-
  Texts that have a form in an encoding.

  * `encodingError?_eq_none_iff`: a text has one exactly if no character of it is refused;
  * `IsOrdinary`: a character that is not kept for a surrogate: no encoding refuses it.
-/
import CompileCommands.Text.Surrogate
import Mathlib.Data.List.TakeWhile

namespace CompileCommands.Text

variable {isRefused : Nat → Bool} {s : String} {c : Char}

/-- A text has a form exactly if no character of it is refused. Else the first such character is
    kept for the surrogate at which the encoding stops. -/
theorem encodingError?_eq_none_iff :
    encodingError? isRefused s = none ↔ ∀ c ∈ s.toList, isRefusedChar isRefused c = false := by
  have hall : (∀ c ∈ s.toList, isRefusedChar isRefused c = false) ↔
      s.toList.dropWhile (!isRefusedChar isRefused ·) = [] := by
    simp only [List.dropWhile_eq_nil_iff, Bool.not_eq_true']
  rw [encodingError?, Option.map_eq_none_iff, hall]
  have hfirst := List.head?_dropWhile_not (!isRefusedChar isRefused ·) s.toList
  cases hrest : s.toList.dropWhile (!isRefusedChar isRefused ·) with
  | nil => exact iff_of_true rfl rfl
  | cons c rest =>
    rw [hrest] at hfirst
    have hrefused : isRefusedChar isRefused c = true := by simpa using hfirst
    obtain ⟨unit, hunit, -⟩ := (Option.any_eq_true _ _).1 hrefused
    refine iff_of_false ?_ (List.cons_ne_nil _ _)
    rw [List.takeWhile_cons, hunit, Option.isSome_some, if_pos rfl, List.head?_cons,
      Option.bind_some, hunit]
    exact Option.some_ne_none unit

/-- The character lies below those that are kept for surrogates. -/
def IsOrdinary (c : Char) : Prop := c.toNat < surrogateShift + 0xD800

instance : DecidablePred IsOrdinary := fun _ => inferInstanceAs (Decidable (_ < _))

theorem IsOrdinary.isRefusedChar (h : IsOrdinary c) : isRefusedChar isRefused c = false := by
  have hlow : ¬0xD800 ≤ c.toNat - surrogateShift := by
    unfold IsOrdinary at h
    omega
  rw [Text.isRefusedChar, surrogate?, isSurrogate, decide_eq_false hlow]
  rfl

end CompileCommands.Text
