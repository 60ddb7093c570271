/-
  The order of versions.

  * `Version.compare` and the orders it is put together from are total: compared the other way
    round the answer is swapped, and what does not come after something does not come after what
    follows that either;
  * `Version.isLE_compare`: one version does not come after another if and only if that one does
    not come before it.
-/
import CompileCommands.Package.Version
import Mathlib.Order.Compare

namespace CompileCommands.Version

open Std (TransCmp OrientedCmp)

/-- Values in the order of something about them. -/
theorem transCmp_on {α β : Type} {cmp : β → β → Ordering} (h : TransCmp cmp) (f : α → β) :
    TransCmp fun a b => cmp (f a) (f b) where
  eq_swap := OrientedCmp.eq_swap
  isLE_trans := TransCmp.isLE_trans

/-- First in one order, then in another. -/
theorem transCmp_then {α : Type} {cmp cmp' : α → α → Ordering} (h : TransCmp cmp)
    (h' : TransCmp cmp') : TransCmp fun a b => (cmp a b).then (cmp' a b) :=
  inferInstanceAs (TransCmp (compareLex cmp cmp'))

instance : TransCmp Mark.compare :=
  transCmp_then (transCmp_on inferInstance Mark.label) (transCmp_on inferInstance Mark.number)

-- Only between two marks is there anything to compare.
instance : TransCmp Bound.compare where
  eq_swap {a b} := by
    cases a <;> cases b <;> simp only [Bound.compare, Ordering.swap]
    exact OrientedCmp.eq_swap
  isLE_trans {a b c} hab hbc := by
    cases a <;> cases b <;> cases c <;> simp_all [Bound.compare]
    exact TransCmp.isLE_trans hab hbc

instance : TransCmp LocalPart.compare where
  eq_swap {a b} := by
    cases a <;> cases b <;> simp only [LocalPart.compare, Ordering.swap] <;>
      exact OrientedCmp.eq_swap
  isLE_trans {a b c} hab hbc := by
    cases a <;> cases b <;> cases c <;> simp_all [LocalPart.compare] <;>
      exact TransCmp.isLE_trans hab hbc

/-- The order of versions is total. -/
instance : TransCmp Version.compare := by
  refine transCmp_then (transCmp_then (transCmp_then (transCmp_then (transCmp_then ?_ ?_) ?_) ?_)
    ?_) ?_
  · exact transCmp_on inferInstance Version.epoch
  · have h : TransCmp (List.compareLex (Ord.compare (α := Nat))) := inferInstance
    exact transCmp_on h fun v : Version => significant v.release
  · exact transCmp_on inferInstance preBound
  · exact transCmp_on inferInstance postBound
  · exact transCmp_on inferInstance devBound
  · have h : TransCmp (List.compareLex LocalPart.compare) := inferInstance
    exact transCmp_on h localParts

theorem isLE_compare (a b : Version) : (b.compare a).isLE = !(a.compare b).isLT := by
  have hswap : a.compare b = (b.compare a).swap := OrientedCmp.eq_swap
  rw [hswap]
  cases b.compare a <;> rfl

end CompileCommands.Version
