/-
  Sets of code points given as ranges.

  * `inRanges`: membership, both ends of a range included.
-/
namespace CompileCommands.Text

/-- The point lies in one of the ranges, ends included. -/
def inRanges (ranges : List (Nat × Nat)) (point : Nat) : Bool :=
  ranges.any fun range => range.1 ≤ point && point ≤ range.2

end CompileCommands.Text
