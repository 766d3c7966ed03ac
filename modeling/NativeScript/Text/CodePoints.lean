/-!
# Sets of code points

A property of Unicode 16 is written down as a list of runs.  Letters that
alternate between two cases share one run with a step of two.
-/

namespace NativeScript.Text

/-- A set of code points as a list of runs. -/
structure CodePoints.Run where
  first : Nat
  last : Nat
  /-- The distance between neighbours of the run. -/
  step : Nat

/-- A set of code points, the union of its runs. -/
abbrev CodePoints := List CodePoints.Run

namespace CodePoints

/-- Whether a code point is one of the run. -/
def Run.contains (run : Run) (point : Nat) : Bool :=
  decide (run.first ≤ point ∧ point ≤ run.last) && (point - run.first) % run.step == 0

/-- Whether a code point lies in one of the runs. -/
def contains (points : CodePoints) (point : Nat) : Bool :=
  points.any (·.contains point)

end CodePoints

end NativeScript.Text
