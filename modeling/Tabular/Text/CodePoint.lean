/-!
# Sets and maps of code points

Character properties are unions of intervals, and case mappings move whole runs of code points by
one constant. This module holds the two shapes and how they are read; the tables are beside the
properties that use them.
-/

namespace Tabular.Text

/-- Whether a code point lies in one of the closed intervals. -/
def inRanges (ranges : List (Nat × Nat)) (n : Nat) : Bool :=
  ranges.any fun r => r.1 ≤ n && n ≤ r.2

/-- The code points `first`, `first + step`, …, `last`, each standing for one of an equally spaced
run that starts at `image`. -/
structure Run where
  first : Nat
  last : Nat
  step : Nat
  image : Nat
  deriving DecidableEq, Repr

def Run.contains (r : Run) (n : Nat) : Bool :=
  r.first ≤ n && n ≤ r.last && (n - r.first) % r.step == 0

/-- Where the runs send a code point; one in no run stays. -/
def Run.apply (runs : List Run) (n : Nat) : Nat :=
  match runs.find? (·.contains n) with
  | some r => r.image + (n - r.first)
  | none => n

end Tabular.Text
