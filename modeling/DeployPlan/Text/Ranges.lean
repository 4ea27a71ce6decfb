/-!
# Classes of characters as ranges of codes

A class is a list of ranges, first and last code, in ascending order.
-/

namespace DeployPlan.Text

/-- Whether `n` lies in one of the ranges, which stand in ascending order. -/
def inRanges (n : Nat) : List (Nat × Nat) → Bool
  | [] => false
  | (lo, hi) :: rest => if n < lo then false else if n ≤ hi then true else inRanges n rest

/-- What the range has that `n` lies in; the ranges stand in ascending order. -/
def rangeValue {α : Type} (n : Nat) : List (Nat × Nat × α) → Option α
  | [] => none
  | (lo, hi, a) :: rest =>
    if n < lo then none else if n ≤ hi then some a else rangeValue n rest

end DeployPlan.Text
