/-!
Sets of code points as ascending closed ranges, the form every character table here takes.
-/

namespace EndpointManifest.Text

/-- Closed ranges of code points, ascending and disjoint. -/
abbrev Ranges := List (Nat × Nat)

/-- The ranges ascend, so the search ends at the first one that starts beyond `n`. -/
def Ranges.contains : Ranges → Nat → Bool
  | [], _ => false
  | (lo, hi) :: rest, n =>
    if n < lo then false else if n ≤ hi then true else Ranges.contains rest n

end EndpointManifest.Text
