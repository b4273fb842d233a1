/-
  ClusterClient.Text.Ranges — sets of code points as lists of closed ranges.
-/

namespace ClusterClient.Text

/-- Closed ranges of code points. -/
abbrev Ranges := List (Nat × Nat)

/-- Whether a range of the list holds `n`. -/
def Ranges.holds (rs : Ranges) (n : Nat) : Bool :=
  rs.any fun r => decide (r.1 ≤ n ∧ n ≤ r.2)

end ClusterClient.Text
