set_option autoImplicit false

/-! # Ranges of characters

A class of characters is a list of ranges of their numbers, in order. -/

namespace SearchClient.Text

/-- Ranges of numbers, both ends included. -/
abbrev Ranges := List (Nat × Nat)

/-- Whether a number is in one of the ranges. -/
def Ranges.holds (rs : Ranges) (n : Nat) : Bool :=
  rs.any fun (first, last) => first ≤ n && n ≤ last

end SearchClient.Text
