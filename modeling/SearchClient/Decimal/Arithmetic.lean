import SearchClient.Decimal.Shortest

set_option autoImplicit false

/-! # Sums and products

Binary floating point numbers are added and multiplied exactly, and the result is rounded once. A
sum of zeros is negative only if both are; infinities that cancel, and an infinity times a zero, are
not numbers. -/

namespace SearchClient.Binary64

/-- The number of the other sign. -/
def opposite : Binary64 → Binary64
  | .nan => .nan
  | .infinite negative => .infinite !negative
  | .finite negative m q h => .finite (!negative) m q h

/-- The number nearest to `± n · 2^q`. -/
def ofBinary (negative : Bool) (n : Nat) (q : Int) : Binary64 :=
  let r := Ratio.binary n q
  ofRatio negative r.num r.den

/-- The product of two numbers. -/
def times : Binary64 → Binary64 → Binary64
  | .nan, _ | _, .nan => .nan
  | .infinite a, .infinite b => .infinite (a != b)
  | .infinite a, .finite b m _ _ | .finite a m _ _, .infinite b =>
    if m = 0 then .nan else .infinite (a != b)
  | .finite a m p _, .finite b n q _ => ofBinary (a != b) (m * n) (p + q)

/-- The integer that is `± m · 2^q`, counted in units of `2^unit`, for `unit ≤ q`. -/
def unitsOf (negative : Bool) (m : Nat) (q unit : Int) : Int :=
  let n : Int := m * Nat.pow 2 (q - unit).toNat
  if negative then -n else n

/-- The sum of two numbers. -/
def plus : Binary64 → Binary64 → Binary64
  | .nan, _ | _, .nan => .nan
  | .infinite a, .infinite b => if a = b then .infinite a else .nan
  | .infinite a, .finite .. | .finite .., .infinite a => .infinite a
  | .finite a m p _, .finite b n q _ =>
    let unit := min p q
    let sum := unitsOf a m p unit + unitsOf b n q unit
    if sum = 0 then zero (a && b) else ofBinary (decide (sum < 0)) sum.natAbs unit

end SearchClient.Binary64
