import SearchClient.Decimal.Binary64
import SearchClient.Decimal.Digits

set_option autoImplicit false

/-! # The fewest digits that read back

Every real number of a small interval around `m · 2^q` rounds to it. Its shortest decimal text is
the grid point `d · 10^k` of that interval with the fewest digits, and of two such points the
nearer one; a tie goes to the even `d`. On a grid only the two neighbours of the value can be
nearest, so `shortest` tests these for one digit, two digits, and so on up to seventeen. -/

namespace SearchClient.Binary64

/-- A non-negative ratio, compared by cross multiplication. -/
structure Ratio where
  num : Nat
  den : Nat

/-- The ratio `n · 2^q`. -/
def Ratio.binary (n : Nat) (q : Int) : Ratio :=
  if 0 ≤ q then ⟨n * Nat.pow 2 q.toNat, 1⟩ else ⟨n, Nat.pow 2 (-q).toNat⟩

/-- The ratio `n · 10^k`. -/
def Ratio.decimal (n : Nat) (k : Int) : Ratio :=
  if 0 ≤ k then ⟨n * Nat.pow 10 k.toNat, 1⟩ else ⟨n, Nat.pow 10 (-k).toNat⟩

/-- Whether `a ≤ b`. -/
def Ratio.le (a b : Ratio) : Bool :=
  a.num * b.den ≤ b.num * a.den

/-- Whether `a < b`. -/
def Ratio.lt (a b : Ratio) : Bool :=
  a.num * b.den < b.num * a.den

/-- The `p` with `10^(p-1) ≤ r < 10^p`, for a ratio above zero. -/
def Ratio.magnitude (r : Ratio) : Int :=
  if r.den ≤ r.num then Decimal.length (r.num / r.den)
  else 1 - (Decimal.length ((r.den - 1) / r.num) : Int)

/-- The largest `d` with `d · 10^k ≤ r`. -/
def Ratio.floorOn (r : Ratio) (k : Int) : Nat :=
  if 0 ≤ k then r.num / (r.den * Nat.pow 10 k.toNat) else r.num * Nat.pow 10 (-k).toNat / r.den

/-- The reals that round to `m · 2^q`: half a unit to each side, a quarter below a power of two,
    the ends included for an even mantissa. -/
structure Interval where
  low : Ratio
  high : Ratio
  closed : Bool

/-- The interval of `m · 2^q`. -/
def Interval.of (m : Nat) (q : Int) : Interval :=
  let below := if m = leastFull ∧ q ≠ -1074 then 1 else 2
  ⟨.binary (4 * m - below) (q - 2), .binary (4 * m + 2) (q - 2), m % 2 = 0⟩

/-- Whether a ratio lies in the interval. -/
def Interval.contains (i : Interval) (r : Ratio) : Bool :=
  if i.closed then i.low.le r && r.le i.high else i.low.lt r && r.lt i.high

/-- The grid point of `10^k` that reads back as the value, if one does. -/
def onGrid (value : Ratio) (interval : Interval) (k : Int) : Option Nat :=
  let d := value.floorOn k
  let lower := interval.contains (.decimal d k)
  let upper := interval.contains (.decimal (d + 1) k)
  match lower, upper with
  | false, false => none
  | true, false => some d
  | false, true => some (d + 1)
  | true, true =>
    let middle := Ratio.decimal (10 * d + 5) (k - 1)
    if value.lt middle then some d
    else if middle.lt value then some (d + 1)
    else some (if d % 2 = 0 then d else d + 1)

/-- The first grid, from `digits` digits on, that holds a point of the interval. -/
def search (value : Ratio) (interval : Interval) (p : Int) : Nat → Nat → Nat × Int
  | digits, 0 => (value.floorOn (p - digits), p - digits)
  | digits, left + 1 =>
    match onGrid value interval (p - digits) with
    | some d => (d, p - digits)
    | none => search value interval p (digits + 1) left

/-- The decimal `(d, k)`, standing for `d · 10^k`, with the fewest digits that reads back as
    `m · 2^q`, for `m` above zero. -/
def shortest (m : Nat) (q : Int) : Nat × Int :=
  let value := Ratio.binary m q
  search value (.of m q) value.magnitude 1 17

end SearchClient.Binary64
