set_option autoImplicit false

/-! # Binary floating point numbers of 64 bits

A number is not-a-number, an infinity, or `± m · 2^q` in the one canonical form that the format
has for it: the mantissa fills 53 bits unless the exponent is the least one. Everything here is
arithmetic on natural numbers, so each operation is exact or rounds once, to nearest with ties to
the even mantissa (`ofRatio`). -/

namespace SearchClient

/-- The least mantissa that fills 53 bits, which is `2^52`. -/
def Binary64.leastFull : Nat :=
  Nat.pow 2 52

/-- The mantissa and exponent are those the format uses for `m · 2^q`. -/
def Binary64.Canonical (m : Nat) (q : Int) : Prop :=
  m < 2 * leastFull ∧ -1074 ≤ q ∧ q ≤ 971 ∧ (leastFull ≤ m ∨ q = -1074)

instance (m : Nat) (q : Int) : Decidable (Binary64.Canonical m q) := by
  unfold Binary64.Canonical
  infer_instance

/-- A binary floating point number of 64 bits. -/
inductive Binary64 where
  | nan
  | infinite (negative : Bool)
  | finite (negative : Bool) (m : Nat) (q : Int) (canonical : Binary64.Canonical m q)
deriving DecidableEq

namespace Binary64

/-- The zero of the given sign. -/
def zero (negative : Bool) : Binary64 :=
  .finite negative 0 (-1074) (by decide)

/-- The integer nearest to `num / den`; a tie goes to the even one. -/
def roundHalfEven (num den : Nat) : Nat :=
  let quotient := num / den
  let rest := 2 * (num % den)
  if rest < den ∨ (rest = den ∧ quotient % 2 = 0) then quotient else quotient + 1

/-- `num / den` divided by `2^q`, as a ratio. -/
def scaleDown (num den : Nat) (q : Int) : Nat × Nat :=
  if 0 ≤ q then (num, den * Nat.pow 2 q.toNat) else (num * Nat.pow 2 (-q).toNat, den)

/-- The exponent at which the mantissa of `num / den` fills 53 bits, or the least exponent. -/
def exponentOf (num den : Nat) : Int :=
  let guess : Int := (num.log2 : Int) - den.log2 - 52
  let (n, d) := scaleDown num den guess
  max (if leastFull ≤ n / d then guess else guess - 1) (-1074)

/-- The number nearest to `± num / den`, an infinity beyond the largest one. -/
def ofRatio (negative : Bool) (num den : Nat) : Binary64 :=
  if num = 0 ∨ den = 0 then zero negative
  else
    let q := exponentOf num den
    let (n, d) := scaleDown num den q
    let m := roundHalfEven n d
    let (m, q) := if m = 2 * leastFull then (leastFull, q + 1) else (m, q)
    if h : Canonical m q then .finite negative m q h else .infinite negative

/-- The number nearest to `± digits · 10^exponent`. Beyond 400 orders of magnitude the answer does
    not depend on the digits any more, so no large power is computed there. -/
def ofDecimal (negative : Bool) (digits : Nat) (exponent : Int) : Binary64 :=
  if digits = 0 then zero negative
  else
    let magnitude : Int := exponent + (digits.log2 : Int) / 3
    if magnitude < -1200 ∧ exponent < -400 then zero negative
    else if 400 < exponent then .infinite negative
    else if 0 ≤ exponent then ofRatio negative (digits * Nat.pow 10 exponent.toNat) 1
    else ofRatio negative digits (Nat.pow 10 (-exponent).toNat)

/-- The number nearest to an integer. -/
def ofInt (n : Int) : Binary64 :=
  ofRatio (decide (n < 0)) n.natAbs 1

/-- The integer that is exactly this number, if there is one. -/
def toInt? : Binary64 → Option Int
  | .nan => none
  | .infinite _ => none
  | .finite negative m q _ =>
    let signed (n : Nat) : Int := if negative then -(n : Int) else n
    if 0 ≤ q then some (signed (m * Nat.pow 2 q.toNat))
    else if m % Nat.pow 2 (-q).toNat = 0 then some (signed (m / Nat.pow 2 (-q).toNat))
    else none

/-- Whether the number is strictly above zero; not-a-number is not. -/
def isPositive : Binary64 → Bool
  | .nan => false
  | .infinite negative => !negative
  | .finite negative m _ _ => !negative && m != 0

/-- Whether the number is finite. -/
def isFinite : Binary64 → Bool
  | .finite .. => true
  | _ => false

/-- Whether the number is a zero of either sign. -/
def isZero : Binary64 → Bool
  | .finite _ m _ _ => m == 0
  | _ => false

end Binary64

end SearchClient
