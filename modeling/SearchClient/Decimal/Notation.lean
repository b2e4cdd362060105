import SearchClient.Decimal.Shortest

set_option autoImplicit false

/-! # Decimals of a given precision

A non-negative ratio is written with a given number of digits behind the point, with one digit in
front of the point and an exponent, or in the shorter one of these ways. What is cut off is rounded
to nearest, a tie to the even digit. -/

namespace SearchClient.Decimal

open Binary64 (Ratio)

/-- A point and the digits behind it; without any, the point stands only where it is asked for. -/
def dotted (point : Bool) (fraction : List Char) : List Char :=
  if fraction.isEmpty && !point then [] else '.' :: fraction

/-- More digits than any number of 64 bits has, in front of the point or behind it. -/
def allDigits : Nat :=
  1100

/-- A ratio of 64 bits with a given number of digits behind the point. -/
def fixed (places : Nat) (point : Bool) (r : Ratio) : List Char :=
  let computed := min places allDigits
  let n := Binary64.roundHalfEven (r.num * Nat.pow 10 computed) r.den
  let ds := padded (computed + 1) n
  let fraction := ds.drop (ds.length - computed) ++ List.replicate (places - computed) '0'
  ds.take (ds.length - computed) ++ dotted point fraction

/-- The first digits of a ratio of 64 bits, one more than `places`, and the exponent of the first of
    them. -/
def leading (places : Nat) (r : Ratio) : List Char × Int :=
  if r.num = 0 then (List.replicate (places + 1) '0', 0)
  else
    let computed := min places allDigits
    let e := r.magnitude - 1
    let (num, den) :=
      match e - computed with
      | .ofNat k => (r.num, r.den * Nat.pow 10 k)
      | .negSucc k => (r.num * Nat.pow 10 (k + 1), r.den)
    let ds := ofNat (Binary64.roundHalfEven num den)
    let (ds, e) := if computed + 1 < ds.length then (ds.dropLast, e + 1) else (ds, e)
    (ds ++ List.replicate (places - computed) '0', e)

/-- An exponent with its sign, in two digits at least. -/
def exponent (e : Int) : List Char :=
  'e' :: (if e < 0 then '-' else '+') :: padded 2 e.natAbs

/-- Digits with an exponent. -/
def withExponent (point : Bool) (ds : List Char) (e : Int) : List Char :=
  ds.take 1 ++ dotted point (ds.drop 1) ++ exponent e

/-- A ratio with an exponent, and a given number of digits behind the point. -/
def scientific (places : Nat) (point : Bool) (r : Ratio) : List Char :=
  let (ds, e) := leading places r
  withExponent point ds e

/-- Removes the zeros at the end of digits. -/
def dropZeros (ds : List Char) : List Char :=
  (ds.reverse.dropWhile (· = '0')).reverse

/-- A ratio in a given number of digits, with an exponent if that is below -4 or not below the
    number of digits. Zeros at the end of a fraction stand only where the point is asked for. -/
def general (precision : Nat) (point : Bool) (r : Ratio) : List Char :=
  let precision := max 1 precision
  let (ds, e) := leading (precision - 1) r
  let shown (fraction : List Char) : List Char :=
    dotted point (if point then fraction else dropZeros fraction)
  if e < -4 ∨ (precision : Int) ≤ e then ds.take 1 ++ shown (ds.drop 1) ++ exponent e
  else if e < 0 then '0' :: shown (List.replicate ((-e).toNat - 1) '0' ++ ds)
  else ds.take (e.toNat + 1) ++ shown (ds.drop (e.toNat + 1))

end SearchClient.Decimal
