import SearchClient.Decimal.Shortest

set_option autoImplicit false

/-! # Texts of floating point numbers

The shortest digits of a number are laid out positionally while its decimal exponent lies in a
range, and with an exponent mark outside it. A `Layout` holds the decisions of one format. -/

namespace SearchClient

/-- How a format lays out the digits of a floating point number. -/
structure Layout where
  /-- The least decimal exponent that is written positionally. -/
  least : Int
  /-- The first decimal exponent above those that are written positionally. -/
  bound : Int
  /-- The least number of digits of a written exponent. -/
  exponentWidth : Nat
  nan : String
  infinity : String

namespace Layout

/-- The layout of plain text: positional from `0.0001` up to `10^16`, exponents of two digits. -/
def plain : Layout :=
  ⟨-4, 16, 2, "nan", "inf"⟩

/-- The layout of request bodies: as in plain text, and the numbers outside the number line have
    capital names. -/
def body : Layout :=
  { plain with nan := "NaN", infinity := "Infinity" }

/-- The layout of stored records: positional from `0.00001`, exponents without padding. -/
def compact : Layout :=
  ⟨-5, 16, 1, "null", "null"⟩

/-- The digits of `d` without the zeros at their end, and how many zeros these are. -/
def significant (d : Nat) : List Char × Nat :=
  let reversed := (Decimal.ofNat d).reverse
  ((reversed.dropWhile (· = '0')).reverse, (reversed.takeWhile (· = '0')).length)

/-- The exponent mark, a sign and the digits of the exponent. -/
def exponentText (l : Layout) (e : Int) : List Char :=
  'e' :: (if e < 0 then '-' else '+') :: Decimal.padded l.exponentWidth e.natAbs

/-- Lays out digits whose first one stands for a multiple of `10^e`. -/
def place (l : Layout) (ds : List Char) (e : Int) : List Char :=
  if l.least ≤ e ∧ e < l.bound then
    if e < 0 then
      '0' :: '.' :: (List.replicate ((-e).toNat - 1) '0' ++ ds)
    else
      let whole := e.toNat + 1
      if ds.length ≤ whole then
        ds ++ List.replicate (whole - ds.length) '0' ++ ['.', '0']
      else ds.take whole ++ '.' :: ds.drop whole
  else
    match ds with
    | [] => []
    | [d] => d :: l.exponentText e
    | d :: rest => d :: '.' :: rest ++ l.exponentText e

/-- The text of the magnitude `m · 2^q`. -/
def magnitude (l : Layout) (m : Nat) (q : Int) : List Char :=
  if m = 0 then ['0', '.', '0']
  else
    let (d, k) := Binary64.shortest m q
    let (ds, zeros) := significant d
    l.place ds (k + zeros + ds.length - 1)

/-- The text of a number. -/
def render (l : Layout) : Binary64 → List Char
  | .nan => l.nan.toList
  | .infinite false => l.infinity.toList
  | .infinite true => if l.infinity = "null" then "null".toList else '-' :: l.infinity.toList
  | .finite false m q _ => l.magnitude m q
  | .finite true m q _ => '-' :: l.magnitude m q

end Layout

end SearchClient
