set_option autoImplicit false

/-! # Decimal digits

A natural number is written most significant digit first, without leading zeros, and `0` is
written `0`. `ofInt` puts a sign in front of a negative number. `value` is the other direction:
the number that a run of digit values denotes. -/

namespace SearchClient.Decimal

/-- The character of the digit `d`, for `d < 10`. -/
def digitChar (d : Nat) : Char :=
  Char.ofNat (48 + d)

/-- The value of an ASCII digit. -/
def asciiDigit? (c : Char) : Option Nat :=
  if '0' ≤ c ∧ c ≤ '9' then some (c.toNat - 48) else none

/-- The digits of `n`. -/
def ofNat (n : Nat) : List Char :=
  if n < 10 then [digitChar n] else ofNat (n / 10) ++ [digitChar (n % 10)]
termination_by n
decreasing_by omega

/-- An optional minus sign, then the digits of the absolute value. -/
def ofInt : Int → List Char
  | .ofNat n => ofNat n
  | .negSucc n => '-' :: ofNat (n + 1)

/-- How many digits `n` has. -/
def length (n : Nat) : Nat :=
  (ofNat n).length

/-- The number that a run of digit values denotes, most significant first. -/
def value (ds : List Nat) : Nat :=
  ds.foldl (fun acc d => 10 * acc + d) 0

/-- At least `width` digits, filled with zeros on the left. -/
def padded (width n : Nat) : List Char :=
  let ds := ofNat n
  List.replicate (width - ds.length) '0' ++ ds

/-! ## Parts of literals -/

/-- Splits a sign off, if there is one; `true` is a minus sign. -/
def splitSign : List Char → Bool × List Char
  | '-' :: cs => (true, cs)
  | '+' :: cs => (false, cs)
  | cs => (false, cs)

/-- The digits at the front, and what follows them. -/
def spanDigits (cs : List Char) : List Char × List Char :=
  cs.span fun c => (asciiDigit? c).isSome

/-! ## Integers that are too long -/

/-- The most digits that an integer may have, in a literal that is read or in a text that is written. -/
def digitLimit : Nat :=
  4300

/-- Whether an integer can be written: it has not too many digits. -/
def isShort (n : Int) : Bool :=
  length n.natAbs ≤ digitLimit

/-- The complaint about an integer that has too many digits to be written. -/
def tooLongToWrite : String :=
  String.ofList ("Exceeds the limit (".toList ++ ofNat digitLimit ++
    " digits) for integer string conversion; use sys.set_int_max_str_digits() to increase the limit".toList)

/-- The complaint about an integer literal with too many digits. -/
def tooLong (digits : Nat) : String :=
  String.ofList ("Exceeds the limit (".toList ++ ofNat digitLimit ++
    " digits) for integer string conversion: value has ".toList ++ ofNat digits ++
    " digits; use sys.set_int_max_str_digits() to increase the limit".toList)

end SearchClient.Decimal
