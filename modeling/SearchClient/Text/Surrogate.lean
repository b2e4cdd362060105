set_option autoImplicit false

/-! # Surrogate pairs

A character beyond `U+FFFF` is two units of sixteen bits. Units are joined where a first half stands
before a second half. A half without its partner is no character, so it cannot stand in a text
itself: one of the last private characters stands in for it, a different one for each half, and
`loneHalves` tells which of them do. -/

namespace SearchClient.Text

/-- Whether a unit is the first half of a pair. -/
def isHighSurrogate (n : Nat) : Bool :=
  0xD800 ≤ n && n < 0xDC00

/-- Whether a unit is the second half of a pair. -/
def isLowSurrogate (n : Nat) : Bool :=
  0xDC00 ≤ n && n < 0xE000

/-- The character that stands in for half a pair. -/
def standIn (n : Nat) : Char :=
  Char.ofNat (0x10F800 + n % 0x800)

/-- The half that a character stands in for. -/
def halfOf (c : Char) : Nat :=
  0xD800 + c.toNat % 0x800

/-- The character of a number, or the one that stands in for it. -/
def charOf (n : Nat) : Char :=
  if n.isValidChar then Char.ofNat n else standIn n

/-- The character of a pair. -/
def pairChar (high low : Nat) : Char :=
  charOf (0x10000 + (high - 0xD800) * 0x400 + (low - 0xDC00))

/-- The units of a character. -/
def units16 (c : Char) : List Nat :=
  let n := c.toNat
  if n < 0x10000 then [n]
  else [0xD800 + (n - 0x10000) / 0x400, 0xDC00 + (n - 0x10000) % 0x400]

/-- The characters of a sequence of units, and of numbers of whole characters among them. -/
def joinPairs : List Nat → List Char
  | [] => []
  | [unit] => [charOf unit]
  | high :: low :: units =>
    if isHighSurrogate high && isLowSurrogate low then pairChar high low :: joinPairs units
    else charOf high :: joinPairs (low :: units)

/-- What stands in for a unit, if it is half a pair. -/
def standIn? (unit : Nat) : Option Char :=
  if isHighSurrogate unit || isLowSurrogate unit then some (standIn unit) else none

/-- What stands in for the halves without a partner among units. -/
def loneHalves : List Nat → List Char
  | [] => []
  | [unit] => (standIn? unit).toList
  | high :: low :: units =>
    if isHighSurrogate high && isLowSurrogate low then loneHalves units
    else (standIn? high).toList ++ loneHalves (low :: units)

end SearchClient.Text
