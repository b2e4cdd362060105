set_option autoImplicit false

/-! # Names in basic characters

A name with characters outside ASCII is written in letters, digits and hyphens: its ASCII
characters first, then a hyphen, then for each other character, from the lowest on, how far it is
from the one before. Such a distance is a number in digits of base 36 whose last digit is told by a
threshold; thresholds follow a bias that adapts to the distances seen. Characters are given by their
numbers. -/

namespace SearchClient.Text.Punycode

/-! ## Numbers -/

/-- The number below which the `k`th digit is the last one; `k` counts by 36 from 36 on. -/
def threshold (bias k : Nat) : Nat :=
  if k ≤ bias then 1 else min 26 (k - bias)

theorem threshold_pos (bias k : Nat) : 0 < threshold bias k := by
  unfold threshold
  split <;> omega

/-- Divides a distance until it is small, and counts the divisions by 36. -/
def shrink (distance divisions : Nat) : Nat × Nat :=
  if 455 < distance then shrink (distance / 35) (divisions + 36) else (distance, divisions)
termination_by distance
decreasing_by omega

/-- The bias after a distance; by the number of characters that there are then. -/
def adapt (distance count : Nat) (first : Bool) : Nat :=
  let d := if first then distance / 700 else distance / 2
  let (d, divisions) := shrink (d + d / count) 0
  divisions + 36 * d / (d + 38)

/-- The digit of a number below 36. -/
def digit (n : Nat) : Char :=
  if n < 26 then Char.ofNat (0x61 + n) else Char.ofNat (0x30 + (n - 26))

/-- The number of a digit. -/
def value? (c : Char) : Option Nat :=
  if c.isLower then some (c.toNat - 0x61)
  else if c.isUpper then some (c.toNat - 0x41)
  else if c.isDigit then some (c.toNat - 0x30 + 26)
  else none

/-- The digits of a number. -/
def digits (bias k n : Nat) : List Char :=
  let t := threshold bias k
  if n < t then [digit n]
  else digit (t + (n - t) % (36 - t)) :: digits bias (k + 36) ((n - t) / (36 - t))
termination_by n
decreasing_by
  have := threshold_pos bias k
  have := Nat.div_le_self (n - threshold bias k) (36 - threshold bias k)
  omega

/-- Reads the digits of a number, each of which counts `weight` times, and gives the rest. -/
def number? (bias : Nat) : Nat → Nat → List Char → Option (Nat × List Char)
  | _, _, [] => none
  | k, weight, c :: cs =>
    match value? c with
    | none => none
    | some d =>
      let t := threshold bias k
      if d < t then some (d * weight, cs)
      else
        (number? bias (k + 36) (weight * (36 - t)) cs).map fun (n, rest) => (d * weight + n, rest)

/-! ## Writing -/

/-- How far a name has been written. -/
structure Writing where
  digits : List Char
  /-- The distance since the last character that was written. -/
  distance : Nat := 0
  bias : Nat := 72
  /-- How many characters have been written. -/
  count : Nat

/-- Passes a character of the name while the character `n` is written. -/
def Writing.pass (basic n : Nat) (w : Writing) (c : Nat) : Writing :=
  if c < n then { w with distance := w.distance + 1 }
  else if c = n then
    { digits := w.digits ++ Punycode.digits w.bias 36 w.distance
      distance := 0
      bias := adapt w.distance (w.count + 1) (w.count = basic)
      count := w.count + 1 }
  else w

/-- Writes characters in rising order, from the character `n` on. -/
def Writing.rise (name : List Nat) (basic : Nat) : Nat → List Nat → Writing → Writing
  | _, [], w => w
  | n, m :: ms, w =>
    let w := { w with distance := w.distance + (m - n) * (w.count + 1) }
    let w := name.foldl (Writing.pass basic m) w
    Writing.rise name basic (m + 1) ms { w with distance := w.distance + 1 }

/-- Puts a number into a rising list, once. -/
def insertOnce (n : Nat) : List Nat → List Nat
  | [] => [n]
  | m :: ms => if n < m then n :: m :: ms else if n = m then m :: ms else m :: insertOnce n ms

/-- A name in basic characters. -/
def encode (name : List Nat) : List Char :=
  let basic := (name.filter (· < 0x80)).map Char.ofNat
  let others := (name.filter (0x80 ≤ ·)).foldr insertOnce []
  let w := Writing.rise name basic.length 0x80 others { digits := [], count := basic.length }
  (if basic.isEmpty then [] else basic ++ ['-']) ++ w.digits

/-! ## Reading -/

/-- Puts characters in their places. The last one was `n`, and `place` is the one behind it. -/
def insertFrom : Nat → List Char → Nat → Nat → Nat → List Nat → Option (List Nat)
  | 0, _, _, _, _, name => some name
  | fuel + 1, cs, bias, n, place, name =>
    if cs.isEmpty then some name
    else
      match number? bias 36 1 cs with
      | none => none
      | some (distance, rest) =>
        let count := name.length + 1
        let n' := n + (place + distance) / count
        let place' := (place + distance) % count
        if 0x10FFFF < n' then none
        else
          insertFrom fuel rest (adapt distance count (name.all (· < 0x80))) n' (place' + 1)
            (name.take place' ++ n' :: name.drop place')

/-- The name that is written in basic characters, if one is. -/
def decode? (cs : List Char) : Option (List Nat) :=
  let digits := (cs.reverse.takeWhile (· ≠ '-')).reverse
  let basic := (cs.take (cs.length - digits.length)).dropLast
  insertFrom (digits.length + 1) digits 72 0x80 0 (basic.map Char.toNat)

end SearchClient.Text.Punycode
