set_option autoImplicit false

/-! # Base 64

Three octets are written as four characters of six bits each, and the last group is filled up
with equals signs. Reading skips every other character. -/

namespace SearchClient.Text.Base64

/-- The character of six bits. -/
def digit (n : Nat) : Char :=
  if n < 26 then Char.ofNat (65 + n)
  else if n < 52 then Char.ofNat (71 + n)
  else if n < 62 then Char.ofNat (n - 4)
  else if n = 62 then '+'
  else '/'

/-- The characters of a sequence of octets. -/
def encode : List UInt8 → List Char
  | [] => []
  | [a] =>
    let n := a.toNat
    [digit (n / 4), digit (n % 4 * 16), '=', '=']
  | [a, b] =>
    let n := a.toNat * 256 + b.toNat
    [digit (n / 1024), digit (n / 16 % 64), digit (n % 16 * 4), '=']
  | a :: b :: c :: bs =>
    let n := (a.toNat * 256 + b.toNat) * 256 + c.toNat
    digit (n / 262144) :: digit (n / 4096 % 64) :: digit (n / 64 % 64) :: digit (n % 64) ::
      encode bs

/-- The six bits of a character. -/
def bits? (c : Char) : Option Nat :=
  if c.isUpper then some (c.toNat - 65)
  else if c.isLower then some (c.toNat - 71)
  else if c.isDigit then some (c.toNat + 4)
  else if c = '+' then some 62
  else if c = '/' then some 63
  else none

/-- The octets of groups of six bits; the last group may lack one or two of four. -/
def octets? : List Nat → Option (List UInt8)
  | [] => some []
  | a :: b :: c :: d :: rest =>
    let n := ((a * 64 + b) * 64 + c) * 64 + d
    (octets? rest).map fun bs =>
      UInt8.ofNat (n / 65536) :: UInt8.ofNat (n / 256 % 256) :: UInt8.ofNat (n % 256) :: bs
  | [a, b, c] =>
    let n := (a * 64 + b) * 64 + c
    some [UInt8.ofNat (n / 1024), UInt8.ofNat (n / 4 % 256)]
  | [a, b] => some [UInt8.ofNat ((a * 64 + b) / 16)]
  | [_] => none

/-- Gathers the six bits of characters up to a filled group, the latest first; characters of other
    kinds do not count. An equals sign counts towards a group with two characters or more, if no
    further character follows it. -/
def gather (bits : List Nat) (filling : Nat) : List Char → Option (List Nat)
  | [] => if bits.length % 4 = 0 then some bits else none
  | '=' :: cs =>
    let place := bits.length % 4
    if place < 2 then gather bits filling cs
    else if 4 ≤ place + filling + 1 then some bits
    else gather bits (filling + 1) cs
  | c :: cs =>
    match bits? c with
    | some b => gather (b :: bits) 0 cs
    | none => gather bits filling cs

/-- The octets that characters denote. The last group has to be filled up. -/
def decode? (cs : List Char) : Option (List UInt8) :=
  gather [] 0 cs >>= fun bits => octets? bits.reverse

end SearchClient.Text.Base64
