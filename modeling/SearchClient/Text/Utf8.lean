import SearchClient.Decimal.Digits
import SearchClient.Text.Hex
import SearchClient.Text.Surrogate

set_option autoImplicit false

/-! # The encoding of characters in octets

`Utf8.encode` writes each character in one to four octets. `Utf8.decode` reads them back and
refuses every other sequence of octets, naming the octets at fault and the reason: an octet that
starts no character, one that does not continue the character begun, or the end in the middle of a
character. -/

namespace SearchClient.Text

/-- Octets that an encoding does not allow. -/
structure DecodeError where
  encoding : String
  /-- The position of the first octet at fault. -/
  start : Nat
  octets : List UInt8
  reason : String
deriving DecidableEq

/-- The wording of a decoding error. -/
def DecodeError.message (e : DecodeError) : String :=
  let fault : List Char :=
    match e.octets with
    | [b] => "byte 0x".toList ++ hexPadded 2 b.toNat ++ " in position ".toList ++
        Decimal.ofNat e.start
    | _ => "bytes in position ".toList ++ Decimal.ofNat e.start ++
        '-' :: Decimal.ofNat (e.start + e.octets.length - 1)
  String.ofList (("'" ++ e.encoding ++ "' codec can't decode ").toList ++ fault ++
    (": " ++ e.reason).toList)

namespace Utf8

/-- The octet `high` with `n` in its low bits. -/
def octet (high n : Nat) : UInt8 :=
  UInt8.ofNat (high + n)

/-- The octets of one character. -/
def encodeChar (c : Char) : List UInt8 :=
  let n := c.toNat
  if n < 0x80 then [octet 0 n]
  else if n < 0x800 then [octet 0xC0 (n / 64), octet 0x80 (n % 64)]
  else if n < 0x10000 then
    [octet 0xE0 (n / 4096), octet 0x80 (n / 64 % 64), octet 0x80 (n % 64)]
  else
    [octet 0xF0 (n / 262144), octet 0x80 (n / 4096 % 64), octet 0x80 (n / 64 % 64),
      octet 0x80 (n % 64)]

/-- The octets of a text. -/
def encode (cs : List Char) : List UInt8 :=
  cs.flatMap encodeChar

/-- What a first octet says: how many octets follow it, the least and greatest second octet, and
    its own bits of the character's number. -/
structure Lead where
  following : Nat
  least : Nat
  greatest : Nat
  bits : Nat

/-- Reads a first octet. With `surrogates`, the three octets of a surrogate count as a character. -/
def lead? (surrogates : Bool) (b : Nat) : Option Lead :=
  if b < 0x80 then some ⟨0, 0x80, 0xBF, b⟩
  else if b < 0xC2 then none
  else if b < 0xE0 then some ⟨1, 0x80, 0xBF, b - 0xC0⟩
  else if b < 0xF0 then
    some ⟨2, if b = 0xE0 then 0xA0 else 0x80, if b = 0xED && !surrogates then 0x9F else 0xBF,
      b - 0xE0⟩
  else if b < 0xF5 then
    some ⟨3, if b = 0xF0 then 0x90 else 0x80, if b = 0xF4 then 0x8F else 0xBF, b - 0xF0⟩
  else none

/-- The outcome of reading one character. -/
inductive Step where
  | char (c : Char) (octets : Nat)
  | bad (octets : Nat) (reason : String)

/-- Reads the octets that continue a character, of which `seen` octets make up `bits` so far. -/
def continued (seen bits : Nat) : Nat → Nat → Nat → List UInt8 → Step
  | 0, _, _, _ => .char (charOf bits) seen
  | _ + 1, _, _, [] => .bad seen "unexpected end of data"
  | left + 1, least, greatest, b :: bs =>
    if least ≤ b.toNat && b.toNat ≤ greatest then
      continued (seen + 1) (bits * 64 + (b.toNat - 0x80)) left 0x80 0xBF bs
    else .bad seen "invalid continuation byte"

/-- Reads the character whose first octet is `b`, or the first octets of it that are bad. -/
def attempt (surrogates : Bool) (b : UInt8) (bs : List UInt8) : Step :=
  match lead? surrogates b.toNat with
  | none => .bad 1 "invalid start byte"
  | some l => continued 1 l.bits l.following l.least l.greatest bs

/-- Reads the character that starts with the octet `b`. What is no character is bad as it would be
    if surrogates did not count. -/
def step (surrogates : Bool) (b : UInt8) (bs : List UInt8) : Step :=
  match attempt surrogates b bs with
  | .char c octets => .char c octets
  | .bad .. => attempt false b bs

/-- Reads octets from the position `start` on; `skip` octets at the front belong to the character
    read last. -/
def decodeFrom (surrogates : Bool) (start : Nat) : Nat → List UInt8 → Except DecodeError (List Char)
  | _, [] => .ok []
  | skip + 1, _ :: bs => decodeFrom surrogates (start + 1) skip bs
  | 0, b :: bs =>
    match step surrogates b bs with
    | .char c octets => (decodeFrom surrogates (start + 1) (octets - 1) bs).map (c :: ·)
    | .bad octets reason => .error ⟨"utf-8", start, (b :: bs).take octets, reason⟩

/-- Reads a text. -/
def decode (bs : List UInt8) : Except DecodeError (List Char) :=
  decodeFrom false 0 0 bs

/-- What stands in for the halves of pairs in octets that are read with `surrogates`: no other
    character starts like one of them, with the octet `0xED` and one from `0xA0` on. -/
def halves : List UInt8 → List Char
  | [] => []
  | a :: bs =>
    match a == 0xED, bs with
    | true, b :: c :: _ =>
      (standIn? (0xD000 + (b.toNat - 0x80) * 64 + (c.toNat - 0x80))).toList ++ halves bs
    | _, _ => halves bs

/-- Reads octets with the replacement character for those that are no character; `skip` octets at
    the front have been read. -/
def replaceFrom : Nat → List UInt8 → List Char
  | _, [] => []
  | skip + 1, _ :: bs => replaceFrom skip bs
  | 0, b :: bs =>
    match step false b bs with
    | .char c octets => c :: replaceFrom (octets - 1) bs
    | .bad octets _ => '\ufffd' :: replaceFrom (octets - 1) bs

/-- Reads a text, with the replacement character for octets that are no character. -/
def decodeLeniently (bs : List UInt8) : List Char :=
  replaceFrom 0 bs

end Utf8

end SearchClient.Text
