import SearchClient.Text.Utf8

set_option autoImplicit false

/-! # Encodings told from the first octets

A structured text starts with an ASCII character, so its encoding shows in a byte order mark or in
the zero octets at its start. Text in units of two octets has its surrogate pairs joined. -/

namespace SearchClient.Text

/-- The order of the octets of a unit. -/
inductive ByteOrder where
  | little
  | big
deriving DecidableEq

namespace ByteOrder

/-- The number of a unit of octets. -/
def unit (order : ByteOrder) (bs : List UInt8) : Nat :=
  match order with
  | .little => bs.foldr (fun b n => b.toNat + 256 * n) 0
  | .big => bs.foldl (fun n b => 256 * n + b.toNat) 0

/-- The name of the encoding in units of the given number of bits. -/
def name (order : ByteOrder) (bits : Nat) : String :=
  let suffix := match order with | .little => "-le" | .big => "-be"
  "utf-" ++ String.ofList (Decimal.ofNat bits) ++ suffix

end ByteOrder

/-- An encoding of characters, with the number of octets that its mark takes. -/
inductive Encoding where
  | utf8 (mark : Nat)
  | utf16 (order : ByteOrder) (mark : Nat)
  | utf32 (order : ByteOrder) (mark : Nat)
deriving DecidableEq

namespace Encoding

/-- The byte order marks; the longer of two that start alike comes first. -/
def marks : List (List UInt8 × Encoding) :=
  [([0x00, 0x00, 0xFE, 0xFF], .utf32 .big 4), ([0xFF, 0xFE, 0x00, 0x00], .utf32 .little 4),
   ([0xFE, 0xFF], .utf16 .big 2), ([0xFF, 0xFE], .utf16 .little 2), ([0xEF, 0xBB, 0xBF], .utf8 3)]

/-- The encoding that the zeros among the first octets show, where there is no mark. -/
def detectByZeros : List UInt8 → Encoding
  | a :: b :: c :: d :: _ =>
    if a = 0 then (if b = 0 then .utf32 .big 0 else .utf16 .big 0)
    else if b = 0 then (if c = 0 && d = 0 then .utf32 .little 0 else .utf16 .little 0)
    else .utf8 0
  | [a, b] => if a = 0 then .utf16 .big 0 else if b = 0 then .utf16 .little 0 else .utf8 0
  | _ => .utf8 0

/-- The encoding that the first octets show. -/
def detect (bs : List UInt8) : Encoding :=
  match marks.find? fun mark => mark.1.isPrefixOf bs with
  | some mark => mark.2
  | none => detectByZeros bs

/-- The units of two octets, and an octet left over with its position. -/
def units16 (order : ByteOrder) (start : Nat) : List UInt8 → List Nat × Option DecodeError
  | [] => ([], none)
  | [b] => ([], some ⟨order.name 16, start, [b], "truncated data"⟩)
  | a :: b :: bs =>
    let (units, left) := units16 order (start + 2) bs
    (order.unit [a, b] :: units, left)

/-- Reads units of two octets. -/
def decode16 (order : ByteOrder) (start : Nat) (bs : List UInt8) : Except DecodeError (List Char) :=
  match units16 order start bs with
  | (units, none) => .ok (joinPairs units)
  | (_, some e) => .error e

/-- Reads units of four octets, with or without those of surrogates. -/
def decode32 (surrogates : Bool) (order : ByteOrder) (start : Nat) :
    List UInt8 → Except DecodeError (List Char)
  | [] => .ok []
  | a :: b :: c :: d :: bs =>
    let unit := order.unit [a, b, c, d]
    if 0x110000 ≤ unit then bad [a, b, c, d] "code point not in range(0x110000)"
    else if !surrogates && (isHighSurrogate unit || isLowSurrogate unit) then
      bad [a, b, c, d] "code point in surrogate code point range(0xd800, 0xe000)"
    else (decode32 surrogates order (start + 4) bs).map (charOf unit :: ·)
  | bs => bad bs "truncated data"
where
  /-- The refusal of octets. -/
  bad (octets : List UInt8) (reason : String) : Except DecodeError (List Char) :=
    .error ⟨order.name 32, start, octets, reason⟩

/-- Reads octets whose mark has been told. Positions count from the first octet, behind the mark
    of an encoding in single octets. -/
def decode (e : Encoding) (bs : List UInt8) : Except DecodeError (List Char) :=
  match e with
  | .utf8 mark => Utf8.decodeFrom true 0 0 (bs.drop mark)
  | .utf16 order mark => decode16 order mark (bs.drop mark)
  | .utf32 order mark => decode32 true order mark (bs.drop mark)

/-- What stands in for the halves of pairs among units of four octets. -/
def halves32 (order : ByteOrder) : List UInt8 → List Char
  | a :: b :: c :: d :: bs => (standIn? (order.unit [a, b, c, d])).toList ++ halves32 order bs
  | _ => []

/-- What stands in for the halves of pairs without a partner in the text of octets. -/
def halves (e : Encoding) (bs : List UInt8) : List Char :=
  match e with
  | .utf8 mark => Utf8.halves (bs.drop mark)
  | .utf16 order mark => loneHalves (units16 order mark (bs.drop mark)).1
  | .utf32 order mark => halves32 order (bs.drop mark)

end Encoding

/-- Reads octets in the encoding that they show. -/
def decodeDetected (bs : List UInt8) : Except DecodeError (List Char) :=
  (Encoding.detect bs).decode bs

end SearchClient.Text
