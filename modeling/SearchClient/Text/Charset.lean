import SearchClient.Text.Codepage
import SearchClient.Text.Encoding

set_option autoImplicit false

/-! # Encodings by name

An encoding has a standard name and others, all of which may be written in any letter case and with
any marks between their words. -/

namespace SearchClient.Text

/-- An encoding that is known by name. -/
inductive Charset where
  | ascii
  /-- Each octet is the character of that number. -/
  | latin
  | page (chars : String)
  /-- Characters in one to four octets; behind a mark, or a part of it, that does not count. -/
  | utf8 (marked : Bool)
  /-- Characters in units of two octets; a mark tells their order unless that is known. -/
  | utf16 (order : Option ByteOrder)
  /-- Characters in units of four octets. -/
  | utf32 (order : Option ByteOrder)
deriving DecidableEq

/-- Why octets are no text in an encoding. -/
inductive CharsetFault where
  | octets (e : DecodeError)
  /-- The mark is missing that tells the order of octets. -/
  | unmarked
deriving DecidableEq

namespace Charset

/-! ## Names -/

/-- The encodings with their names, of which the first one is the standard one. -/
def named : List (Charset × List String) :=
  [(.ascii,
    ["ascii", "646", "ansi_x3.4_1968", "ansi_x3.4_1986", "ansi_x3_4_1968", "cp367", "csascii",
     "ibm367", "iso646_us", "iso_646.irv_1991", "iso_ir_6", "us", "us_ascii"]),
   (.latin,
    ["latin_1", "8859", "cp819", "csisolatin1", "ibm819", "iso8859", "iso8859_1", "iso_8859_1",
     "iso_8859_1_1987", "iso_ir_100", "l1", "latin", "latin1"]),
   (.utf8 false, ["utf_8", "cp65001", "u8", "utf", "utf8", "utf8_ucs2", "utf8_ucs4"]),
   (.utf8 true, ["utf_8_sig"]),
   (.utf16 none, ["utf_16", "u16", "utf16"]),
   (.utf16 (some .little), ["utf_16_le", "unicodelittleunmarked", "utf_16le"]),
   (.utf16 (some .big), ["utf_16_be", "unicodebigunmarked", "utf_16be"]),
   (.utf32 none, ["utf_32", "u32", "utf32"]),
   (.utf32 (some .little), ["utf_32_le", "utf_32le"]),
   (.utf32 (some .big), ["utf_32_be", "utf_32be"]),
   (.page Codepage.western, ["cp1252", "1252", "windows_1252"]),
   (.page Codepage.westernEuro, ["iso8859_15", "iso_8859_15", "l9", "latin9"]),
   (.page Codepage.central, ["cp1250", "1250", "windows_1250"]),
   (.page Codepage.cyrillic, ["cp1251", "1251", "windows_1251"]),
   (.page Codepage.cyrillicPaired, ["koi8_r", "cskoi8r"]),
   (.page Codepage.boxes, ["cp437", "437", "cspc8codepage437", "ibm437"]),
   (.page Codepage.boxesWestern, ["cp850", "850", "cspc850multilingual", "ibm850"])]

/-- A name in small letters, with one low line for the marks between two words. -/
def plainName (gap : Bool) (name : List Char) : List Char → List Char
  | [] => name.reverse
  | c :: cs =>
    if c.isAlphanum || c = '.' then
      plainName false (c.toLower :: if gap && !name.isEmpty then '_' :: name else name) cs
    else plainName true name cs

/-- The encoding of a name. A dot may stand for a mark, but not in the standard name. -/
def ofName? (name : String) : Option Charset :=
  let plain := plainName false [] name.toList
  let undotted := plain.map fun c => if c = '.' then '_' else c
  let plain := String.ofList plain
  let undotted := String.ofList undotted
  (named.find? fun (_, names) => names.contains plain || (names.drop 1).contains undotted).map (·.1)

/-! ## Reading -/

/-- Reads octets one by one; by the name of the encoding and its reason to refuse one. -/
def decodeSingly (encoding reason : String) (char? : UInt8 → Option Char) (start : Nat) :
    List UInt8 → Except DecodeError (List Char)
  | [] => .ok []
  | b :: bs =>
    match char? b with
    | some c => (decodeSingly encoding reason char? (start + 1) bs).map (c :: ·)
    | none => .error ⟨encoding, start, [b], reason⟩

/-- Reads units of two octets in which every surrogate has its other half. -/
def decodePairs (order : ByteOrder) (start : Nat) : List UInt8 → Except DecodeError (List Char)
  | [] => .ok []
  | [b] => .error ⟨order.name 16, start, [b], "truncated data"⟩
  | a :: b :: bs =>
    let unit := order.unit [a, b]
    if isLowSurrogate unit then .error ⟨order.name 16, start, [a, b], "illegal encoding"⟩
    else if !isHighSurrogate unit then
      (decodePairs order (start + 2) bs).map (charOf unit :: ·)
    else
      match bs with
      | c :: d :: bs =>
        let low := order.unit [c, d]
        if isLowSurrogate low then
          (decodePairs order (start + 4) bs).map (pairChar unit low :: ·)
        else .error ⟨order.name 16, start, [a, b], "illegal UTF-16 surrogate"⟩
      | bs => .error ⟨order.name 16, start, a :: b :: bs, "unexpected end of data"⟩

/-- The order of octets that a mark of the given number of octets tells. -/
def orderOf? (width : Nat) (bs : List UInt8) : Option ByteOrder :=
  if bs.length < width then none
  else if ByteOrder.little.unit (bs.take width) = 0xFEFF then some .little
  else if ByteOrder.big.unit (bs.take width) = 0xFEFF then some .big
  else none

/-- Reads octets whose order is known, or told by a mark in front. Without a mark they must not make
    up a unit, nor anything else that could be read. -/
def decodeOrdered (width : Nat)
    (decode : ByteOrder → Nat → List UInt8 → Except DecodeError (List Char))
    (order : Option ByteOrder) (bs : List UInt8) : Except CharsetFault (List Char) :=
  match order with
  | some order => (decode order 0 bs).mapError .octets
  | none =>
    match orderOf? width bs with
    | some order => (decode order width (bs.drop width)).mapError .octets
    | none => do
      let _ ← (decode .little 0 bs).mapError .octets
      if bs.isEmpty then return [] else throw .unmarked

/-- Reads octets in an encoding. -/
def decode (c : Charset) (bs : List UInt8) : Except CharsetFault (List Char) :=
  match c with
  | .ascii =>
    let char? (b : UInt8) : Option Char := if b < 0x80 then some (Char.ofNat b.toNat) else none
    (decodeSingly "ascii" "ordinal not in range(128)" char? 0 bs).mapError .octets
  | .latin => .ok (bs.map fun b => Char.ofNat b.toNat)
  | .page chars =>
    let reason := "character maps to <undefined>"
    (decodeSingly "charmap" reason (Codepage.charOf? chars) 0 bs).mapError .octets
  | .utf8 marked =>
    let mark := [0xEF, 0xBB, 0xBF]
    if marked && (bs.isPrefixOf mark || mark.isPrefixOf bs) then
      (Utf8.decode (bs.drop 3)).mapError .octets
    else (Utf8.decode bs).mapError .octets
  | .utf16 order => decodeOrdered 2 decodePairs order bs
  | .utf32 order => decodeOrdered 4 (Encoding.decode32 false) order bs

end Charset

end SearchClient.Text
