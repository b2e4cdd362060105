import SearchClient.Text.Hex
import SearchClient.Text.Utf8

set_option autoImplicit false

/-! # Percent encoding

An octet is written as a percent sign and two upper case hexadecimal digits. A path segment keeps
the unreserved characters alone; a form field keeps the same ones and writes a space as a plus
sign. -/

namespace SearchClient.Text.Percent

/-- Letters, digits and the four marks that need no encoding anywhere. -/
def isUnreserved (c : Char) : Bool :=
  c.isAlphanum || c = '-' || c = '.' || c = '_' || c = '~'

/-- An octet as a percent sign and two digits. -/
def octet (b : UInt8) : List Char :=
  ['%', hexDigitUpper (b.toNat / 16), hexDigitUpper (b.toNat % 16)]

/-- The octets of a character, each in its percent form. -/
def escapeChar (c : Char) : List Char :=
  (Utf8.encodeChar c).flatMap octet

/-- Keeps the characters of a class and encodes all others. -/
def encodeBy (keep : Char → Bool) (cs : List Char) : List Char :=
  cs.flatMap fun c => if keep c then [c] else escapeChar c

/-- Encodes one segment of a path. -/
def segment (s : String) : String :=
  String.ofList (encodeBy isUnreserved s.toList)

/-- Encodes one name or value of a form. -/
def field (s : String) : List Char :=
  s.toList.flatMap fun c =>
    if c = ' ' then ['+'] else if isUnreserved c then [c] else escapeChar c

/-- Reads percent forms back; a percent sign without two digits after it stands for itself. -/
def octets : List Char → List UInt8
  | [] => []
  | '%' :: a :: b :: cs =>
    match hexValue? a, hexValue? b with
    | some x, some y => UInt8.ofNat (16 * x + y) :: octets cs
    | _, _ => Utf8.encodeChar '%' ++ octets (a :: b :: cs)
  | c :: cs => Utf8.encodeChar c ++ octets cs

/-- The text of percent forms. -/
def text (cs : List Char) : List Char :=
  Utf8.decodeLeniently (octets cs)

end SearchClient.Text.Percent
