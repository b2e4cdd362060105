import SearchClient.Text.Hex
import SearchClient.Text.Printable

set_option autoImplicit false

/-! # Quoted texts

A text is shown between single quotes, or between double quotes if it holds a single quote and no
double quote. A backslash, the quote in use, and line feed, carriage return and tab are written
with a backslash, every other unprintable character by its number. -/

namespace SearchClient.Text

/-- A backslash, a letter for the width, and the number of a character in hexadecimal. -/
def numbered (c : Char) : List Char :=
  let n := c.toNat
  if n < 0x100 then '\\' :: 'x' :: hexPadded 2 n
  else if n < 0x10000 then '\\' :: 'u' :: hexPadded 4 n
  else '\\' :: 'U' :: hexPadded 8 n

/-- How a character is written between quotes of the given kind. -/
def quotedChar (quote : Char) (c : Char) : List Char :=
  if c = quote || c = '\\' then ['\\', c]
  else if c = '\n' then ['\\', 'n']
  else if c = '\r' then ['\\', 'r']
  else if c = '\t' then ['\\', 't']
  else if isPrintable c then [c]
  else numbered c

/-- The quote that a text is shown with. -/
def quoteFor (cs : List Char) : Char :=
  if cs.contains '\'' && !cs.contains '"' then '"' else '\''

/-- The text between quotes. -/
def quoted (cs : List Char) : List Char :=
  let quote := quoteFor cs
  quote :: cs.flatMap (quotedChar quote) ++ [quote]

/-- Octets between quotes; those outside printable ASCII are written by their numbers. -/
def quotedOctets (bs : List UInt8) : List Char :=
  let cs := bs.map fun b => Char.ofNat b.toNat
  let quote := quoteFor cs
  let shown (c : Char) := if c.toNat < 0x80 then quotedChar quote c else numbered c
  quote :: cs.flatMap shown ++ [quote]

end SearchClient.Text
