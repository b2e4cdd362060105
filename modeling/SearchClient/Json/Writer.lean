import SearchClient.Decimal.Layout
import SearchClient.Text.Hex
import SearchClient.Text.Surrogate
import SearchClient.Value.Display
import SearchClient.Value.Misuse

set_option autoImplicit false

/-! # Writing JSON texts

A `Style` holds the decisions of one kind of output: what is escaped, how numbers are laid out, and
what stands between the parts. Plain data and members of the taxonomy can be written; a date, octets
or a record inside them cannot, and then there is no text at all. -/

namespace SearchClient.Json

/-- How JSON texts are written. -/
structure Style where
  /-- Whether every character outside printable ASCII is escaped. -/
  ascii : Bool
  /-- The layout of floating point numbers. -/
  numbers : Layout
  /-- Between items and between members, if they stand on one line. -/
  comma : String
  /-- Between the name and the value of a member. -/
  colon : String
  /-- The blanks by which each level is indented; without it all stands on one line. -/
  indent : Option Nat

namespace Style

/-- Bodies of requests: ASCII, with blanks behind commas and colons. -/
def body : Style :=
  ⟨true, Layout.body, ", ", ": ", none⟩

/-- Stored records: every character as itself, no blanks. -/
def compact : Style :=
  ⟨false, Layout.compact, ",", ":", none⟩

/-- Output for people: every character as itself, each part on a line of its own. -/
def page : Style :=
  ⟨false, Layout.body, ",", ": ", some 2⟩

end Style

/-- An escape by number. -/
def numberedEscape (unit : Nat) : List Char :=
  '\\' :: 'u' :: Text.hexPadded 4 unit

/-- How a character is written inside a string. -/
def writeChar (ascii : Bool) (c : Char) : List Char :=
  if c = '"' || c = '\\' then ['\\', c]
  else if c = '\n' then ['\\', 'n']
  else if c = '\r' then ['\\', 'r']
  else if c = '\t' then ['\\', 't']
  else if c = '\x08' then ['\\', 'b']
  else if c = '\x0c' then ['\\', 'f']
  else if c.toNat < 0x20 || (ascii && 0x7F ≤ c.toNat) then (Text.units16 c).flatMap numberedEscape
  else [c]

/-- A string between double quotes. -/
def writeString (style : Style) (s : String) : List Char :=
  '"' :: s.toList.flatMap (writeChar style.ascii) ++ ['"']

/-- The start of a line at the given depth, if parts stand on lines of their own. -/
def newline (style : Style) (depth : Nat) : List Char :=
  match style.indent with
  | some width => '\n' :: List.replicate (width * depth) ' '
  | none => []

/-- Puts parts at the given depth between brackets. -/
def enclose (style : Style) (depth : Nat) (opening closing : Char) (parts : List (List Char)) :
    List Char :=
  match parts with
  | [] => [opening, closing]
  | first :: rest =>
    opening :: newline style (depth + 1) ++ first ++
      rest.flatMap (fun part => style.comma.toList ++ newline style (depth + 1) ++ part) ++
      newline style depth ++ [closing]

mutual

/-- Writes a value at the given depth. -/
def writeValue (style : Style) (depth : Nat) : Value → Option (List Char)
  | .null => some "null".toList
  | .bool true => some "true".toList
  | .bool false => some "false".toList
  | .int n => some (Decimal.ofInt n)
  | .float x => some (style.numbers.render x)
  | .text s => some (writeString style s)
  | .symbol s => some (writeString style s.wire)
  | .list items => (writeItems style (depth + 1) items).map (enclose style depth '[' ']')
  | .map entries => (writeMembers style (depth + 1) entries).map (enclose style depth '{' '}')
  | .pair name v =>
    (writeValue style (depth + 1) v).map fun part =>
      enclose style depth '[' ']' [writeString style name, part]
  | .date _ | .dateTime _ | .octets _ | .record .. => none

/-- Writes the items of a list. -/
def writeItems (style : Style) (depth : Nat) : List Value → Option (List (List Char))
  | [] => some []
  | v :: items => do
    let part ← writeValue style depth v
    let parts ← writeItems style depth items
    return part :: parts

/-- Writes the members of a map. -/
def writeMembers (style : Style) (depth : Nat) :
    List (String × Value) → Option (List (List Char))
  | [] => some []
  | (name, v) :: entries => do
    let part ← writeValue style depth v
    let parts ← writeMembers style depth entries
    return (writeString style name ++ style.colon.toList ++ part) :: parts

end

/-- The text of a value, if all its parts can be written. -/
def write? (style : Style) (v : Value) : Option String :=
  (writeValue style 0 v).map String.ofList

/-- The text of a value as the content of a request. Integers must not be too long, as they may be in
    stored records. -/
def content (v : Value) : Except Misuse String :=
  match write? .body v with
  | some s => if v.isShort then .ok s else .error .tooLong
  | none => .error .wrongType

end SearchClient.Json
