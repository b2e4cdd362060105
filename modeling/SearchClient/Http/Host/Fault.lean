import SearchClient.Decimal.Digits
import SearchClient.Text.Quoted
import SearchClient.Text.Surrogate

set_option autoImplicit false

/-! # Faults of host names

Why a text is no host name. Most faults lie in one label, a part between two dots. A label is shown
with the character at fault and its position, where there is one; characters are given by their
numbers, positions count from one. -/

namespace SearchClient.Http.Host

/-- A character at a position of a label. -/
structure Spot where
  char : Nat
  position : Nat
  label : List Nat
deriving DecidableEq

/-- Why a text is no host name. -/
inductive Fault where
  | longDomain
  | emptyLabel
  | longLabel
  /-- The label has characters that stand for others, or could be put together. -/
  | notComposed
  /-- The third and the fourth character are hyphens. -/
  | hyphenPair
  /-- The first or the last character is a hyphen. -/
  | hyphenEnd
  /-- The first character is a mark. -/
  | leadingMark
  /-- Nothing is behind the mark of a name in basic characters. -/
  | emptyCode
  /-- A name in basic characters ends with a hyphen. -/
  | hyphenCode
  /-- A name in basic characters cannot be read. -/
  | badCode
  /-- A character is in no name. -/
  | char (s : Spot)
  /-- A joiner is not between letters that join. -/
  | joiner (s : Spot)
  /-- A character is not among those that it needs. -/
  | context (s : Spot)
  /-- The direction of a character is unknown. -/
  | direction (position : Nat) (label : List Nat)
  /-- The first character has no direction of its own. -/
  | firstDirection (label : List Nat)
  /-- A character does not go with a label that is written to the left. -/
  | inLeftward (position : Nat)
  /-- A character does not go with a label that is written to the right. -/
  | inRightward (position : Nat)
  /-- A label has digits of two kinds. -/
  | mixedDigits
  /-- The last character does not go with the direction of the label. -/
  | lastDirection
deriving DecidableEq

namespace Fault

/-- What a fault is about. -/
inductive Kind where
  | form
  | char
  | context
  | direction
deriving DecidableEq

/-- The kind of a fault. -/
def kind : Fault → Kind
  | .char _ => .char
  | .context _ => .context
  | .direction .. | .firstDirection _ | .inLeftward _ | .inRightward _ | .mixedDigits
  | .lastDirection => .direction
  | _ => .form

/-- The text of a label, between quotes. -/
def labelText (label : List Nat) : String :=
  String.ofList (Text.quoted (label.map Text.charOf))

/-- The number of a character, in four digits at least. -/
def charText (n : Nat) : String :=
  let width := if n < 0x10000 then 4 else if n < 0x100000 then 5 else 6
  "U+" ++ String.ofList ((Text.hexPadded width n).map Char.toUpper)

/-- A number as text. -/
def numberText (n : Nat) : String :=
  String.ofList (Decimal.ofNat n)

/-- A character with its position. -/
def spotText (s : Spot) (joint : String) : String :=
  charText s.char ++ joint ++ " position " ++ numberText s.position

/-- The wording of a fault. -/
def message : Fault → String
  | .longDomain => "Domain too long"
  | .emptyLabel => "Empty Label"
  | .longLabel => "Label too long"
  | .notComposed => "Label must be in Normalization Form C"
  | .hyphenPair => "Label has disallowed hyphens in 3rd and 4th position"
  | .hyphenEnd => "Label must not start or end with a hyphen"
  | .leadingMark => "Label begins with an illegal combining character"
  | .emptyCode => "Malformed A-label, no Punycode eligible content found"
  | .hyphenCode => "A-label must not end with a hyphen"
  | .badCode => "Invalid A-label"
  | .joiner s =>
    "Unknown codepoint adjacent to joiner " ++ spotText s " at" ++ " in " ++ labelText s.label
  | .char s => "Codepoint " ++ spotText s " at" ++ " of " ++ labelText s.label ++ " not allowed"
  | .context s => "Codepoint " ++ spotText s " not allowed at" ++ " in " ++ labelText s.label
  | .direction position label =>
    "Unknown directionality in label " ++ labelText label ++ " at position " ++ numberText position
  | .firstDirection label =>
    "First codepoint in label " ++ labelText label ++ " must be directionality L, R or AL"
  | .inLeftward position =>
    "Invalid direction for codepoint at position " ++ numberText position ++
      " in a right-to-left label"
  | .inRightward position =>
    "Invalid direction for codepoint at position " ++ numberText position ++
      " in a left-to-right label"
  | .mixedDigits => "Can not mix numeral types in a right-to-left label"
  | .lastDirection => "Label ends with illegal codepoint directionality"

end Fault

end SearchClient.Http.Host
