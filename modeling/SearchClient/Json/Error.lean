import SearchClient.Decimal.Digits

set_option autoImplicit false

/-! # Errors in a JSON text

An error has a cause and a place. The place is told by line, column and number of the character,
the latter counted from zero; only an integer that is too long is told without its place. -/

namespace SearchClient.Json

/-- What is wrong with a text. -/
inductive Cause where
  | expectedValue
  | expectedName
  | expectedColon
  | expectedComma
  | unterminated
  | controlCharacter
  | badEscape
  | badNumberedEscape
  | extraData
  | orderMark
  /-- An integer with too many digits. -/
  | tooLong (digits : Nat)
deriving DecidableEq

/-- The wording of a cause. -/
def Cause.text : Cause → String
  | .expectedValue => "Expecting value"
  | .expectedName => "Expecting property name enclosed in double quotes"
  | .expectedColon => "Expecting ':' delimiter"
  | .expectedComma => "Expecting ',' delimiter"
  | .unterminated => "Unterminated string starting at"
  | .controlCharacter => "Invalid control character at"
  | .badEscape => "Invalid \\escape"
  | .badNumberedEscape => "Invalid \\uXXXX escape"
  | .extraData => "Extra data"
  | .orderMark => "Unexpected UTF-8 BOM (decode using utf-8-sig)"
  | .tooLong digits => Decimal.tooLong digits

/-- A cause and the characters of the text before its place. -/
structure Error where
  cause : Cause
  before : List Char
deriving DecidableEq

namespace Error

/-- The line of the place, counted from one. -/
def line (e : Error) : Nat :=
  e.before.count '\n' + 1

/-- The column of the place, counted from one. -/
def column (e : Error) : Nat :=
  (e.before.reverse.takeWhile (· ≠ '\n')).length + 1

/-- The wording of an error. -/
def message (e : Error) : String :=
  match e.cause with
  | .tooLong digits => Decimal.tooLong digits
  | cause =>
    String.ofList (cause.text.toList ++ ": line ".toList ++ Decimal.ofNat e.line ++
      " column ".toList ++ Decimal.ofNat e.column ++ " (char ".toList ++
      Decimal.ofNat e.before.length ++ [')'])

end Error

end SearchClient.Json
