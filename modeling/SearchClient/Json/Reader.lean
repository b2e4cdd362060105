import SearchClient.Decimal.Digits
import SearchClient.Json.Error
import SearchClient.Text.Hex
import SearchClient.Text.Split
import SearchClient.Text.Surrogate
import SearchClient.Value.Basic

set_option autoImplicit false

/-! # Reading JSON texts

Each reader takes the characters that are left and gives a value and what it has not read, or a
`Stop`: the cause and the characters from the place of the error on. A text may hold `NaN`,
`Infinity` and `-Infinity`; of two members of one name the later one counts, at the place of the
earlier one. -/

namespace SearchClient.Json

/-- Why reading stopped, and the characters from there on. -/
structure Stop where
  cause : Cause
  rest : List Char

/-- The outcome of reading a part of a text. -/
abbrev Reading (α : Type) := Except Stop (α × List Char)

/-- Drops the blanks that may stand between tokens. -/
def skipBlanks (cs : List Char) : List Char :=
  cs.dropWhile fun c => c = ' ' || c = '\n' || c = '\t' || c = '\r'

/-! ## Strings -/

/-- The character that a single letter after a backslash stands for. -/
def escaped? : Char → Option Char
  | '"' => some '"'
  | '\\' => some '\\'
  | '/' => some '/'
  | 'b' => some '\x08'
  | 'f' => some '\x0c'
  | 'n' => some '\n'
  | 'r' => some '\r'
  | 't' => some '\t'
  | _ => none

/-- The number that four hexadecimal digits denote. -/
def hexNumber? (a b c d : Char) : Option Nat := do
  let a ← Text.hexValue? a
  let b ← Text.hexValue? b
  let c ← Text.hexValue? c
  let d ← Text.hexValue? d
  return ((a * 16 + b) * 16 + c) * 16 + d

/-- Adds a character to the text read. -/
def Reading.cons (unit : Nat) (r : Reading (List Nat)) : Reading (List Nat) :=
  r.map fun (units, rest) => (unit :: units, rest)

/-- Reads the characters of a string up to its closing quote, as numbers; `quote` is the text from
    the opening quote on. A numbered escape has four digits and a further character behind them. -/
def readUnits (quote : List Char) : List Char → Reading (List Nat)
  | [] => .error ⟨.unterminated, quote⟩
  | '"' :: cs => .ok ([], cs)
  | ['\\'] => .error ⟨.unterminated, quote⟩
  | '\\' :: 'u' :: a :: b :: c :: d :: cs =>
    match hexNumber? a b c d, cs with
    | some n, _ :: _ => (readUnits quote cs).cons n
    | _, _ => .error ⟨.badNumberedEscape, 'u' :: a :: b :: c :: d :: cs⟩
  | '\\' :: 'u' :: cs => .error ⟨.badNumberedEscape, 'u' :: cs⟩
  | '\\' :: e :: cs =>
    match escaped? e with
    | some c => (readUnits quote cs).cons c.toNat
    | none => .error ⟨.badEscape, '\\' :: e :: cs⟩
  | c :: cs =>
    if c.toNat < 0x20 then .error ⟨.controlCharacter, c :: cs⟩
    else (readUnits quote cs).cons c.toNat

/-- Reads a string behind its opening quote. A pair of escapes for two surrogates is one character,
    and a half without its partner is what stands in for it. -/
def readString (quote cs : List Char) : Reading String :=
  (readUnits quote cs).map fun (units, rest) => (String.ofList (Text.joinPairs units), rest)

/-- The units that the characters of a text stand for, each escape read as in a string. -/
def textUnits : List Char → List Nat
  | [] => []
  | '\\' :: 'u' :: a :: b :: c :: d :: cs =>
    match hexNumber? a b c d with
    | some n => n :: textUnits cs
    | none => textUnits cs
  | '\\' :: e :: cs => e.toNat :: textUnits cs
  | c :: cs => c.toNat :: textUnits cs

/-- What stands in for the halves of pairs without a partner among the escapes of a text. -/
def escapedHalves (cs : List Char) : List Char :=
  Text.loneHalves (textUnits cs)

/-! ## Numbers -/

/-- The digits of the part before the point: a zero alone, or a run that starts with another
    digit. -/
def wholePart? : List Char → Option (List Char × List Char)
  | '0' :: cs => some (['0'], cs)
  | cs =>
    match Decimal.spanDigits cs with
    | ([], _) => none
    | (ds, rest) => some (ds, rest)

/-- The digits behind a point, if there are any. -/
def fractionPart? : List Char → Option (List Char × List Char)
  | '.' :: cs =>
    match Decimal.spanDigits cs with
    | ([], _) => none
    | (ds, rest) => some (ds, rest)
  | _ => none

/-- The exponent, if there is one. -/
def exponentPart? : List Char → Option (Int × List Char)
  | [] => none
  | c :: cs =>
    if c = 'e' || c = 'E' then
      let (negative, cs) := Decimal.splitSign cs
      match Decimal.spanDigits cs with
      | ([], _) => none
      | (ds, rest) =>
        let n : Int := Decimal.value (ds.filterMap Decimal.asciiDigit?)
        some (if negative then -n else n, rest)
    else none

/-- Reads a number behind its sign. An integer must not be too long. -/
def readMagnitude (negative : Bool) (cs : List Char) : Except Cause (Value × List Char) :=
  match wholePart? cs with
  | none => .error .expectedValue
  | some (whole, rest) =>
    let fraction := fractionPart? rest
    let rest := (fraction.map (·.2)).getD rest
    let exponent := exponentPart? rest
    let rest := (exponent.map (·.2)).getD rest
    let fractionDigits := (fraction.map (·.1)).getD []
    let digits := Decimal.value ((whole ++ fractionDigits).filterMap Decimal.asciiDigit?)
    match fraction, exponent with
    | none, none =>
      if Decimal.digitLimit < whole.length then .error (.tooLong whole.length)
      else .ok (.int (if negative then -(digits : Int) else digits), rest)
    | _, _ =>
      let e := (exponent.map (·.1)).getD 0 - fractionDigits.length
      .ok (.float (.ofDecimal negative digits e), rest)

/-- Reads a number. -/
def readNumber : List Char → Except Cause (Value × List Char)
  | '-' :: cs => readMagnitude true cs
  | cs => readMagnitude false cs

/-! ## Values -/

/-- The names of single values. -/
def names : List (String × Value) :=
  [("null", .null), ("true", .bool true), ("false", .bool false), ("NaN", .float .nan),
   ("Infinity", .float (.infinite false)), ("-Infinity", .float (.infinite true))]

/-- Reads one of the names. -/
def readName? (cs : List Char) : Option (Value × List Char) :=
  names.findSome? fun (name, v) => (Text.dropText? name.toList cs).map ((v, ·))

/-- Reads a value that holds no other values. -/
def readScalar (cs : List Char) : Reading Value :=
  match readName? cs with
  | some (v, rest) => .ok (v, rest)
  | none => (readNumber cs).mapError fun cause => ⟨cause, cs⟩

/-- Reads the name of a member and the colon behind it. -/
def readMemberName : List Char → Except Stop (String × List Char)
  | '"' :: cs => do
    let (name, rest) ← readString ('"' :: cs) cs
    match skipBlanks rest with
    | ':' :: rest => .ok (name, skipBlanks rest)
    | rest => .error ⟨.expectedColon, rest⟩
  | cs => .error ⟨.expectedName, cs⟩

mutual

/-- Reads a value; `fuel` bounds the depth and the number of its parts. -/
def readValue : Nat → List Char → Except Stop (Value × List Char)
  | 0, cs => .error ⟨.expectedValue, cs⟩
  | fuel + 1, cs =>
    match cs with
    | '"' :: rest => (readString cs rest).map fun (s, rest) => (.text s, rest)
    | '[' :: rest =>
      match skipBlanks rest with
      | ']' :: rest => .ok (.list [], rest)
      | rest => (readItems fuel rest).map fun (vs, rest) => (.list vs, rest)
    | '{' :: rest =>
      match skipBlanks rest with
      | '}' :: rest => .ok (.map [], rest)
      | rest => (readMembers fuel rest).map fun (es, rest) => (.map (Entries.ofPairs es), rest)
    | cs => readScalar cs

/-- Reads the items of a list up to its end. -/
def readItems : Nat → List Char → Except Stop (List Value × List Char)
  | 0, cs => .error ⟨.expectedValue, cs⟩
  | fuel + 1, cs => do
    let (v, rest) ← readValue fuel cs
    match skipBlanks rest with
    | ']' :: rest => .ok ([v], rest)
    | ',' :: rest => (readItems fuel (skipBlanks rest)).map fun (vs, rest) => (v :: vs, rest)
    | rest => .error ⟨.expectedComma, rest⟩

/-- Reads the members of a map up to its end. -/
def readMembers : Nat → List Char → Except Stop (List (String × Value) × List Char)
  | 0, cs => .error ⟨.expectedValue, cs⟩
  | fuel + 1, cs => do
    let (name, rest) ← readMemberName cs
    let (v, rest) ← readValue fuel rest
    let entry := (name, v)
    match skipBlanks rest with
    | '}' :: rest => .ok ([entry], rest)
    | ',' :: rest => (readMembers fuel (skipBlanks rest)).map fun (es, rest) => (entry :: es, rest)
    | rest => .error ⟨.expectedComma, rest⟩

end

/-- Reads a text that holds one value and blanks. Every step reads a character or ends a part, so
    twice the length is fuel enough. -/
def readAll (cs : List Char) : Except Stop Value := do
  let (v, rest) ← readValue (2 * cs.length + 2) (skipBlanks cs)
  match skipBlanks rest with
  | [] => .ok v
  | rest => .error ⟨.extraData, rest⟩

/-- The value of a text that has been decoded from octets. -/
def read (cs : List Char) : Except Error Value :=
  (readAll cs).mapError fun stop => ⟨stop.cause, cs.take (cs.length - stop.rest.length)⟩

/-- The value of a text; it must not start with a byte order mark. -/
def readText (cs : List Char) : Except Error Value :=
  match cs with
  | '\uFEFF' :: _ => .error ⟨.orderMark, []⟩
  | cs => read cs

end SearchClient.Json
