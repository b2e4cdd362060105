import SearchClient.Decimal.Notation
import SearchClient.Value.Display

set_option autoImplicit false

/-! # Message templates

A template is a text with places for values. A place takes the next argument, or the member of a map
that it names. It shows its value as it is displayed, as a literal, as a number or as a character,
in a field of some width. -/

namespace SearchClient.Logging

/-- How a place shows its value. -/
inductive Form where
  | displayed
  | literal
  /-- As a literal in ASCII. -/
  | ascii
  | integer
  | octal
  | hexadecimal
  | scientific
  | fixed
  | general
  | char
deriving DecidableEq

/-- A number in a place: given, or asked for as a further argument. -/
inductive Count where
  | given (n : Nat)
  | asked
deriving DecidableEq

/-- How a place is laid out. -/
structure Style where
  /-- Whether the value stands at the left of the field. -/
  left : Bool := false
  /-- Whether a plus sign stands in front of numbers that are not negative. -/
  plus : Bool := false
  /-- Whether a blank does. -/
  blank : Bool := false
  /-- Whether a number is marked by its base, or has its point in any case. -/
  marked : Bool := false
  /-- Whether zeros fill the field of a number. -/
  zeros : Bool := false
  width : Count := .given 0
  precision : Option Count := none
  /-- Whether letters of a number are capitals. -/
  capitals : Bool := false
  form : Form := .displayed
deriving DecidableEq

/-- A part of a template. -/
inductive Piece where
  | char (c : Char)
  | place (member : Option String) (style : Style)
deriving DecidableEq

namespace Template

/-! ## Reading templates -/

/-- The form that a letter stands for, and whether its letters are capitals. -/
def form? (c : Char) : Option (Form × Bool) :=
  [('s', .displayed, false), ('r', .literal, false), ('a', .ascii, false), ('d', .integer, false),
   ('i', .integer, false), ('u', .integer, false), ('o', .octal, false),
   ('x', .hexadecimal, false), ('X', .hexadecimal, true), ('e', .scientific, false),
   ('E', .scientific, true), ('f', .fixed, false), ('F', .fixed, true), ('g', .general, false),
   ('G', .general, true), ('c', .char, false)].lookup c

/-- Reads the rest of a name in parentheses, which may hold further ones. -/
def memberFrom? (depth : Nat) : List Char → Option (List Char × List Char)
  | [] => none
  | c :: cs =>
    let inner (depth : Nat) := (memberFrom? depth cs).map fun (name, rest) => (c :: name, rest)
    if c = '(' then inner (depth + 1)
    else if c = ')' then
      match depth with
      | 0 => some ([], cs)
      | depth + 1 => inner depth
    else inner depth

/-- Reads the name of a member, if there is one. -/
def readMember? (cs : List Char) : Option (Option String × List Char) :=
  match cs with
  | '(' :: cs => (memberFrom? 0 cs).map fun (name, rest) => (some (String.ofList name), rest)
  | cs => some (none, cs)

/-- Reads marks of style. -/
def readMarks (s : Style) : List Char → Style × List Char
  | '-' :: cs => readMarks { s with left := true } cs
  | '+' :: cs => readMarks { s with plus := true } cs
  | ' ' :: cs => readMarks { s with blank := true } cs
  | '#' :: cs => readMarks { s with marked := true } cs
  | '0' :: cs => readMarks { s with zeros := true } cs
  | cs => (s, cs)

/-- The largest width and precision. -/
def largest : Nat :=
  1000000000

/-- Reads a number, which is zero if it is not there, and must not be too large. -/
def readCount? (cs : List Char) : Option (Count × List Char) :=
  match cs with
  | '*' :: cs => some (.asked, cs)
  | cs =>
    let (ds, rest) := cs.span Char.isDigit
    let n := Decimal.value (ds.filterMap Decimal.asciiDigit?)
    if largest < n then none else some (.given n, rest)

/-- Reads a precision, if a point announces one. -/
def readPrecision? (cs : List Char) : Option (Option Count × List Char) :=
  match cs with
  | '.' :: cs => (readCount? cs).map fun (n, rest) => (some n, rest)
  | cs => some (none, cs)

/-- Drops a letter that tells the size of a number. -/
def dropSize (cs : List Char) : List Char :=
  match cs with
  | c :: rest => if c = 'h' || c = 'l' || c = 'L' then rest else cs
  | [] => []

/-- Reads what is behind a percent sign. -/
def readPlace? (cs : List Char) : Option (Piece × List Char) := do
  let (member, cs) ← readMember? cs
  let (style, cs) := readMarks {} cs
  let (width, cs) ← readCount? cs
  let (precision, cs) ← readPrecision? cs
  match dropSize cs with
  | [] => none
  | c :: cs =>
    let (form, capitals) ← form? c
    return (.place member { style with width, precision, form, capitals }, cs)

/-- The pieces of a text of at most `fuel` characters. -/
def piecesFrom : Nat → List Char → Option (List Piece)
  | _, [] => some []
  | 0, _ => some []
  | fuel + 1, '%' :: '%' :: cs => (piecesFrom fuel cs).map (.char '%' :: ·)
  | fuel + 1, '%' :: cs => do
    let (piece, rest) ← readPlace? cs
    return piece :: (← piecesFrom fuel rest)
  | fuel + 1, c :: cs => (piecesFrom fuel cs).map (.char c :: ·)

/-- The pieces of a template, if each percent sign starts a place or is doubled. -/
def pieces? (s : String) : Option (List Piece) :=
  piecesFrom s.length s.toList

/-! ## Fields -/

/-- The text of a field: a sign, a mark of the base, and the rest, filled up to the width. -/
def field (s : Style) (width : Nat) (zeros : Bool) (sign mark rest : List Char) : List Char :=
  let text := sign ++ mark ++ rest
  let missing := width - text.length
  if s.left then text ++ List.replicate missing ' '
  else if zeros then sign ++ mark ++ List.replicate missing '0' ++ rest
  else List.replicate missing ' ' ++ text

/-- The sign of a number. -/
def signOf (s : Style) (negative : Bool) : List Char :=
  if negative then ['-'] else if s.plus then ['+'] else if s.blank then [' '] else []

/-- Letters as capitals, if the style asks for them. -/
def inCase (s : Style) (cs : List Char) : List Char :=
  if s.capitals then cs.map Char.toUpper else cs

/-! ## Values -/

/-- The integer that a value is. -/
def intOf? : Value → Option Int
  | .int n => some n
  | .bool b => some (if b then 1 else 0)
  | _ => none

/-- The integer that a value is or is cut off to. -/
def wholeOf? : Value → Option Int
  | .float (.finite negative m q _) =>
    let n : Nat := if 0 ≤ q then m * Nat.pow 2 q.toNat else m / Nat.pow 2 (-q).toNat
    some (if negative then -(n : Int) else n)
  | v => intOf? v

/-- The floating point number that a value is or is nearest to, unless it is too large. -/
def floatOf? : Value → Option Binary64
  | .float x => some x
  | v => ((intOf? v).map Binary64.ofInt).filter Binary64.isFinite

/-- The character that a value is, or the number of. -/
def charOf? : Value → Option Char
  | .text s =>
    match s.toList with
    | [c] => some c
    | _ => none
  | v => (intOf? v).bind fun n =>
    if 0 ≤ n && n.toNat.isValidChar then some (Char.ofNat n.toNat) else none

/-- An integer in a base, with the mark of that. -/
def integerField (s : Style) (width : Nat) (precision : Option Nat) (digits : List Char)
    (mark : String) (negative : Bool) : List Char :=
  let digits := List.replicate (precision.getD 0 - digits.length) '0' ++ digits
  let mark := if s.marked then mark.toList else []
  field s width s.zeros (signOf s negative) (inCase s mark) (inCase s digits)

/-- How many digits a number has if nothing is said. -/
def usualPrecision : Nat :=
  6

/-- A floating point number in a field; by the notation of its magnitude. -/
def floatField (s : Style) (width : Nat) (written : Binary64.Ratio → List Char) (x : Binary64) :
    List Char :=
  let (negative, text) :=
    match x with
    | .nan => (false, "nan".toList)
    | .infinite negative => (negative, "inf".toList)
    | .finite negative m q _ => (negative, written (.binary m q))
  field s width s.zeros (signOf s negative) [] (inCase s text)

/-- A text in a field. -/
def textField (s : Style) (width : Nat) (precision : Option Nat) (cs : List Char) : List Char :=
  field s width false [] [] (cs.take (precision.getD cs.length))

/-- A literal in ASCII. -/
def asciiText (cs : List Char) : List Char :=
  cs.flatMap fun c => if c.toNat < 0x80 then [c] else Text.numbered c

/-- A value in a field. -/
def shown? (s : Style) (width : Nat) (precision : Option Nat) (v : Value) : Option (List Char) :=
  let integer (n : Int) (base : Nat) (mark : String) :=
    integerField s width precision (Nat.toDigits base n.natAbs) mark (n < 0)
  let float (written : Nat → Bool → Binary64.Ratio → List Char) :=
    (floatOf? v).map (floatField s width (written (precision.getD usualPrecision) s.marked))
  match s.form with
  | .displayed => some (textField s width precision v.display)
  | .literal => some (textField s width precision v.literal)
  | .ascii => some (textField s width precision (asciiText v.literal))
  | .integer => (wholeOf? v).map fun n => integer n 10 ""
  | .octal => (intOf? v).map fun n => integer n 8 "0o"
  | .hexadecimal => (intOf? v).map fun n => integer n 16 "0x"
  | .scientific => float Decimal.scientific
  | .fixed => float Decimal.fixed
  | .general => float Decimal.general
  | .char => (charOf? v).map fun c => field s width false [] [] [c]

/-! ## Filling -/

/-- Where places take their values from: arguments in their order, or a map with the value that is
    to be taken next. -/
inductive Supply where
  | ordered (vs : List Value)
  | named (es : Entries Value) (next : Option Value)

namespace Supply

/-- Makes the member of a map the next value. -/
def select? (s : Supply) (member : Option String) : Option Supply :=
  match member, s with
  | none, s => some s
  | some name, .named es _ => (es.get? name).map fun v => .named es (some v)
  | some _, .ordered _ => none

/-- Takes the next value. -/
def take? : Supply → Option (Value × Supply)
  | .ordered (v :: vs) => some (v, .ordered vs)
  | .named es (some v) => some (v, .named es none)
  | _ => none

/-- Takes a number, if one is asked for. It must be an integer that is not too large. -/
def count? (s : Supply) : Count → Option (Int × Supply)
  | .given n => some (n, s)
  | .asked => do
    let (v, s) ← s.take?
    let n ← intOf? v
    if largest < n.natAbs then none else some (n, s)

/-- Whether nothing is left that has to be taken. -/
def isSpent : Supply → Bool
  | .ordered vs => vs.isEmpty
  | .named .. => true

end Supply

/-- Takes the width and the precision of a style. A width below zero puts the value at the left, and
    a precision below zero is zero. -/
def measure? (style : Style) (supply : Supply) :
    Option (Style × Nat × Option Nat × Supply) := do
  let (width, supply) ← supply.count? style.width
  let style := { style with left := style.left || width < 0 }
  match style.precision with
  | none => return (style, width.natAbs, none, supply)
  | some p =>
    let (precision, supply) ← supply.count? p
    return (style, width.natAbs, some precision.toNat, supply)

/-- Fills the places of a template. All arguments in order have to be used. -/
def fillFrom : List Piece → Supply → Option (List Char)
  | [], supply => if supply.isSpent then some [] else none
  | .char c :: ps, supply => (fillFrom ps supply).map (c :: ·)
  | .place member style :: ps, supply => do
    let (style, width, precision, supply) ← measure? style (← supply.select? member)
    let (v, supply) ← supply.take?
    let text ← shown? style width precision v
    return text ++ (← fillFrom ps supply)

/-- The message of a template and its arguments. Without arguments a template is a plain text, and
    a map that is the only argument is one of named members. -/
def fill? (template : String) (args : List Value) : Option String :=
  let filled (supply : Supply) : Option String := do
    let ps ← pieces? template
    return String.ofList (← fillFrom ps supply)
  match args with
  | [] => some template
  | [.map (e :: es)] => filled (.named (e :: es) (some (.map (e :: es))))
  | args => filled (.ordered args)

end Template

end SearchClient.Logging
