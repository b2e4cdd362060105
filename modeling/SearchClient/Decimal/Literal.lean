import SearchClient.Decimal.Binary64
import SearchClient.Decimal.Digits
import SearchClient.Text.Blank
import SearchClient.Text.Hex

set_option autoImplicit false

/-! # Number literals

An integer literal is an optional sign and digits; a floating point literal adds a fraction and an
exponent, or is one of the names `inf`, `infinity` and `nan` in any case. Underscores may stand
between digits. The readers take the digits of any script; `Lax` below takes ASCII digits alone
and is otherwise more forgiving about where a zero fraction or an underscore stands. -/

namespace SearchClient.Literal

open Decimal (splitSign spanDigits)

/-- Removes the underscores, if each stands between two digits. -/
def dropUnderscores : List Char → Option (List Char)
  | [] => some []
  | ['_'] => none
  | '_' :: _ :: _ => none
  | [c] => some [c]
  | c :: '_' :: d :: cs =>
    if (Decimal.asciiDigit? c).isSome && (Decimal.asciiDigit? d).isSome then
      (dropUnderscores (d :: cs)).map (c :: ·)
    else none
  | c :: d :: cs => (dropUnderscores (d :: cs)).map (c :: ·)

/-- The values of a run of ASCII digits, if all characters are digits and there is one. -/
def digits? : List Char → Option (List Nat)
  | [] => none
  | cs => cs.mapM Decimal.asciiDigit?

/-- A signed run of digits. -/
def signedDigits? (cs : List Char) : Option Int :=
  let (negative, rest) := splitSign cs
  (digits? rest).map fun ds =>
    if negative then -(Decimal.value ds : Int) else Decimal.value ds

/-- The exponent part, which may be missing. -/
def exponent? : List Char → Option Int
  | [] => some 0
  | c :: cs => if c = 'e' || c = 'E' then signedDigits? cs else none

/-- A decimal number without underscores, blanks or sign. -/
def unsigned? (negative : Bool) (cs : List Char) : Option Binary64 := do
  let (whole, rest) := spanDigits cs
  let (fraction, rest) :=
    match rest with
    | '.' :: rest => spanDigits rest
    | rest => ([], rest)
  let ds ← digits? (whole ++ fraction)
  let e ← exponent? rest
  return .ofDecimal negative (Decimal.value ds) (e - fraction.length)

/-- A number without underscores or blanks, or one of the names of those outside the number
    line. -/
def number? (cs : List Char) : Option Binary64 :=
  let (negative, rest) := splitSign cs
  let name := String.ofList (rest.map Char.toLower)
  if name = "inf" || name = "infinity" then some (.infinite negative)
  else if name = "nan" then some .nan
  else unsigned? negative rest

/-! ## Literals of any script -/

/-- Blanks around a literal do not count; the separators of information are no blanks here. -/
def isMargin (c : Char) : Bool :=
  Text.isBlank c && !(0x1C ≤ c.toNat && c.toNat ≤ 0x1F)

/-- Trims the blanks and writes every digit in ASCII. -/
def normalize (cs : List Char) : List Char :=
  (Text.trimBy isMargin cs).map fun c =>
    match Text.digitValue? c with
    | some d => Decimal.digitChar d
    | none => c

/-- Why a text is no integer literal. -/
inductive Defect where
  | malformed
  | tooLong (digits : Nat)
deriving DecidableEq

/-- The value of a digit of the given base, at most sixteen. -/
def digitIn? (base : Nat) (c : Char) : Option Nat :=
  (Text.hexValue? c).filter (· < base)

/-- Reads an integer literal in digits of the given base. Decimal digits must not be too many,
    whatever stands behind them. -/
def readDigits (base : Nat) (cs : List Char) : Except Defect Nat :=
  let front := (cs.takeWhile fun c => (digitIn? base c).isSome).length
  if base = 10 && Decimal.digitLimit < front then .error (.tooLong front)
  else
    match cs.mapM (digitIn? base) with
    | none | some [] => .error .malformed
    | some ds => .ok (ds.foldl (fun acc d => base * acc + d) 0)

/-- Drops the mark of a base that is a power of two. -/
def dropBaseMark (base : Nat) (cs : List Char) : List Char :=
  match cs with
  | '0' :: c :: rest =>
    let mark : Char := if base = 2 then 'b' else if base = 8 then 'o' else 'x'
    if base ≠ 10 && c.toLower = mark then rest else cs
  | cs => cs

/-- Reads an integer literal of the given base: blanks, a sign, the mark of the base, digits. -/
def readInt (base : Nat) (cs : List Char) : Except Defect Int :=
  match dropUnderscores (normalize cs) with
  | none => .error .malformed
  | some cs =>
    let (negative, rest) := splitSign cs
    (readDigits base (dropBaseMark base rest)).map fun n => if negative then -(n : Int) else n

/-- Reads a decimal integer literal. -/
def int? (s : String) : Option Int :=
  (readInt 10 s.toList).toOption

/-- Reads a floating point literal. -/
def float? (s : String) : Option Binary64 :=
  dropUnderscores (normalize s.toList) >>= number?

/-! ## Lax literals in ASCII -/

/-- Whether underscores stand alone and strictly inside. -/
def underscoresInside : List Char → Bool
  | '_' :: _ => false
  | cs => go cs
where
  go : List Char → Bool
    | [] => true
    | ['_'] => false
    | '_' :: '_' :: _ => false
    | _ :: cs => go cs

/-- Drops a plus sign that no other sign follows. -/
def dropPlus? : List Char → Option (List Char)
  | '+' :: '-' :: _ => none
  | '+' :: cs => some cs
  | cs => some cs

/-- Drops the zeros at the front, and the underscores between them, up to the last of them or up to
    another digit or a minus sign; a text that starts with one of these is left as it is. -/
def dropZeros? : List Char → Option (List Char)
  | '0' :: cs => go '0' cs
  | c :: cs => if ('1' ≤ c && c ≤ '9') || c = '-' then some (c :: cs) else none
  | [] => none
where
  go (last : Char) : List Char → Option (List Char)
    | [] => some [last]
    | c :: cs =>
      if c = '0' || c = '_' then go c cs
      else if ('1' ≤ c && c ≤ '9') || c = '-' then some (c :: cs)
      else if c = '.' then some (last :: c :: cs)
      else none

/-- Drops a fraction of zeros. -/
def dropZeroFraction (cs : List Char) : List Char :=
  let (whole, rest) := cs.span (· ≠ '.')
  match rest with
  | '.' :: '0' :: zeros => if zeros.all (· = '0') then whole else cs
  | _ => cs

/-- Reads an integer whose only leading zero is a zero alone. It is too long if that can be told
    from its first characters, the sign among them. -/
def readPlain (cs : List Char) : Except Defect Int :=
  let (negative, rest) :=
    match cs with
    | '-' :: rest => (true, rest)
    | rest => (false, rest)
  let (ds, more) := spanDigits rest
  match ds with
  | '0' :: _ => if ds.length = 1 && more.isEmpty then .ok 0 else .error .malformed
  | ds =>
    let length := ds.length + (if negative then 1 else 0)
    if Decimal.digitLimit < length then .error (.tooLong length)
    else if !more.isEmpty then .error .malformed
    else (readDigits 10 ds).map fun n => if negative then -(n : Int) else n

/-- Reads an integer, which may have zeros and a plus sign in front, single underscores, and a
    fraction of zeros. -/
def readLaxInt (s : String) : Except Defect Int :=
  match dropPlus? (Text.trimBy Text.isSpace s.toList) >>= dropZeros? with
  | none => .error .malformed
  | some cs =>
    let cs := dropZeroFraction cs
    readPlain (if underscoresInside cs then cs.filter (· ≠ '_') else cs)

/-- Reads a floating point number. -/
def laxFloat? (s : String) : Option Binary64 :=
  match number? (Text.trimBy Text.isSpace s.toList) with
  | some x => some x
  | none =>
    if underscoresInside s.toList then number? (s.toList.filter (· ≠ '_')) else none

end SearchClient.Literal
