import SearchClient.Decimal.Digits
import SearchClient.Text.Hex
import SearchClient.Text.Split

set_option autoImplicit false

/-! # Tags

A tag says what a part of a document stands for. A plain scalar without a tag gets the one whose
form it has: `yes` and `off` are truth values, `010` is an octal integer, `12:30` an integer of base
sixty, `2024-01-02` a date, and what has no such form is a text. -/

namespace SearchClient.Yaml

/-- What a part of a document stands for. -/
inductive Tag where
  | null
  | boolean
  | integer
  | float
  | time
  | text
  | octets
  | sequence
  | mapping
  | set
  | orderedPairs
  | pairs
  | merge
  /-- A lone equals sign, which is a text as a key and nothing else. -/
  | equals
  | unknown (address : String)
deriving DecidableEq

namespace Tag

/-- The start of the addresses of the common tags. -/
def common : String :=
  "tag:yaml.org,2002:"

/-- The tag of an address. -/
def ofAddress (s : String) : Tag :=
  let known : List (String × Tag) :=
    [("null", .null), ("bool", .boolean), ("int", .integer), ("float", .float),
     ("timestamp", .time), ("str", .text), ("binary", .octets), ("seq", .sequence),
     ("map", .mapping), ("set", .set), ("omap", .orderedPairs), ("pairs", .pairs),
     ("merge", .merge), ("value", .equals)]
  match Text.dropText? common.toList s.toList with
  | some name => (known.lookup (String.ofList name)).getD (.unknown s)
  | none => .unknown s

/-! ## The forms of plain scalars -/

/-- Whether a character is a decimal digit. -/
def isDigit (c : Char) : Bool :=
  (Decimal.asciiDigit? c).isSome

/-- Whether a character is a decimal digit or an underscore. -/
def isSpacedDigit (c : Char) : Bool :=
  isDigit c || c = '_'

/-- Drops a sign. -/
def dropSign : List Char → List Char
  | '-' :: cs => cs
  | '+' :: cs => cs
  | cs => cs

/-- Whether a text has the form of a count of minutes or seconds: one digit, or two below sixty. -/
def isSixtieth : List Char → Bool
  | [a] => isDigit a
  | [a, b] => isDigit a && a < '6' && isDigit b
  | _ => false

/-- Whether a text is a digit with digits and underscores behind it. -/
def isSpacedRun : List Char → Bool
  | c :: cs => isDigit c && cs.all isSpacedDigit
  | [] => false

/-- Whether a text is not empty and all its characters are in a class. -/
def isRun (p : Char → Bool) (cs : List Char) : Bool :=
  !cs.isEmpty && cs.all p

/-- Whether an unsigned text has the form of an integer: binary, hexadecimal, octal or decimal, or
    of base sixty with colons. -/
def isUnsignedInteger : List Char → Bool
  | ['0'] => true
  | '0' :: 'b' :: cs => isRun (fun c => c = '0' || c = '1' || c = '_') cs
  | '0' :: 'x' :: cs => isRun (fun c => (Text.hexValue? c).isSome || c = '_') cs
  | '0' :: cs => isRun (fun c => (isDigit c && c < '8') || c = '_') cs
  | cs =>
    match Text.splitOn ':' cs with
    | [] => false
    | first :: rest => isSpacedRun first && rest.all isSixtieth

/-- Whether a text has the form of an exponent with its sign, or is empty. -/
def isExponent : List Char → Bool
  | [] => true
  | e :: sign :: cs => (e = 'e' || e = 'E') && (sign = '-' || sign = '+') && isRun isDigit cs
  | _ => false

/-- Whether an unsigned text has the form of a decimal fraction with digits in front. -/
def isFraction (cs : List Char) : Bool :=
  match Text.cut? '.' cs with
  | none => false
  | some (whole, rest) =>
    let (_, exponent) := rest.span isSpacedDigit
    match Text.splitOn ':' whole with
    | [] => false
    | [whole] => isSpacedRun whole && isExponent exponent
    | first :: more => isSpacedRun first && more.all isSixtieth && exponent.isEmpty

/-- Whether an unsigned text has the form of a decimal fraction without digits in front. -/
def isBareFraction : List Char → Bool
  | '.' :: cs =>
    let (digits, exponent) := cs.span isSpacedDigit
    isSpacedRun digits && isExponent exponent
  | _ => false

/-- Whether a text has the form of a floating point number. -/
def isFloat (cs : List Char) : Bool :=
  let word (s : String) (cs : List Char) : Bool := cs = s.toList
  isFraction (dropSign cs) || isBareFraction cs ||
    [".inf", ".Inf", ".INF"].any (word · (dropSign cs)) || [".nan", ".NaN", ".NAN"].any (word · cs)

/-! ## Dates and times -/

/-- A time of day as it is written: hour, minute, second, the digits of a fraction of a second, and
    the minutes ahead of universal time. -/
structure Clock where
  hour : Nat
  minute : Nat
  second : Nat
  fraction : List Char
  offset : Option Int
deriving DecidableEq

/-- The parts of a date, perhaps with a time, as they are written. -/
structure Moment where
  year : Nat
  month : Nat
  day : Nat
  clock : Option Clock
deriving DecidableEq

/-- Reads between `least` and `most` digits, as many as there are. -/
def digits? (least most : Nat) (cs : List Char) : Option (Nat × List Char) :=
  let ds := (cs.take most).takeWhile isDigit
  if ds.length < least then none
  else some (Decimal.value (ds.filterMap Decimal.asciiDigit?), cs.drop ds.length)

/-- Reads a given character. -/
def char? (c : Char) : List Char → Option (List Char)
  | [] => none
  | x :: cs => if x = c then some cs else none

/-- Splits a fraction of a second off. -/
def splitFraction : List Char → List Char × List Char
  | '.' :: cs => cs.span isDigit
  | cs => ([], cs)

/-- The minutes of hours and perhaps minutes. -/
def minutes? (cs : List Char) : Option Nat := do
  let (hours, rest) ← digits? 1 2 cs
  match rest with
  | [] => some (60 * hours)
  | rest =>
    let (more, rest) ← char? ':' rest >>= digits? 2 2
    if rest.isEmpty then some (60 * hours + more) else none

/-- Reads a zone: nothing, `Z`, or a sign with hours and perhaps minutes. -/
def zone? (cs : List Char) : Option (Option Int) :=
  match cs.dropWhile (fun c => c = ' ' || c = '\t') with
  | [] => if cs.isEmpty then some none else none
  | ['Z'] => some (some 0)
  | '+' :: rest => (minutes? rest).map fun n => some (n : Int)
  | '-' :: rest => (minutes? rest).map fun n => some (-(n : Int))
  | _ => none

/-- Drops what separates a date from a time: a letter, or spaces and tabs. -/
def dropSeparator? : List Char → Option (List Char)
  | [] => none
  | c :: cs =>
    if c = 'T' || c = 't' then some cs
    else if c = ' ' || c = '\t' then some (cs.dropWhile fun c => c = ' ' || c = '\t')
    else none

/-- Reads a time of day behind what separates it from its date. -/
def clock? (cs : List Char) : Option Clock := do
  let (hour, cs) ← dropSeparator? cs >>= digits? 1 2
  let (minute, cs) ← char? ':' cs >>= digits? 2 2
  let (second, cs) ← char? ':' cs >>= digits? 2 2
  let (fraction, cs) := splitFraction cs
  let offset ← zone? cs
  return ⟨hour, minute, second, fraction, offset⟩

/-- Reads a date, or a date and a time. Month, day and hour may have one digit. -/
def moment? (cs : List Char) : Option Moment := do
  let (year, cs) ← digits? 4 4 cs
  let (month, cs) ← char? '-' cs >>= digits? 1 2
  let (day, cs) ← char? '-' cs >>= digits? 1 2
  match cs with
  | [] => return ⟨year, month, day, none⟩
  | cs => return ⟨year, month, day, some (← clock? cs)⟩

/-- Whether a text has the form of a date or time. A date alone has two digits for its month and
    day. -/
def isMoment (cs : List Char) : Bool :=
  match moment? cs with
  | some m => m.clock.isSome || cs.length = 10
  | none => false

/-! ## The tag of a plain scalar -/

/-- The texts of truth values, in three letter cases each. -/
def booleans : List (String × Bool) :=
  [("yes", true), ("Yes", true), ("YES", true), ("no", false), ("No", false), ("NO", false),
   ("true", true), ("True", true), ("TRUE", true), ("false", false), ("False", false),
   ("FALSE", false), ("on", true), ("On", true), ("ON", true), ("off", false), ("Off", false),
   ("OFF", false)]

/-- The texts of null. -/
def nulls : List String :=
  ["", "~", "null", "Null", "NULL"]

/-- Drops one line feed at the end. -/
def dropLineFeed (cs : List Char) : List Char :=
  if cs.getLast? = some '\n' then cs.dropLast else cs

/-- The tag of a text without tag, by its form; a line feed at its end does not count, unless it is
    alone. -/
def ofPlain (s : String) : Tag :=
  let cs := if s = "\n" then s.toList else dropLineFeed s.toList
  let s := String.ofList cs
  if (booleans.lookup s).isSome then .boolean
  else if isFloat cs then .float
  else if isUnsignedInteger (dropSign cs) then .integer
  else if s = "<<" then .merge
  else if s ∈ nulls then .null
  else if isMoment cs then .time
  else if s = "=" then .equals
  else .text

end Tag

end SearchClient.Yaml
