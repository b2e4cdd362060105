import SearchClient.Decimal.Arithmetic
import SearchClient.Decimal.Literal
import SearchClient.Text.Base64
import SearchClient.Text.Case
import SearchClient.Value.Display
import SearchClient.Yaml.Fault
import SearchClient.Yaml.Tag

set_option autoImplicit false

/-! # Scalars

The value that a text has under a tag. An integer may be binary, octal, hexadecimal or of base
sixty, and a floating point number of base sixty too; underscores in them do not count. -/

namespace SearchClient.Yaml.Scalar

/-! ## Numbers -/

/-- The text without underscores. -/
def dense (s : String) : List Char :=
  s.toList.filter (· ≠ '_')

/-- The complaint about a literal. Of its quoted form two hundred characters are told. -/
def invalidLiteral (base : Nat) (cs : List Char) : String :=
  String.ofList ("invalid literal for int() with base ".toList ++ Decimal.ofNat base ++
    ": ".toList ++ (Text.quoted cs).take 200)

/-- An integer literal of the given base, or the complaint about it. -/
def inBase (base : Nat) (cs : List Char) : Except Fault Int :=
  match Literal.readInt base cs with
  | .ok n => .ok n
  | .error .malformed => .error (.badScalar (invalidLiteral base cs))
  | .error (.tooLong digits) => .error (.badScalar (Decimal.tooLong digits))

/-- The sum of parts of which each is sixty times the next. -/
def ofSixtieths (parts : List Int) : Int :=
  parts.foldl (fun acc part => 60 * acc + part) 0

/-- The integer that a scalar denotes. -/
def integer (s : String) : Except Fault Int := do
  let (negative, cs) := Decimal.splitSign (dense s)
  let n ←
    match cs with
    | [] => throw .emptyNumber
    | ['0'] => pure 0
    | '0' :: 'b' :: cs => inBase 2 cs
    | '0' :: 'x' :: cs => inBase 16 cs
    | '0' :: _ => inBase 8 cs
    | cs =>
      if cs.contains ':' then ofSixtieths <$> (Text.splitOn ':' cs).mapM (inBase 10)
      else inBase 10 cs
  return if negative then -n else n

/-- A floating point literal, or the complaint about it. -/
def real (cs : List Char) : Except Fault Binary64 :=
  match Literal.float? (String.ofList cs) with
  | some x => .ok x
  | none =>
    .error (.badScalar (String.ofList
      ("could not convert string to float: ".toList ++ Text.quoted cs)))

/-- Adds parts of which each is sixty times the next, from the last one on. -/
def addSixtieths (unit : Nat) (sum : Binary64) : List Binary64 → Except Fault Binary64
  | [] => .ok sum
  | x :: xs =>
    let factor := Binary64.ofInt unit
    if factor.isFinite then addSixtieths (60 * unit) (sum.plus (x.times factor)) xs
    else .error .tooLarge

/-- The floating point number that a scalar denotes. -/
def float (s : String) : Except Fault Binary64 := do
  let cs := (dense s).flatMap Text.lowerChar
  if cs.isEmpty then throw .emptyNumber
  let (negative, cs) := Decimal.splitSign cs
  let x ←
    if cs = ".inf".toList then pure (.infinite false)
    else if cs = ".nan".toList then pure .nan
    else if cs.contains ':' then
      let parts ← (Text.splitOn ':' cs).mapM real
      addSixtieths 1 (.zero false) parts.reverse
    else real cs
  return if negative then x.opposite else x

/-! ## Truth values, dates and octets -/

/-- The truth value that a scalar stands for. -/
def boolean (s : String) : Except Fault Bool :=
  match Tag.booleans.lookup (Text.lower s) with
  | some b => .ok b
  | none => .error .notBoolean

/-- Refuses what does not exist. -/
def require (holds : Bool) (complaint : String) : Except Fault Unit :=
  if holds then .ok () else .error (.badScalar complaint)

/-- The complaint about an offset of a day or more. -/
def badOffset (minutes : Int) : String :=
  let days := minutes.fdiv 1440
  let seconds := minutes.fmod 1440 * 60
  String.ofList
    (("offset must be a timedelta strictly between -timedelta(hours=24) and " ++
      "timedelta(hours=24), not datetime.timedelta(days=").toList ++ Decimal.ofInt days ++
      (if seconds = 0 then [] else ", seconds=".toList ++ Decimal.ofInt seconds) ++ ").".toList)

/-- The microseconds of a fraction of a second; further digits do not count. -/
def microseconds (fraction : List Char) : Nat :=
  Decimal.value (((fraction ++ List.replicate 6 '0').take 6).filterMap Decimal.asciiDigit?)

/-- The date or time that a scalar denotes. -/
def time (s : String) : Except Fault Value := do
  match Tag.moment? (Tag.dropLineFeed s.toList) with
  | none => throw .notTime
  | some m =>
    let offset := m.clock.bind (·.offset)
    require (offset.all fun n => n.natAbs < 1440) (badOffset (offset.getD 0))
    require (0 < m.year) "year 0 is out of range"
    require (0 < m.month && m.month ≤ 12) "month must be in 1..12"
    require (0 < m.day && m.day ≤ daysIn m.year m.month) "day is out of range for month"
    let d : Date := ⟨m.year, m.month, m.day⟩
    match m.clock with
    | none => return .date d
    | some c =>
      require (c.hour < 24) "hour must be in 0..23"
      require (c.minute < 60) "minute must be in 0..59"
      require (c.second < 60) "second must be in 0..59"
      return .dateTime ⟨d, c.hour, c.minute, c.second, microseconds c.fraction, c.offset⟩

/-- The octets that a scalar in base 64 denotes. -/
def octets (s : String) : Except Fault (List UInt8) :=
  if s.toList.all (·.toNat < 0x80) then
    match Text.Base64.decode? s.toList with
    | some bs => .ok bs
    | none => .error .tag
  else .error .tag

/-! ## Values -/

/-- The value of a text under a tag. -/
def value (tag : Tag) (s : String) : Except Fault Value :=
  match tag with
  | .null => .ok .null
  | .boolean => (boolean s).map .bool
  | .integer => (integer s).map .int
  | .float => (float s).map .float
  | .time => time s
  | .text | .equals => .ok (.text s)
  | .octets => (octets s).map .octets
  | .sequence | .mapping | .set | .orderedPairs | .pairs | .merge | .unknown _ => .error .tag

end SearchClient.Yaml.Scalar
