import SearchClient.Decimal.Digits

set_option autoImplicit false

/-! # Dates and times

A time of day belongs to a date and may have an offset from universal time, in minutes. `isoText`
is the interchange form, `constructorText` the form inside a displayed list or map. -/

namespace SearchClient

/-- Whether a year has a day more. -/
def isLeap (year : Nat) : Bool :=
  year % 4 = 0 && (year % 100 ≠ 0 || year % 400 = 0)

/-- How many days a month has. -/
def daysIn (year month : Nat) : Nat :=
  if month = 2 then (if isLeap year then 29 else 28)
  else if month ∈ [4, 6, 9, 11] then 30
  else 31

/-- A day of the calendar. -/
structure Date where
  year : Nat
  month : Nat
  day : Nat
deriving DecidableEq

/-- A time on a day. -/
structure DateTime where
  date : Date
  hour : Nat
  minute : Nat
  second : Nat
  microsecond : Nat
  /-- Minutes ahead of universal time. -/
  offset : Option Int
deriving DecidableEq

namespace Date

/-- Year, month and day with dashes between them. -/
def isoText (d : Date) : String :=
  String.ofList (Decimal.padded 4 d.year ++ '-' :: Decimal.padded 2 d.month ++
    '-' :: Decimal.padded 2 d.day)

/-- The numbers of a date with commas between them. -/
def numbers (d : Date) : List Char :=
  Decimal.ofNat d.year ++ ", ".toList ++ Decimal.ofNat d.month ++ ", ".toList ++
    Decimal.ofNat d.day

/-- How many days have begun since the calendar did. -/
def ordinal (d : Date) : Nat :=
  let years := d.year - 1
  let months := (List.range (d.month - 1)).map fun m => daysIn d.year (m + 1)
  years * 365 + years / 4 - years / 100 + years / 400 + months.foldl (· + ·) 0 + d.day

/-- The date as it is shown inside a container. -/
def constructorText (d : Date) : String :=
  String.ofList ("datetime.date(".toList ++ d.numbers ++ [')'])

end Date

namespace DateTime

/-- The microseconds since the calendar began, in universal time if the offset is known. -/
def instant (t : DateTime) : Int :=
  let minutes : Int := ((t.date.ordinal * 24 + t.hour) * 60 + t.minute : Nat)
  ((minutes - t.offset.getD 0) * 60 + t.second) * 1000000 + t.microsecond

/-- Whether two times are the same moment; an unknown offset is the same only as an unknown one. -/
def same (a b : DateTime) : Bool :=
  a.offset.isSome = b.offset.isSome && a.instant = b.instant

/-- Hours and minutes of an offset, with its sign. -/
def offsetText (minutes : Int) : List Char :=
  (if minutes < 0 then '-' else '+') :: Decimal.padded 2 (minutes.natAbs / 60) ++
    ':' :: Decimal.padded 2 (minutes.natAbs % 60)

/-- The time of day; a fraction of a second has six digits and is left out if it is zero. -/
def clockText (t : DateTime) : List Char :=
  Decimal.padded 2 t.hour ++ ':' :: Decimal.padded 2 t.minute ++ ':' :: Decimal.padded 2 t.second ++
    (if t.microsecond = 0 then [] else '.' :: Decimal.padded 6 t.microsecond)

/-- Date, separator, time of day and offset. -/
def isoTextWith (separator : Char) (t : DateTime) : String :=
  String.ofList (t.date.isoText.toList ++ separator :: t.clockText ++
    (t.offset.map offsetText).getD [])

/-- The interchange form of a time. -/
def isoText (t : DateTime) : String :=
  t.isoTextWith 'T'

/-- The interchange form in which a zero offset is written `Z`. -/
def zuluText (t : DateTime) : String :=
  if t.offset = some 0 then String.ofList (t.date.isoText.toList ++ 'T' :: t.clockText ++ ['Z'])
  else t.isoText

/-- The offset as it is shown inside a container. -/
def zoneText (minutes : Int) : List Char :=
  if minutes = 0 then "datetime.timezone.utc".toList
  else
    let days : List Char := if minutes < 0 then "days=-1, ".toList else []
    let seconds := ((minutes * 60).emod 86400).toNat
    "datetime.timezone(datetime.timedelta(".toList ++ days ++ "seconds=".toList ++
      Decimal.ofNat seconds ++ "))".toList

/-- The time as it is shown inside a container; zero seconds and fractions at the end are left
    out. -/
def constructorText (t : DateTime) : String :=
  let clock : List Nat :=
    if t.microsecond = 0 then
      if t.second = 0 then [t.hour, t.minute] else [t.hour, t.minute, t.second]
    else [t.hour, t.minute, t.second, t.microsecond]
  String.ofList ("datetime.datetime(".toList ++ t.date.numbers ++
    clock.flatMap (fun n => ", ".toList ++ Decimal.ofNat n) ++
    (t.offset.map fun minutes => ", tzinfo=".toList ++ zoneText minutes).getD [] ++ [')'])

end DateTime

end SearchClient
