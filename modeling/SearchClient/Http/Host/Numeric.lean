import SearchClient.Decimal.Literal
import SearchClient.Text.Hex
import SearchClient.Text.Split

set_option autoImplicit false

/-! # Hosts in numbers

A host may be given by four numbers below 256 with dots between them, or by eight groups of
hexadecimal digits with colons between them. Two colons stand for a run of groups that are zero, and
the last two groups may be given by four numbers. Behind a percent sign stands the network that the
host is in. -/

namespace SearchClient.Http.Host

/-! ## Four numbers -/

/-- The number below 256 that up to three digits without leading zeros denote. -/
def byte? (cs : List Char) : Option Nat :=
  match Literal.digits? cs with
  | some ds =>
    if (cs.length = 1 || cs.head? ≠ some '0') && Decimal.value ds < 256 then some (Decimal.value ds)
    else none
  | none => none

/-- How many runs of digits fit into one of the given length, with a digit between any two. -/
def runsIn (length : Nat) : Nat :=
  (length + 1) / 2

/-- Whether a text looks like four numbers: it consists of four runs of digits with one character,
    of whatever kind, between any two. -/
def looksNumeric (host : List Char) : Bool :=
  let divided := host.map fun c => if (Decimal.asciiDigit? c).isSome then c else '.'
  let lengths := (Text.splitOn '.' divided).map (·.length)
  lengths.all (0 < ·) && lengths.length ≤ 4 &&
    4 ≤ lengths.foldl (fun n length => n + runsIn length) 0

/-- Whether a text is four numbers below 256. -/
def isNumbers (host : List Char) : Bool :=
  let parts := Text.splitOn '.' host
  parts.length = 4 && parts.all fun p => (byte? p).isSome

/-! ## Groups -/

/-- How many groups a host has. -/
def groupCount : Nat :=
  8

/-- Whether a text is one to four hexadecimal digits. -/
def isGroup (cs : List Char) : Bool :=
  !cs.isEmpty && cs.length ≤ 4 && cs.all fun c => (Text.hexValue? c).isSome

/-- The texts between colons, with two groups for four numbers at the end. -/
def groupTexts? (cs : List Char) : Option (List (List Char)) :=
  let parts := Text.splitOn ':' cs
  let last := parts.getLastD []
  if parts.length < 3 then none
  else if !last.contains '.' then some parts
  else if isNumbers last then some (parts.dropLast ++ [['0'], ['0']])
  else none

/-- The texts in front of the first empty one, and those behind it. -/
def cutEmpty? : List (List Char) → Option (List (List Char) × List (List Char))
  | [] => none
  | p :: ps =>
    if p.isEmpty then some ([], ps)
    else (cutEmpty? ps).map fun (before, after) => (p :: before, after)

/-- Whether texts are groups, of which a run may be left out. An empty text at either end belongs to
    a run there. -/
def areGroups (parts : List (List Char)) : Bool :=
  let middle := (parts.drop 1).dropLast
  match parts.head?, parts.getLast?, cutEmpty? middle with
  | some first, some last, some (before, after) =>
    let before := if first.isEmpty then before else first :: before
    let after := if last.isEmpty then after else after ++ [last]
    (!first.isEmpty || before.isEmpty) && (!last.isEmpty || after.isEmpty) &&
      before.length + after.length < groupCount && (before ++ after).all isGroup
  | _, _, _ => parts.length = groupCount && parts.all isGroup

/-- Whether a text is a host in groups, perhaps with the name of a network. -/
def isGrouped (cs : List Char) : Bool :=
  let (address, network) :=
    match Text.cut? '%' cs with
    | some (address, network) => (address, some network)
    | none => (cs, none)
  network.all (fun n => !n.isEmpty && !n.contains '%') &&
    (groupTexts? address).any fun parts => parts.length ≤ groupCount + 1 && areGroups parts

end SearchClient.Http.Host
