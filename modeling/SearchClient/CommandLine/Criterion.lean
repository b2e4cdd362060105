import SearchClient.CommandLine.Invocation
import SearchClient.Failure.Problem
import SearchClient.Query.Clause

set_option autoImplicit false

/-! # Search criteria on the command line

A filter is `field=value`, with a boost behind a last caret if there is one; a range is a field, a
sign of comparison and a bound; a sort field has a dash in front if it is sorted downwards. The
field of a range holds no sign, and its bound starts with none, so each text can be split in one way
only. -/

namespace SearchClient.CommandLine

open Failure (Problem BadArgument)
open Query (Comparison isSignChar)

/-! ## Filters -/

/-- The number of a boost: an integer if it reads as one, else a floating point number. -/
def boost? (s : String) : Option Value :=
  match Literal.int? s with
  | some n => some (.int n)
  | none => (Literal.float? s).map .float

/-- A value to match with its boost. -/
def weighted (value : String) (boost : Value) : Value :=
  .record .weighted [("value", .text value), ("boost", boost)] [] ["value", "boost"]

/-- Reads a filter: its field and what it has to match. -/
def readFilter (raw : String) : Except BadArgument (String × Value) :=
  match Text.cut? '=' raw.toList with
  | none | some ([], _) => .error (.filter raw)
  | some (field, rest) =>
    let field := String.ofList field
    match Text.cutLast? '^' rest with
    | none => .ok (field, .text (String.ofList rest))
    | some (value, boost) =>
      match boost? (String.ofList boost) with
      | some n => .ok (field, weighted (String.ofList value) n)
      | none => .error (.boost raw)

/-! ## Ranges -/

/-- Reads a sign of comparison from the front. -/
def comparison? : List Char → Option (Comparison × List Char)
  | '>' :: '=' :: cs => some (.atLeast, cs)
  | '<' :: '=' :: cs => some (.atMost, cs)
  | '>' :: cs => some (.above, cs)
  | '<' :: cs => some (.below, cs)
  | _ => none

/-- Whether a text can be a bound: it does not start with a sign, and no line ends in it behind its
    first character. -/
def isBound : List Char → Bool
  | [] => false
  | c :: cs => !isSignChar c && !cs.contains '\n'

/-- Reads a range: its field, how it is compared, and the bound. -/
def readRange (raw : String) : Except BadArgument (String × Comparison × String) :=
  let (field, rest) := raw.toList.span fun c => !isSignChar c
  match comparison? rest with
  | none => .error (.range raw)
  | some (comparison, bound) =>
    if field.isEmpty || !isBound bound then .error (.range raw)
    else .ok (String.ofList field, comparison, String.ofList bound)

/-- Sets a bound of a range; a range that is not there has none. -/
def withBound (range : Option Value) (comparison : Comparison) (bound : String) : Value :=
  let name := comparison.name
  let (fields, given) : Entries Value × List String :=
    match range with
    | some (.record _ fields _ given) => (fields, given)
    | _ => (Comparison.all.map fun (c : Comparison) => (c.name, Value.null), [])
  .record .bounds (Entries.put fields name (.text bound)) []
    (if given.contains name then given else given ++ [name])

/-- Adds a range to those read before. -/
def addRange (ranges : Entries Value) (raw : String) : Except BadArgument (Entries Value) := do
  let (field, comparison, bound) ← readRange raw
  return ranges.put field (withBound (ranges.get? field) comparison bound)

/-! ## Sort fields -/

/-- A sort field: a dash in front sorts downwards. -/
def readSort (s : String) : Value :=
  match s.toList with
  | '-' :: field =>
    .record .sortKey [("field", .text (String.ofList field)), ("order", .text "desc")] []
      ["field", "order"]
  | _ => .text s

/-! ## Searches -/

/-- An integer, or null. -/
def intOrNull (n : Option Int) : Value :=
  .ofOption (n.map .int)

/-- Entries, or null if there are none. -/
def entriesOrNull (es : Entries Value) : Value :=
  if es.isEmpty then .null else .map es

/-- A list, or null if it is empty. -/
def listOrNull (vs : List Value) : Value :=
  if vs.isEmpty then .null else .list vs

/-- The data of the parameters of a search. -/
def SearchArguments.data (a : SearchArguments) : Except BadArgument (Entries Value) := do
  let filters ← a.filters.mapM readFilter
  let ranges ← a.ranges.foldlM addRange []
  return [("q", .ofText? a.query),
    ("filter", entriesOrNull (Entries.ofPairs filters)),
    ("range", entriesOrNull ranges),
    ("offset", intOrNull a.offset),
    ("limit", intOrNull a.limit),
    ("page", intOrNull a.page),
    ("sort", listOrNull (a.sort.map readSort)),
    ("attributes_to_retrieve", listOrNull (a.retrieve.map .text)),
    ("attributes_to_exclude", listOrNull (a.exclude.map .text))]

/-- The parameters of a search. -/
def SearchArguments.params (a : SearchArguments) : Except Problem Value := do
  let data ← a.data.mapError .argument
  (Record.check .search (.map data)).mapError .refused

end SearchClient.CommandLine
