import SearchClient.Schema.Record

set_option autoImplicit false

/-! # Clauses

A clause asks for a value of a field, with an optional weight, or bounds the field on one side.
Values stand in a clause as they are, without escapes. A whole floating point number is written as
the integer that it is. -/

namespace SearchClient.Query

/-- The text of a value in a clause. -/
def formatValue : Value → String
  | .bool true => "true"
  | .bool false => "false"
  | .date d => d.isoText
  | .dateTime t => t.isoText
  | .symbol s => s.wire
  | .float x =>
    match x.toInt? with
    | some n => String.ofList (Decimal.ofInt n)
    | none => String.ofList (Layout.plain.render x)
  | v => v.displayText

/-- How a field is compared with a bound. -/
inductive Comparison where
  | above
  | atLeast
  | below
  | atMost
deriving DecidableEq

namespace Comparison

/-- All comparisons, in the order in which their clauses are written. -/
def all : List Comparison :=
  [.above, .atLeast, .below, .atMost]

/-- The name of a bound in data. -/
def name : Comparison → String
  | .above => "gt"
  | .atLeast => "gte"
  | .below => "lt"
  | .atMost => "lte"

/-- The sign of a comparison in a query. -/
def sign : Comparison → String
  | .above => ">"
  | .atLeast => ">="
  | .below => "<"
  | .atMost => "<="

end Comparison

/-- The characters that signs of comparison consist of. -/
def isSignChar (c : Char) : Bool :=
  c = '<' || c = '>' || c = '='

/-- One condition on a field. -/
inductive Clause where
  | equals (field value : String) (boost : Option String)
  | compares (field : String) (comparison : Comparison) (bound : String)
deriving DecidableEq

/-- The text of a clause. -/
def Clause.render : Clause → List Char
  | .equals field value none => field.toList ++ ':' :: value.toList
  | .equals field value (some boost) =>
    field.toList ++ ':' :: value.toList ++ '^' :: boost.toList
  | .compares field comparison bound =>
    field.toList ++ ':' :: comparison.sign.toList ++ bound.toList

/-- The text of clauses, with single blanks between them. -/
def renderClauses (clauses : List Clause) : List Char :=
  Value.joinWith " " (clauses.map Clause.render)

end SearchClient.Query
