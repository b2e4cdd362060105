import SearchClient.Value.Display
import SearchClient.Value.Misuse

set_option autoImplicit false

/-! # Sort fields

A field to sort on is a text, which a minus sign at the front turns to descending order, or a
specification of a field and an order. -/

namespace SearchClient.Query

/-- The text of a field in the given order. -/
def orderedField (field : String) (order : Option Value) : String :=
  match order with
  | some (.text "desc") => "-" ++ field
  | _ => field

/-- The text of one sort field. -/
def sortField (v : Value) : String :=
  match v with
  | .record .sortKey .. => orderedField (v.member "field").displayText (v.member? "order")
  | .map es =>
    match Entries.get? es "field" with
    | some field => orderedField field.displayText (Entries.get? es "order")
    | none => v.displayText
  | v => v.displayText

/-- The value that one sort field shows. -/
def shownInSort (v : Value) : Value :=
  match v with
  | .record .sortKey .. => v.member "field"
  | .map es => (Entries.get? es "field").getD v
  | v => v

/-- The texts of sort fields, in order; whatever counts as absent has none. -/
def sortFields (v : Value) : Except Misuse (List String) :=
  if v.truthy then v.elements.map fun vs => vs.map sortField else .ok []

end SearchClient.Query
