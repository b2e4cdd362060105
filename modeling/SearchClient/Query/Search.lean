import SearchClient.Query.Filter
import SearchClient.Query.Sort

set_option autoImplicit false

/-! # Searches as request parameters

The parameters of a search become named texts: the query, the numbers that are set, the sort
fields, and the fields to return or to leave out. -/

namespace SearchClient.Query

/-- Pairs of a repeated name with texts. -/
def repeated (name : String) (texts : List String) : List (String × String) :=
  texts.map fun s => (name, s)

/-- The texts of a list; whatever counts as absent has none. -/
def displayed (v : Value) : Except Misuse (List String) :=
  if v.truthy then v.elements.map fun vs => vs.map Value.displayText else .ok []

/-- A member of the parameters. -/
def parameter (params : Value) (name : String) : Except Misuse Value :=
  match params.member? name with
  | some v => .ok v
  | none => .error .noMember

/-- A number of the parameters, if it is set. -/
def numberPair (params : Value) (name : String) : Except Misuse (List (String × String)) := do
  match ← parameter params name with
  | .null => return []
  | v => return [(name, v.displayText)]

/-- The named texts of the parameters of a search. -/
def searchPairs (params : Value) : Except Misuse (List (String × String)) := do
  let q ← parameter params "q"
  let filter ← parameter params "filter"
  let range ← parameter params "range"
  let query ← compile q filter range
  let offset ← numberPair params "offset"
  let limit ← numberPair params "limit"
  let page ← numberPair params "page"
  let sort ← sortFields (← parameter params "sort")
  let retrieve ← displayed (← parameter params "attributes_to_retrieve")
  let exclude ← displayed (← parameter params "attributes_to_exclude")
  return (query.map ("q", ·)).toList ++ offset ++ limit ++ page ++ repeated "sort[]" sort ++
    repeated "attributesToRetrieve[]" retrieve ++ repeated "attributesToExclude[]" exclude

/-- The values that the named texts of the parameters of a search show. -/
def shownInSearch (params : Value) : List Value :=
  let items (name : String) := (params.member name).elements.toOption.getD []
  shownInClauses (params.member "filter") (params.member "range") ++
    ["offset", "limit", "page"].map params.member ++ (items "sort").map shownInSort ++
    items "attributes_to_retrieve" ++ items "attributes_to_exclude"

end SearchClient.Query
