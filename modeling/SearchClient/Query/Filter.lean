import SearchClient.Query.Clause
import SearchClient.Value.Misuse

set_option autoImplicit false

/-! # Filters and ranges as clauses

A filter asks for values of fields, a range for bounds on fields. A null value, bound or entry is
not set and gives no clause; every other value gives one. The clauses of the filter come first, then
those of the range, each in the order of its entries. -/

namespace SearchClient.Query

/-- The value that an entry of a filter asks for, and its weight. -/
def weighted (entry : Value) : Value × Value :=
  match entry with
  | .record .weighted .. => (entry.member "value", entry.member "boost")
  | .map es =>
    match Entries.get? es "value" with
    | some v => (v, .ofOption (Entries.get? es "boost"))
    | none => (entry, .null)
  | v => (v, .null)

/-- The clause of one entry of a filter. -/
def filterClause (field : String) (entry : Value) : Option Clause :=
  match weighted entry with
  | (.null, _) => none
  | (v, .null) => some (.equals field (formatValue v) none)
  | (v, boost) => some (.equals field (formatValue v) (some (formatValue boost)))

/-- The clauses of the bounds of a field that are set. -/
def boundClauses (field : String) (bounds : Entries Value) : List Clause :=
  Comparison.all.filterMap fun c =>
    match bounds.get? c.name with
    | none | some .null => none
    | some v => some (.compares field c (formatValue v))

/-- The bounds that an entry of a range holds. -/
def boundsOf : Value → Except Misuse (Entries Value)
  | .null => .ok []
  | .map bounds => .ok bounds
  | v =>
    match v with
    | .record .bounds .. =>
      match Record.dump {} v with
      | .map bounds => .ok bounds
      | _ => .ok []
    | _ => .error .noMember

/-- The clauses of one entry of a range. -/
def rangeClauses (field : String) (entry : Value) : Except Misuse (List Clause) :=
  (boundsOf entry).map (boundClauses field)

/-- The clauses of the entries of a range. -/
def rangeEntryClauses : Entries Value → Except Misuse (List Clause)
  | [] => .ok []
  | (field, entry) :: entries => do
    let here ← rangeClauses field entry
    let later ← rangeEntryClauses entries
    return here ++ later

/-- The entries of a filter or range; whatever counts as absent has none. -/
def entriesOf (v : Value) : Except Misuse (Entries Value) :=
  if v.truthy then
    match v with
    | .map entries => .ok entries
    | _ => .error .noMember
  else .ok []

/-- The clauses of a filter and a range. -/
def clauses (filter range : Value) : Except Misuse (List Clause) := do
  let filterEntries ← entriesOf filter
  let rangeEntries ← entriesOf range
  let bounds ← rangeEntryClauses rangeEntries
  return filterEntries.filterMap (fun (field, entry) => filterClause field entry) ++ bounds

/-- The values that the clause of one entry of a filter shows. -/
def shownByFilter (entry : Value) : List Value :=
  match weighted entry with
  | (.null, _) => []
  | (v, boost) => [v, boost]

/-- The values that the clauses of one entry of a range show. -/
def shownByRange (entry : Value) : List Value :=
  Comparison.all.filterMap fun c => ((boundsOf entry).toOption.getD []).get? c.name

/-- The values that the clauses of a filter and a range show. -/
def shownInClauses (filter range : Value) : List Value :=
  ((entriesOf filter).toOption.getD []).flatMap (fun e => shownByFilter e.2) ++
    ((entriesOf range).toOption.getD []).flatMap fun e => shownByRange e.2

/-- The query of a filter and a range, empty if nothing is set. -/
def buildFilter (filter range : Value) : Except Misuse String :=
  (clauses filter range).map fun cs => String.ofList (renderClauses cs)

/-- The free text of a query; whatever counts as absent is empty. -/
def freeText (q : Value) : Except Misuse String :=
  if q.truthy then
    match q.asText? with
    | some s => .ok s
    | none => .error .wrongType
  else .ok ""

/-- The whole query: free text, a blank, and the clauses; nothing if all is empty. It can be written
    if the values in it can, which are those of `shownInClauses`. -/
def compile (q filter range : Value) : Except Misuse (Option String) := do
  let filterQuery ← buildFilter filter range
  let text ← freeText q
  match [text, filterQuery].filter (· ≠ "") with
  | [] => return none
  | parts => return some (" ".intercalate parts)

end SearchClient.Query
