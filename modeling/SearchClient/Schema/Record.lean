import SearchClient.Json.Writer
import SearchClient.Schema.Catalog
import SearchClient.Text.Utf8

set_option autoImplicit false

/-! # Records

`Record.check` makes a record from data or tells all issues. `Record.keep` makes one without any
check, so that nothing a server sends is lost. `Record.dump` gives the data of a record back, and
`Record.dumpText` its stored text. -/

namespace SearchClient.Record

open Schema

/-- A record of a model from data, or the issues of the data. -/
def check (model : Model) (data : Value) : Except Refusal Value :=
  ((Shape.record model (extrasOf model) (fieldsOf model)).check data).mapError fun issues =>
    ⟨model, issues⟩

/-! ## Records without a check -/

/-- Takes the declared fields out of the data, each by its name in data or else by its own; a
    missing one gets its default, or is absent if it has none. -/
def keepFields : List FieldRule → Entries Value → Entries Value × List String × Entries Value
  | [], data => ([], [], data)
  | f :: fs, data =>
    match (suppliedAs f.wire f.name data).bind fun key => (data.get? key).map (key, ·) with
    | some (key, v) =>
      let (fields, given, rest) := keepFields fs (data.erase key)
      ((f.name, v) :: fields, f.name :: given, rest)
    | none =>
      let (fields, given, rest) := keepFields fs data
      match f.default with
      | some v => ((f.name, v) :: fields, given, rest)
      | none => (fields, given, rest)

/-- A record of a model that takes the data as they are. Undeclared names are kept where the model
    keeps them, and do not count as given. -/
def keep (model : Model) (data : Entries Value) : Value :=
  let (fields, given, rest) := keepFields (fieldsOf model) data
  .record model fields (if extrasOf model = .kept then rest else []) given

/-! ## The data of a record -/

/-- How the data of a record are given back. -/
structure DumpOptions where
  /-- Whether fields go by their names in data. -/
  byWire : Bool := false
  /-- Whether members that are null are left out. -/
  omitNull : Bool := false
  /-- Whether fields that were not given are left out. -/
  omitUnset : Bool := false
  /-- Whether an undeclared member stands beside a field of its name instead of replacing it. -/
  keepRepeated : Bool := false

/-- The name of a field in the data given back. -/
def DumpOptions.nameOf (o : DumpOptions) (model : Model) (name : String) : String :=
  if o.byWire then wireOf model name else name

/-- The members of a record from those of its fields and its undeclared ones. -/
def DumpOptions.join (o : DumpOptions) (fields extra : Entries Value) : Entries Value :=
  if o.keepRepeated then fields ++ extra else fields.merge extra

mutual

/-- Replaces every record inside a value by its data. -/
def dump (o : DumpOptions) : Value → Value
  | .list items => .list (dumpItems o items)
  | .map entries => .map (dumpEntries o entries)
  | .record model fields extra given =>
    .map (o.join (dumpFields o model given fields) (dumpExtra o extra))
  | v => v

/-- Replaces the records in the items of a list. -/
def dumpItems (o : DumpOptions) : List Value → List Value
  | [] => []
  | v :: items => dump o v :: dumpItems o items

/-- Replaces the records in the entries of a map. -/
def dumpEntries (o : DumpOptions) : List (String × Value) → List (String × Value)
  | [] => []
  | (name, v) :: entries => (name, dump o v) :: dumpEntries o entries

/-- The data of the declared fields of a record. -/
def dumpFields (o : DumpOptions) (model : Model) (given : List String) :
    List (String × Value) → List (String × Value)
  | [] => []
  | (name, v) :: fields =>
    if (o.omitNull && v.isNull) || (o.omitUnset && !given.contains name) then
      dumpFields o model given fields
    else (o.nameOf model name, dump o v) :: dumpFields o model given fields

/-- The data of the undeclared members of a record. -/
def dumpExtra (o : DumpOptions) : List (String × Value) → List (String × Value)
  | [] => []
  | (name, v) :: extra =>
    if o.omitNull && v.isNull then dumpExtra o extra
    else (name, dump o v) :: dumpExtra o extra

end

/-! ## Stored texts -/

mutual

/-- Writes the dates inside a value as texts, and the octets that are text. -/
def plain : Value → Value
  | .list items => .list (plainItems items)
  | .map entries => .map (plainEntries entries)
  | .date d => .text d.isoText
  | .dateTime t => .text t.zuluText
  | .octets bs =>
    match Text.Utf8.decode bs with
    | .ok cs => .text (String.ofList cs)
    | .error _ => .octets bs
  | v => v

/-- Writes the dates and octets inside the items of a list. -/
def plainItems : List Value → List Value
  | [] => []
  | v :: items => plain v :: plainItems items

/-- Writes the dates and octets inside the entries of a map. -/
def plainEntries : List (String × Value) → List (String × Value)
  | [] => []
  | (name, v) :: entries => (name, plain v) :: plainEntries entries

end

/-- The stored text of a record, if all its parts can be stored. -/
def dumpText? (o : DumpOptions) (v : Value) : Option String :=
  Json.write? .compact (plain (dump { o with keepRepeated := true } v))

/-- The stored text of a record, empty if it has none. -/
def dumpText (o : DumpOptions) (v : Value) : String :=
  (dumpText? o v).getD ""

end SearchClient.Record
