import SearchClient.Calendar
import SearchClient.Decimal.Binary64
import SearchClient.Failure.Taxonomy
import SearchClient.Value.Entries

set_option autoImplicit false

/-! # Values

What callers hand in and get back: plain data as in a JSON text, dates, members of the failure
taxonomy, and records of a model. A record keeps its declared fields, the undeclared ones it was
given, and the names that were given explicitly. -/

namespace SearchClient

/-- A member of the failure taxonomy, as data. -/
inductive Symbol where
  | code (c : Failure.Code)
  | kind (k : Failure.Kind)
  | category (c : Failure.Category)
deriving DecidableEq

namespace Symbol

/-- The text that the member stands for. -/
def wire : Symbol → String
  | .code c => c.wire
  | .kind k => k.wire
  | .category c => c.wire

/-- The name of the enumeration. -/
def family : Symbol → String
  | .code _ => "ErrorCode"
  | .kind _ => "ErrorKind"
  | .category _ => "ErrorCategory"

/-- The enumeration and the name of the member in it. -/
def qualified (s : Symbol) : String :=
  s.family ++ "." ++ s.wire.toUpper

end Symbol

/-- The models of records. -/
inductive Model where
  /-- The configuration of an index. -/
  | index
  /-- The acknowledgement of an upload. -/
  | upload
  /-- The settings of a connector to a PostgreSQL table. -/
  | postgresConfig
  /-- The counters of an ingress. -/
  | statistics
  /-- An ingress from a PostgreSQL table. -/
  | postgresIngress
  /-- An ingress of any other type. -/
  | genericIngress
  /-- The request for an ingress of any type. -/
  | newIngress
  /-- The request for an ingress from a PostgreSQL table. -/
  | newPostgresIngress
  /-- A value to match, with an optional weight. -/
  | weighted
  /-- The bounds of a range. -/
  | bounds
  /-- A field to sort on. -/
  | sortKey
  /-- The parameters of a search. -/
  | search
  /-- The results of a search. -/
  | results
  /-- The settings of logging. -/
  | observability
  /-- The settings of a client. -/
  | settings
deriving DecidableEq

/-- The name of a model in messages and data. -/
def Model.title : Model → String
  | .index => "IndexConfig"
  | .upload => "AddDocumentsResult"
  | .postgresConfig => "PostgresIngressConfig"
  | .statistics => "IngressStatistics"
  | .postgresIngress => "PostgresIngress"
  | .genericIngress => "GenericIngress"
  | .newIngress => "CreateIngressParams"
  | .newPostgresIngress => "CreatePostgresIngressParams"
  | .weighted => "FieldValue"
  | .bounds => "RangeFilter"
  | .sortKey => "SortSpec"
  | .search => "SearchParams"
  | .results => "SearchResponse"
  | .observability => "ObservabilitySettings"
  | .settings => "ClientSettings"

/-- A value. -/
inductive Value where
  | null
  | bool (b : Bool)
  | int (n : Int)
  | float (x : Binary64)
  | text (s : String)
  | list (items : List Value)
  | map (entries : List (String × Value))
  | date (d : Date)
  | dateTime (t : DateTime)
  | symbol (s : Symbol)
  /-- Octets that need not be text. -/
  | octets (bs : List UInt8)
  /-- A member of a record, as it is met when the record is gone through. -/
  | pair (name : String) (v : Value)
  | record (model : Model) (fields extra : List (String × Value)) (given : List String)

instance : Inhabited Value :=
  ⟨.null⟩

namespace Value

/-- Whether a value is null. -/
def isNull : Value → Bool
  | .null => true
  | _ => false

/-- Whether a value counts as present: not null, false, zero or empty. -/
def truthy : Value → Bool
  | .null => false
  | .bool b => b
  | .int n => n != 0
  | .float x => !x.isZero
  | .text s => !s.isEmpty
  | .list items => !items.isEmpty
  | .map entries => !entries.isEmpty
  | .octets bs => !bs.isEmpty
  | .date _ | .dateTime _ | .symbol _ | .pair .. | .record .. => true

/-- The characters of a text value: a text, or a member of the taxonomy by its wire text. -/
def asText? : Value → Option String
  | .text s => some s
  | .symbol s => some s.wire
  | _ => none

/-- A value or null. -/
def ofOption : Option Value → Value
  | some v => v
  | none => .null

/-- The field or extra of a record. -/
def member? : Value → String → Option Value
  | .record _ fields extra _, name =>
    (Entries.get? fields name).or (Entries.get? extra name)
  | _, _ => none

/-- A field or extra of a record, null if it has none of that name. -/
def member (v : Value) (name : String) : Value :=
  .ofOption (v.member? name)

/-- A text, or null. -/
def ofText? (s : Option String) : Value :=
  .ofOption (s.map .text)

end Value

end SearchClient
