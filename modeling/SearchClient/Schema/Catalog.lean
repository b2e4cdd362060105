import SearchClient.Schema.Shape

set_option autoImplicit false

/-! # The models

The declared fields of every model, in order, with what becomes of undeclared names. Replies of a
server may hold names that no field declares, so their models keep them; the parameters of a search
and the settings allow none. -/

namespace SearchClient.Schema

namespace FieldRule

/-- A field that must be given. -/
def required (name : String) (shape : Shape) : FieldRule :=
  ⟨name, name, shape, none⟩

/-- A field with a default. -/
def defaulted (name : String) (shape : Shape) (default : Value) : FieldRule :=
  ⟨name, name, shape, some default⟩

/-- A field that may be null and is so unless it is given. -/
def nullable (name : String) (shape : Shape) : FieldRule :=
  ⟨name, name, .optional shape, some .null⟩

/-- Gives a field another name in data. -/
def wiredAs (f : FieldRule) (wire : String) : FieldRule :=
  { f with wire := wire }

end FieldRule

open FieldRule

/-! ## Indexes -/

/-- The fields of the configuration of an index. -/
def indexFields : List FieldRule :=
  [required "id" .text,
   (nullable "primary_key" .text).wiredAs "primaryKey"]

/-- The fields of the acknowledgement of an upload. -/
def uploadFields : List FieldRule :=
  [defaulted "indexed" (.integer none) (.int 0)]

/-! ## Ingresses -/

/-- The fields of the settings of a connector to a PostgreSQL table. -/
def postgresConfigFields : List FieldRule :=
  [nullable "dsn" .text,
   nullable "table" .text,
   (nullable "schema_" .text).wiredAs "schema",
   nullable "primary_key" .text,
   nullable "columns" (.list .text),
   nullable "column_mapping" (.map .text),
   nullable "updated_at_column" .text,
   nullable "where_clause" .text,
   nullable "sync_mode" (.oneOf ["polling", "listen"]),
   nullable "poll_interval" .text,
   nullable "batch_size" (.integer none),
   nullable "auto_triggers" .boolean]

/-- The shape of the settings of a connector to a PostgreSQL table. -/
def postgresConfigShape : Shape :=
  .record .postgresConfig .kept postgresConfigFields

/-- The fields of the counters of an ingress. -/
def statisticsFields : List FieldRule :=
  [nullable "last_sync_at" .text,
   defaulted "documents_synced" (.integer none) (.int 0),
   defaulted "documents_deleted" (.integer none) (.int 0),
   defaulted "full_sync_complete" .boolean (.bool false),
   nullable "last_error" .text,
   defaulted "error_count" (.integer none) (.int 0)]

/-- The counters of an ingress that has reported none. -/
def noStatistics : Value :=
  .record .statistics
    [("last_sync_at", .null), ("documents_synced", .int 0), ("documents_deleted", .int 0),
     ("full_sync_complete", .bool false), ("last_error", .null), ("error_count", .int 0)] [] []

/-- The states in which an ingress is known to be. -/
def ingressStates : List String :=
  ["stopped", "starting", "running", "syncing", "paused", "failed"]

/-- The fields that every ingress has. -/
def ingressFields : List FieldRule :=
  [required "id" .text,
   required "index_id" .text,
   defaulted "status" (.oneOfOrText ingressStates) (.text "stopped"),
   defaulted "statistics" (.record .statistics .kept statisticsFields) noStatistics]

/-- The fields of an ingress from a PostgreSQL table. -/
def postgresIngressFields : List FieldRule :=
  ingressFields ++
    [defaulted "type" (.oneOf ["postgres"]) (.text "postgres"),
     required "config" postgresConfigShape]

/-- The fields of an ingress of any type. -/
def genericIngressFields : List FieldRule :=
  ingressFields ++
    [required "type" .text,
     defaulted "config" (.map .anything) (.map [])]

/-- The fields of the request for an ingress of any type. -/
def newIngressFields : List FieldRule :=
  [required "id" .text,
   required "type" .text,
   defaulted "config" (.map .anything) (.map [])]

/-- The fields of the request for an ingress from a PostgreSQL table. -/
def newPostgresIngressFields : List FieldRule :=
  [required "id" .text,
   defaulted "type" (.oneOf ["postgres"]) (.text "postgres"),
   required "config" postgresConfigShape]

/-! ## Searches -/

/-- The fields of a value to match. -/
def weightedFields : List FieldRule :=
  [required "value" .anything,
   nullable "boost" .number]

/-- The fields of the bounds of a range. -/
def boundsFields : List FieldRule :=
  ["gt", "gte", "lt", "lte"].map fun name => defaulted name .anything .null

/-- The fields of a field to sort on. -/
def sortKeyFields : List FieldRule :=
  [required "field" .text,
   defaulted "order" (.oneOf ["asc", "desc"]) (.text "asc")]

/-- The fields of the parameters of a search. -/
def searchFields : List FieldRule :=
  [nullable "q" .text,
   nullable "filter" (.map .anything),
   nullable "range" (.map .anything),
   nullable "offset" (.integer (some 0)),
   nullable "limit" (.integer (some 0)),
   nullable "page" (.integer (some 0)),
   nullable "sort" (.list .anything),
   nullable "attributes_to_retrieve" (.list .text),
   nullable "attributes_to_exclude" (.list .text)]

/-- The fields of the results of a search. -/
def resultsFields : List FieldRule :=
  [defaulted "hits" (.list (.map .anything)) (.list []),
   (defaulted "total_hits" (.integer none) (.int 0)).wiredAs "totalHits",
   (defaulted "total_pages" (.integer none) (.int 0)).wiredAs "totalPages"]

/-! ## Settings -/

/-- The fields of the settings of logging. -/
def observabilityFields : List FieldRule :=
  [defaulted "log_level" .text (.text "info"),
   defaulted "log_format" .text (.text "json")]

/-- The settings of logging where none are given. -/
def defaultObservability : Value :=
  .record .observability [("log_level", .text "info"), ("log_format", .text "json")] [] []

/-- The fields of the settings of a client. -/
def settingsFields : List FieldRule :=
  [defaulted "base_url" .address (.text "http://localhost:3000"),
   defaulted "api_key" .text (.text ""),
   defaulted "timeout" .positive (.float (.ofInt 30)),
   defaulted "observability" (.record .observability .ignored observabilityFields)
     defaultObservability]

/-! ## The catalog -/

/-- What becomes of names that a model does not declare. -/
def extrasOf : Model → Extras
  | .index | .upload | .postgresConfig | .statistics | .postgresIngress | .genericIngress
  | .results => .kept
  | .search | .settings => .forbidden
  | .newIngress | .newPostgresIngress | .weighted | .bounds | .sortKey | .observability => .ignored

/-- The declared fields of a model. -/
def fieldsOf : Model → List FieldRule
  | .index => indexFields
  | .upload => uploadFields
  | .postgresConfig => postgresConfigFields
  | .statistics => statisticsFields
  | .postgresIngress => postgresIngressFields
  | .genericIngress => genericIngressFields
  | .newIngress => newIngressFields
  | .newPostgresIngress => newPostgresIngressFields
  | .weighted => weightedFields
  | .bounds => boundsFields
  | .sortKey => sortKeyFields
  | .search => searchFields
  | .results => resultsFields
  | .observability => observabilityFields
  | .settings => settingsFields

/-- The name that a field of a model has in data. -/
def wireOf (model : Model) (name : String) : String :=
  match (fieldsOf model).find? (·.name = name) with
  | some f => f.wire
  | none => name

end SearchClient.Schema
