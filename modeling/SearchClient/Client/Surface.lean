import SearchClient.Client.Signature

set_option autoImplicit false

/-! # Surfaces

Operations are called on a client or on a handle, which is bound to one index; both come in an
asynchronous and a blocking form. A handle has the operations on its index under their own names,
and puts its index in front of the arguments. The blocking forms go through their iterable
arguments before the call. -/

namespace SearchClient.Client

/-- What an operation is called on. -/
structure Surface where
  blocking : Bool
  /-- The index that a handle is bound to. -/
  index : Option Value := none

/-- The names of operations on a handle, with those on a client. -/
def handleNames : List (String × String) :=
  [("get", "get_index"), ("exists", "index_exists"), ("update", "update_index"),
   ("delete", "delete_index"), ("add_documents", "add_documents"),
   ("update_document", "update_document"), ("delete_document", "delete_document"),
   ("delete_documents", "delete_documents"), ("search", "search"),
   ("list_ingresses", "list_ingresses"), ("create_ingress", "create_ingress"),
   ("get_ingress", "get_ingress"), ("ingress_exists", "ingress_exists"),
   ("update_ingress", "update_ingress"), ("delete_ingress", "delete_ingress")]

/-- Goes through a value once, ahead of its use. -/
def materialize (v : Value) : Except Misuse Value :=
  v.elements.map .list

/-- Goes through the iterable arguments of an operation. -/
def Operation.materialized (op : Operation) : Except Misuse Operation :=
  match op with
  | .addDocuments index documents format primaryKey => do
    return .addDocuments index (← materialize documents) format primaryKey
  | .deleteDocuments index ids filter =>
    match ids with
    | .null => .ok op
    | ids => do return .deleteDocuments index (← materialize ids) filter
  | op => .ok op

namespace Surface

/-- The names that a search cannot take as overrides. -/
def reserved (s : Surface) : List String :=
  ["self"] ++ (if s.blocking then ["method"] else []) ++
    (if s.index.isSome then ["index_id"] else [])

/-- The text that shows a handle. -/
def text (s : Surface) : String :=
  match s.index with
  | some id => (if s.blocking then "SyncIndexHandle(id=" else "IndexHandle(id=") ++
      id.literalText ++ ")"
  | none => if s.blocking then "BrightClient" else "AsyncBrightClient"

/-- Binds the arguments of an operation; on a handle its index is the first of them. -/
def bind (s : Surface) (m : Method) (args : List Value) (given : Entries Value) :
    Except Misuse Signature.Bound :=
  match s.index, m.signature.positional with
  | some id, (name, _) :: positional => do
    let b ← ({ m.signature with positional := positional }).bind s.reserved args given
    return { b with arguments := (name, id) :: b.arguments }
  | _, _ => m.signature.bind s.reserved args given

/-- The operation that a name stands for. -/
def method? (s : Surface) (name : String) : Option Method :=
  match s.index with
  | some _ => (handleNames.lookup name).bind Client.method?
  | none => Client.method? name

/-- The operation of a call. -/
def operation (s : Surface) (name : String) (args : List Value) (given : Entries Value) :
    Except Misuse Operation := do
  match s.method? name with
  | none => throw .noMember
  | some m =>
    let op := m.build (← s.bind m args given)
    if s.blocking then op.materialized else return op

end Surface

/-- The address and key of a client. -/
structure Connection where
  baseUrl : String
  apiKey : Option String

namespace Connection

/-- A connection to an address, without the slashes at its end. -/
def of (baseUrl : String) (apiKey : Option String) : Connection :=
  ⟨Schema.withoutSlashes baseUrl, apiKey⟩

/-- The executor of a connection. -/
def executor (c : Connection) : Except Failure.Problem Http.Executor :=
  match (Http.Address.parse? c.baseUrl).bind Http.Address.asBase? with
  | some base => .ok ⟨base, c.apiKey⟩
  | none => .error .badAddress

/-- What a call on a surface of the client is going to do. -/
def plan (c : Connection) (s : Surface) (name : String) (args : List Value)
    (given : Entries Value) : Http.Plan :=
  match (s.operation name args given).mapError Failure.Problem.misuse, c.executor with
  | .ok op, .ok x => op.plan x
  | .error e, _ => .refuse e
  | .ok _, .error e => .refuse e

end Connection

end SearchClient.Client
