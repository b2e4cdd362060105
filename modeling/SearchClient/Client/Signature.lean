import SearchClient.Client.Operation

set_option autoImplicit false

/-! # Calls by name

Operations are called by name, with positional and named arguments. A `Signature` says which ones
an operation takes. A search takes any further names as overrides, except those that stand for
parts of the call itself. -/

namespace SearchClient.Client

/-- A parameter, with its default unless it is required. -/
abbrev Parameter := String × Option Value

/-- The parameters that a call takes. -/
structure Signature where
  positional : List Parameter
  /-- Parameters that are given by name only. -/
  named : List Parameter := []
  /-- Whether further names are taken, too. -/
  extensible : Bool := false

namespace Signature

/-- Arguments by the names of their parameters, and further named ones. -/
structure Bound where
  arguments : Entries Value
  further : Entries Value

/-- The value of an argument, null if it is not there. -/
def Bound.get (b : Bound) (name : String) : Value :=
  .ofOption (b.arguments.get? name)

/-- Pairs positional arguments with their parameters. -/
def bindPositional : List Parameter → List Value → Except Misuse (Entries Value × List Parameter)
  | ps, [] => .ok ([], ps)
  | [], _ :: _ => .error .wrongType
  | (name, _) :: ps, v :: vs =>
    (bindPositional ps vs).map fun (bound, rest) => ((name, v) :: bound, rest)

/-- Looks parameters up among named arguments, and takes their defaults. -/
def bindNamed (given : Entries Value) : List Parameter → Except Misuse (Entries Value)
  | [] => .ok []
  | (name, default) :: ps => do
    let v ←
      match (given.get? name).or default with
      | some v => Except.ok v
      | none => Except.error Misuse.wrongType
    return (name, v) :: (← bindNamed given ps)

/-- Binds arguments to parameters; `reserved` names cannot be given. -/
def bind (s : Signature) (reserved : List String) (args : List Value) (given : Entries Value) :
    Except Misuse Bound := do
  let (bound, rest) ← bindPositional s.positional args
  let pending := rest ++ s.named
  let further := given.filter fun (name, _) => !pending.any (·.1 = name)
  let clash := further.any fun (name, _) => bound.has name || reserved.contains name
  if clash || (!s.extensible && !further.isEmpty) then throw .wrongType
  let arguments ← bindNamed given pending
  return ⟨bound ++ arguments, further⟩

end Signature

/-- A required parameter. -/
def required (name : String) : Parameter :=
  (name, none)

/-- A parameter that is null unless it is given. -/
def omittable (name : String) : Parameter :=
  (name, some .null)

/-- An operation that can be called by name. -/
structure Method where
  name : String
  signature : Signature
  build : Signature.Bound → Operation

/-- A request for a state of an ingress. -/
def stateMethod (name state : String) : Method :=
  ⟨name, { positional := [required "index_id", required "ingress_id"] },
    fun b => .updateIngress (b.get "index_id") (b.get "ingress_id") (.text state)⟩

/-- All operations by name. -/
def methods : List Method :=
  [⟨"create_index", { positional := [required "id", omittable "primary_key"] },
      fun b => .createIndex (b.get "id") (b.get "primary_key")⟩,
   ⟨"update_index", { positional := [required "id", required "config"] },
      fun b => .updateIndex (b.get "id") (b.get "config")⟩,
   ⟨"delete_index", { positional := [required "id"] }, fun b => .deleteIndex (b.get "id")⟩,
   ⟨"get_index", { positional := [required "id"] }, fun b => .getIndex (b.get "id")⟩,
   ⟨"index_exists", { positional := [required "id"] }, fun b => .indexExists (b.get "id")⟩,
   ⟨"add_documents",
      { positional := [required "index_id", required "documents"]
        named := [("format", some (.text "jsoneachrow")), omittable "primary_key"] },
      fun b => .addDocuments (b.get "index_id") (b.get "documents") (b.get "format")
        (b.get "primary_key")⟩,
   ⟨"update_document",
      { positional := [required "index_id", required "document_id", required "updates"] },
      fun b => .updateDocument (b.get "index_id") (b.get "document_id") (b.get "updates")⟩,
   ⟨"delete_document", { positional := [required "index_id", required "document_id"] },
      fun b => .deleteDocument (b.get "index_id") (b.get "document_id")⟩,
   ⟨"delete_documents",
      { positional := [required "index_id"], named := [omittable "ids", omittable "filter"] },
      fun b => .deleteDocuments (b.get "index_id") (b.get "ids") (b.get "filter")⟩,
   ⟨"search", { positional := [required "index_id", omittable "params"], extensible := true },
      fun b => .search (b.get "index_id") (b.get "params") b.further⟩,
   ⟨"list_ingresses", { positional := [required "index_id"] },
      fun b => .listIngresses (b.get "index_id")⟩,
   ⟨"create_ingress", { positional := [required "index_id", required "params"] },
      fun b => .createIngress (b.get "index_id") (b.get "params")⟩,
   ⟨"get_ingress", { positional := [required "index_id", required "ingress_id"] },
      fun b => .getIngress (b.get "index_id") (b.get "ingress_id")⟩,
   ⟨"ingress_exists", { positional := [required "index_id", required "ingress_id"] },
      fun b => .ingressExists (b.get "index_id") (b.get "ingress_id")⟩,
   ⟨"update_ingress",
      { positional := [required "index_id", required "ingress_id", required "state"] },
      fun b => .updateIngress (b.get "index_id") (b.get "ingress_id") (b.get "state")⟩,
   stateMethod "pause_ingress" "paused",
   stateMethod "resume_ingress" "running",
   stateMethod "resync_ingress" "resyncing",
   ⟨"delete_ingress", { positional := [required "index_id", required "ingress_id"] },
      fun b => .deleteIngress (b.get "index_id") (b.get "ingress_id")⟩]

/-- The operation of a name. -/
def method? (name : String) : Option Method :=
  methods.find? (·.name = name)

end SearchClient.Client
