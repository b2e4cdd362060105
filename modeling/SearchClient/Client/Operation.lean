import SearchClient.Client.Document
import SearchClient.Client.Reply
import SearchClient.Http.Executor
import SearchClient.Query.Search

set_option autoImplicit false

/-! # Operations

Every operation sends one request. Its path is made of fixed words and ids, each id encoded as one
segment. `Operation.call` says what is sent, or why nothing is, as long as no integer in the address
is too long to be written (`Operation.isLegible`); `Operation.conclude` says what the decoded reply
becomes. -/

namespace SearchClient.Client

open Failure (Problem)
open Http (Plan Settled Executor Params Body)
open Logging (Event Level)

/-- An operation with its arguments. -/
inductive Operation where
  | createIndex (id primaryKey : Value)
  | updateIndex (id config : Value)
  | deleteIndex (id : Value)
  | getIndex (id : Value)
  | indexExists (id : Value)
  | addDocuments (index documents format primaryKey : Value)
  | updateDocument (index document updates : Value)
  | deleteDocument (index document : Value)
  | deleteDocuments (index ids filter : Value)
  | search (index params : Value) (overrides : Entries Value)
  | listIngresses (index : Value)
  | createIngress (index params : Value)
  | getIngress (index ingress : Value)
  | ingressExists (index ingress : Value)
  | updateIngress (index ingress state : Value)
  | deleteIngress (index ingress : Value)

/-- What an operation sends. -/
structure Call where
  method : String
  path : String
  params : Params := []
  body : Body := .none
  events : List Event := []

/-- A part of a path. -/
inductive Part where
  | word (s : String)
  | id (v : Value)

/-- The segment of a part. -/
def Part.segment : Part → String
  | .word s => s
  | .id v => Text.Percent.segment v.displayText

namespace Operation

/-- The parts of the path of an operation. -/
def parts : Operation → List Part
  | createIndex .. => [.word "indexes"]
  | updateIndex id _ | deleteIndex id | getIndex id | indexExists id => [.word "indexes", .id id]
  | addDocuments index .. | deleteDocuments index .. =>
    [.word "indexes", .id index, .word "documents"]
  | updateDocument index document _ | deleteDocument index document =>
    [.word "indexes", .id index, .word "documents", .id document]
  | search index .. => [.word "indexes", .id index, .word "searches"]
  | listIngresses index | createIngress index _ =>
    [.word "indexes", .id index, .word "ingresses"]
  | getIngress index ingress | ingressExists index ingress | updateIngress index ingress _
  | deleteIngress index ingress =>
    [.word "indexes", .id index, .word "ingresses", .id ingress]

/-- The method of the request of an operation. -/
def method : Operation → String
  | createIndex .. | addDocuments .. | search .. | createIngress .. => "POST"
  | updateIndex .. | updateDocument .. | updateIngress .. => "PATCH"
  | deleteIndex _ | deleteDocument .. | deleteDocuments .. | deleteIngress .. => "DELETE"
  | getIndex _ | indexExists _ | listIngresses _ | getIngress .. | ingressExists .. => "GET"

/-- The path of an operation. -/
def path (op : Operation) : String :=
  String.join (op.parts.map fun p => "/" ++ p.segment)

/-- What an operation sends without parameters and content. -/
def bare (op : Operation) : Call :=
  { method := op.method, path := op.path }

/-! ## What is sent -/

/-- A parameter that is sent only if its value counts as present. -/
def present (name : String) (v : Value) : Params :=
  if v.truthy then [(name, v)] else []

/-- The data of a new configuration of an index: what was given to a configuration, or a map. -/
def indexData (config : Value) : Except Misuse Value :=
  match config with
  | .record .index .. => .ok (Record.dump { byWire := true, omitUnset := true } config)
  | v => do return .map (← Value.named (← v.toPairs))

/-- The event that announces an upload. -/
def uploadEvent (count : Nat) (index : Value) : Event :=
  ⟨Level.debug, Reply.logger, String.ofList ("Uploading ".toList ++ Decimal.ofNat count ++
    " documents to index ".toList ++ index.display)⟩

/-- The ids of a delete; whatever counts as absent has none. -/
def deleteIds (ids : Value) : Except Misuse Params :=
  if ids.truthy then
    ids.elements.map fun vs => vs.map fun v => ("ids[]", .text v.displayText)
  else .ok []

/-- The filter of a delete: a map becomes a query. -/
def deleteFilter (filter : Value) : Except Misuse Params :=
  match filter with
  | .map _ => (Query.buildFilter filter .null).map fun s => present "filter" (.text s)
  | v => .ok (present "filter" v)

/-- The given members of the parameters of a search. -/
def givenMembers (params : Value) : Except Misuse (Entries Value) :=
  match params with
  | .record _ _ _ given => .ok (given.map fun name => (name, params.member name))
  | _ => .error .noMember

/-- The parameters of a search: overrides alone, or over the given members of parameters. -/
def searchParams (params : Value) (overrides : Entries Value) : Except Problem Value :=
  match params with
  | .null => (Record.check .search (.map overrides)).mapError .refused
  | params =>
    if overrides.isEmpty then .ok params
    else do
      let current ← (givenMembers params).mapError .misuse
      (Record.check .search (.map (Entries.merge current overrides))).mapError .refused

/-- What an operation sends, or why it sends nothing. -/
def call (op : Operation) : Except Problem Call :=
  match op with
  | createIndex id primaryKey =>
    .ok { op.bare with params := ("id", id) :: present "primaryKey" primaryKey }
  | updateIndex _ config => do
    let data ← (indexData config).mapError .misuse
    return { op.bare with body := .json data }
  | addDocuments index documents format primaryKey => do
    let lines ← (documents.elements >>= Document.lines).mapError .misuse
    let format := if format.truthy then format else .text "jsoneachrow"
    return { op.bare with
      params := ("format", format) :: present "primaryKey" primaryKey
      body := .content ("\n".intercalate lines)
      events := [uploadEvent lines.length index] }
  | updateDocument _ _ updates => do
    let data ← (Document.data updates).mapError .misuse
    return { op.bare with body := .json data }
  | deleteDocuments _ ids filter => do
    let ids ← (deleteIds ids).mapError .misuse
    let filter ← (deleteFilter filter).mapError .misuse
    return { op.bare with params := ids ++ filter }
  | search _ params overrides => do
    let params ← searchParams params overrides
    let pairs ← (Query.searchPairs params).mapError .misuse
    return { op.bare with params := pairs.map fun (name, s) => (name, .text s) }
  | createIngress _ params => do
    let data ← (Document.data params).mapError .misuse
    return { op.bare with body := .json data }
  | updateIngress _ _ state => .ok { op.bare with body := .json (.map [("state", state)]) }
  | deleteIndex _ | getIndex _ | indexExists _ | deleteDocument .. | listIngresses _
  | getIngress .. | ingressExists .. | deleteIngress .. => .ok op.bare

/-- The values whose texts stand in the address of an operation: the ids of its path, and those that
    its parameters show. -/
def shown (op : Operation) : List Value :=
  let ids := op.parts.filterMap fun | .id v => some v | .word _ => none
  let values :=
    match op with
    | createIndex id primaryKey => [id, primaryKey]
    | addDocuments _ _ format primaryKey => [format, primaryKey]
    | deleteDocuments _ ids filter =>
      let values := match filter with | .map _ => Query.shownInClauses filter .null | v => [v]
      ids.elements.toOption.getD [] ++ values
    | search _ params overrides =>
      (searchParams params overrides).toOption.elim [] Query.shownInSearch
    | _ => []
  ids ++ values

/-- Whether the values in the address of an operation can be written. -/
def isLegible (op : Operation) : Bool :=
  op.shown.all Value.isShort

/-! ## What comes back -/

/-- Whether something exists: a failure of the category that says so means no. -/
def concludeExists (result : Except Problem Value) : Settled :=
  match result with
  | .ok _ => .quiet (.ok (.bool true))
  | .error (.reported r) =>
    if r.category = .notFound then .quiet (.ok (.bool false)) else .quiet (.error (.reported r))
  | .error e => .quiet (.error e)

/-- What a decoded reply becomes. -/
def concludeValue (op : Operation) (v : Value) : Settled :=
  match op with
  | createIndex .. | updateIndex .. | getIndex _ => Reply.wrap .index v
  | addDocuments .. => Reply.wrap .upload (Reply.orEmpty v)
  | search .. => Reply.wrap .results (Reply.orEmpty v)
  | listIngresses _ => .quiet ((Reply.listIngresses v).mapError .misuse)
  | createIngress .. | getIngress .. | updateIngress .. =>
    .quiet ((Reply.wrapIngress v).mapError .misuse)
  | updateDocument .. => .quiet (.ok v)
  | deleteIndex _ | deleteDocument .. | deleteDocuments .. | deleteIngress .. =>
    .quiet (.ok .null)
  | indexExists _ | ingressExists .. => .quiet (.ok (.bool true))

/-- What the result of the request becomes. -/
def conclude (op : Operation) (result : Except Problem Value) : Settled :=
  match op with
  | indexExists _ | ingressExists .. => concludeExists result
  | op =>
    match result with
    | .ok v => op.concludeValue v
    | .error e => .quiet (.error e)

/-- The plan of an operation. -/
def plan (x : Executor) (op : Operation) : Plan :=
  match op.call with
  | .error e => .refuse e
  | .ok c =>
    let sent := x.plan c.method c.path c.params c.body []
    match Executor.bodyText c.body, op.isLegible with
    | .ok _, false => .refuse (.misuse .tooLong)
    | _, _ => { sent.followedBy op.conclude with events := c.events ++ sent.events }

end Operation

end SearchClient.Client
