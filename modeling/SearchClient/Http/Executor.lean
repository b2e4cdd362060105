import SearchClient.Http.Exchange
import SearchClient.Json.Reader
import SearchClient.Json.Writer
import SearchClient.Text.Capital
import SearchClient.Text.Encoding

set_option autoImplicit false

/-! # Executing requests

A request goes to a path behind the base address. A response outside the range of success is
reported as a failure, with the envelope in its body or else the phrase of its status; an empty
reply is null, and any other reply is its decoded body. Nothing is sent twice. -/

namespace SearchClient.Http

open Failure (Problem Report)
open Logging (Event Level)

/-- Where requests go, and the key that they carry. -/
structure Executor where
  base : Address
  apiKey : Option String

/-- What a request carries. -/
inductive Body where
  | none
  /-- A text as it is. -/
  | content (s : String)
  /-- A value that is written as JSON. -/
  | json (v : Value)

namespace Executor

/-- The logger of requests. -/
def logger : String :=
  "bright.client.transport"

/-- The value that the octets of a body hold. -/
def decodeBody (body : List UInt8) : Except Problem Value := do
  let cs ← (Text.decodeDetected body).mapError .undecodable
  (Json.read cs).mapError .json

/-- What stands in for the halves of surrogate pairs in the data of a body. -/
def halves (body : List UInt8) : List Char :=
  match Text.decodeDetected body with
  | .ok cs => (Text.Encoding.detect body).halves body ++ Json.escapedHalves cs
  | .error _ => []

/-- The envelope in the body of a failed response; what it lacks is made up from the phrase. -/
def envelope (r : Response) : Entries Value :=
  let phrase : Value := .text r.phrase
  match decodeBody r.body with
  | .ok (.map es) =>
    match Entries.get? es "error" with
    | some v => if v.truthy then es else Entries.put es "error" phrase
    | none => Entries.put es "error" phrase
  | _ => [("error", phrase)]

/-- The message of a failed request in the log. -/
def failureText (method path : String) (r : Report) : String :=
  String.ofList (method.toList ++ ' ' :: path.toList ++ " failed with HTTP ".toList ++
    r.status.displayText.toList ++ " (".toList ++ r.kind.wire.toList ++ "): ".toList ++
    r.message.toList)

/-- How the outcome of a request is settled. -/
def settle (method path : String) : Outcome → Settled
  | .interrupted cause message =>
    if connectionFailures.contains cause then
      let text := "Request " ++ method ++ " " ++ path ++ " failed: " ++ message
      .quiet (.error (.reported (.unreachable text (some cause))))
    else .quiet (.error (.interrupted cause))
  | .response r =>
    if r.isSuccess then
      if r.status = 204 then .quiet (.ok .null) else .quiet (decodeBody r.body)
    else
      let report := Report.ofEnvelope (.int r.status) (envelope r)
      ⟨[⟨Level.warning, logger, failureText method path report⟩], .error (.reported report)⟩

/-- The text of what a request carries. -/
def bodyText : Body → Except Problem String
  | .none => .ok ""
  | .content s => .ok s
  | .json v => (Json.content v).mapError .misuse

/-- An address that has to be there. -/
def addressed : Option Address → Except Problem Address
  | some a => .ok a
  | Option.none => .error .badAddress

/-- The request that is sent. -/
def request (x : Executor) (method path : String) (params : Params) (body : String)
    (extra : Entries Value) : Except Problem Request := do
  let address ← addressed (x.base.resolve? path)
  let headers ← Headers.check (Headers.build x.apiKey extra)
  let headers := headers.forAddress address
  let address ← addressed ((params.query?.map address.withQuery?).getD (some address))
  headers.checkHost address
  return {
    method := Text.upper method
    url := String.ofList address.render
    headers, body }

/-- Whether an address says by its scheme how it is reached. -/
def namesScheme (url : String) : Bool :=
  let (scheme, rest) := url.toList.span fun c => c != ':' && c != '/'
  !scheme.isEmpty && rest.head? = some ':'

/-- How the outcome of a request to an address is settled. No response counts that does not come
    from an address with a scheme. -/
def settleAt (url method path : String) (outcome : Outcome) : Settled :=
  match outcome with
  | .response _ =>
    if namesScheme url then settle method path outcome else .quiet (.error (.noScheme url))
  | .interrupted .. => settle method path outcome

/-- The plan of one request. -/
def plan (x : Executor) (method path : String) (params : Params) (body : Body)
    (extra : Entries Value) : Plan :=
  match bodyText body with
  | .error p => .refuse p
  | .ok text =>
    let announcement := String.ofList (method.toList ++ ' ' :: path.toList ++
      " params=".toList ++ params.literal)
    { events := [⟨Level.debug, logger, announcement⟩]
      exchange := (x.request method path params text extra).map fun request =>
        ⟨request, settleAt request.url method path⟩ }

end Executor

/-- What stands in for the halves of surrogate pairs in what comes back. -/
def Outcome.halves : Outcome → List Char
  | .response r => Executor.halves r.body
  | .interrupted .. => []

end SearchClient.Http
