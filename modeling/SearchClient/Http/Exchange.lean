import SearchClient.Failure.Problem
import SearchClient.Http.Header
import SearchClient.Http.Query
import SearchClient.Http.Reason
import SearchClient.Logging.Event

set_option autoImplicit false

/-! # Exchanges

A `Plan` is what an operation is going to do: it logs, and then either ends for a problem or makes
one exchange, a request with the way in which the outcome is settled. A plan never holds more than
one request. -/

namespace SearchClient.Http

open Failure (Problem)
open Logging (Event)

/-- A request as it is sent. -/
structure Request where
  method : String
  url : String
  /-- The headers that the request is given; those that it needs to get there come on top. -/
  headers : Headers
  body : String
deriving DecidableEq

/-- What a request says that its content is. -/
def Request.contentType (r : Request) : Option String :=
  r.headers.value? "Content-Type"

/-- By what a request says that it may be served. -/
def Request.authorization (r : Request) : Option String :=
  r.headers.value? "Authorization"

/-- A response of a server. -/
structure Response where
  status : Nat
  /-- The phrase that came with the status, if the server chose its own. -/
  reason : Option String
  body : List UInt8

/-- The phrase of a response. -/
def Response.phrase (r : Response) : String :=
  match r.reason with
  | some phrase => String.ofList (phrase.toList.filter (·.toNat < 128))
  | none => reasonPhrase r.status

/-- Whether a response reports success. -/
def Response.isSuccess (r : Response) : Bool :=
  200 ≤ r.status && r.status < 300

/-- What becomes of a request: a response, or an interruption that is told by name. -/
inductive Outcome where
  | response (r : Response)
  | interrupted (cause message : String)

/-- The interruptions that mean that no server was reached. -/
def connectionFailures : List String :=
  ["ConnectError", "ConnectTimeout", "ReadTimeout", "WriteTimeout", "PoolTimeout", "ReadError",
   "WriteError", "CloseError", "ProxyError", "UnsupportedProtocol", "LocalProtocolError",
   "RemoteProtocolError", "TransportError", "TimeoutException", "NetworkError", "ProtocolError"]

/-- How an operation ends: what it logged last, and its result. -/
structure Settled where
  events : List Event
  result : Except Problem Value

/-- Ends without a further event. -/
def Settled.quiet (result : Except Problem Value) : Settled :=
  ⟨[], result⟩

/-- A request and how its outcome is settled. -/
structure Exchange where
  request : Request
  settle : Outcome → Settled

/-- What an operation is going to do. -/
structure Plan where
  events : List Event
  exchange : Except Problem Exchange

namespace Plan

/-- Ends for a problem before anything is sent. -/
def refuse (p : Problem) : Plan :=
  ⟨[], .error p⟩

/-- Goes on with the result of the exchange. -/
def followedBy (p : Plan) (next : Except Problem Value → Settled) : Plan :=
  { p with
    exchange := p.exchange.map fun x =>
      { x with
        settle := fun outcome =>
          let first := x.settle outcome
          let second := next first.result
          ⟨first.events ++ second.events, second.result⟩ } }

/-- Logs before all else. -/
def after (event : Event) (p : Plan) : Plan :=
  { p with events := event :: p.events }

end Plan

/-- What an operation did. -/
structure Trace where
  requests : List Request
  events : List Event
  result : Except Problem Value

/-- Carries a plan out; the outcome is that of its request. -/
def Plan.run (p : Plan) (outcome : Outcome) : Trace :=
  match p.exchange with
  | .error e => ⟨[], p.events, .error e⟩
  | .ok x =>
    let settled := x.settle outcome
    ⟨[x.request], p.events ++ settled.events, settled.result⟩

end SearchClient.Http
