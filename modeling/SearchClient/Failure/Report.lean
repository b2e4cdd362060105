import SearchClient.Value.Display
import SearchClient.Value.Pairs

set_option autoImplicit false

/-! # Reported failures

A server reports a failure in an envelope: a message, a code and details. A known code decides the
kind of the failure whatever the status; without one the status decides it. A failure to reach the
server at all is reported in the same form, with status `0`. -/

namespace SearchClient.Failure

/-- Where a report comes from. -/
inductive Origin where
  | server
  /-- No response was received; the name of what interrupted the request is told if known. -/
  | connection (cause : Option String)
deriving DecidableEq

/-- A reported failure. -/
structure Report where
  message : String
  /-- The status as it is told: an integer, unless the caller tells something else. -/
  status : Value
  kind : Kind := .generic
  /-- The code: a known one as a member of the taxonomy, any other as it was sent. -/
  code : Value := .null
  /-- Further data of the server, a map or null. -/
  details : Value := .null
  /-- The address of the leader, if this server is not the leader. -/
  leaderUrl : Value := .null
  origin : Origin := .server

namespace Report

/-- The report of a request to which there was no response. -/
def unreachable (message : String) (cause : Option String) : Report :=
  { message, status := .int 0, origin := .connection cause }

/-- The category of a report. -/
def category (r : Report) : Category :=
  r.kind.category

end Report

/-- The known code that a value stands for. -/
def Code.parse? (v : Value) : Option Code :=
  v.asText?.bind Code.ofWire?

/-- The message of an envelope; whatever counts as absent is an empty one. -/
def envelopeMessage (body : Entries Value) : String :=
  match body.get? "error" with
  | some v => if v.truthy then v.displayText else ""
  | none => ""

/-- The details of an envelope, if they are a map. -/
def envelopeDetails (body : Entries Value) : Value :=
  match body.get? "details" with
  | some (.map es) => .map es
  | _ => .null

/-- The address of the leader that details hold, if it is a text. -/
def leaderIn (details : Value) : Value :=
  match details with
  | .map es =>
    match Entries.get? es "leaderUrl" with
    | some (.text s) => .text s
    | some (.symbol s) => .symbol s
    | _ => .null
  | _ => .null

/-- The kind of a failure that is told from its status alone. -/
def kindOfStatus (status : Value) : Kind :=
  match status.whole? with
  | some n => .ofStatus n
  | none => .generic

/-- The report of an envelope that came with a status. -/
def Report.ofEnvelope (status : Value) (body : Entries Value) : Report :=
  let message := envelopeMessage body
  let raw := Value.ofOption (body.get? "code")
  let details := envelopeDetails body
  match Code.parse? raw with
  | some code =>
    { message, status, kind := code.kind, code := .symbol (.code code), details,
      leaderUrl := if code = .notLeader then leaderIn details else .null }
  | none => { message, status, kind := kindOfStatus status, code := raw, details }

/-- The report of anything that may be an envelope. Without a known code the status has to be a
    value that can be looked up. -/
def Report.classify (status body : Value) : Except Misuse Report :=
  match body with
  | .map es =>
    if (Code.parse? (Value.ofOption (Entries.get? es "code"))).isSome || status.isKey then
      .ok (.ofEnvelope status es)
    else .error .wrongType
  | _ => .error .noMember

namespace Report

/-- The code of a report as it is sent. -/
def wireCode (r : Report) : Value :=
  match r.code with
  | .symbol (.code c) => .text c.wire
  | v => v

/-- The envelope of a report, with its status. -/
def toEnvelope (r : Report) : Entries Value :=
  [("error", .text r.message), ("code", r.wireCode), ("details", r.details),
   ("statusCode", r.status)]

/-- The name of the class of a report. -/
def title (r : Report) : String :=
  match r.origin with
  | .server => "BrightError"
  | .connection _ => "BrightConnectionError"

/-- A report on one line, for logs. -/
def summary (r : Report) : String :=
  String.ofList (r.title.toList ++ "(kind=".toList ++ Text.quoted r.kind.wire.toList ++
    ", status_code=".toList ++ r.status.displayText.toList ++ ", code=".toList ++ r.code.literal ++
    ", message=".toList ++ Text.quoted r.message.toList ++ [')'])

end Report

end SearchClient.Failure
