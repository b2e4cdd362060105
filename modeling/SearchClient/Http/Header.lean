import SearchClient.Failure.Problem
import SearchClient.Http.Address
import SearchClient.Text.Base64

set_option autoImplicit false

/-! # Headers

A request says that its content is JSON and carries a key as a bearer token, if there is one.
Headers of the caller override these by exact name; only texts in ASCII can be sent. A name counts
without regard to case when headers are sent: all values of a name are read as one. -/

namespace SearchClient.Http

/-- Named header texts in order. -/
abbrev Headers := Entries String

namespace Headers

/-- The headers of a request with the given key and the headers of the caller. -/
def build (apiKey : Option String) (extra : Entries Value) : Entries Value :=
  let content : Entries Value := [("Content-Type", .text "application/json")]
  let keyed :=
    match apiKey with
    | some key =>
      if key.isEmpty then content else content.put "Authorization" (.text ("Bearer " ++ key))
    | none => content
  keyed.merge extra

/-- Whether two header names are the same. -/
def sameName (a b : String) : Bool :=
  a.toList.map Char.toLower = b.toList.map Char.toLower

/-- All values of a name as one text, if there are any. -/
def value? (hs : Headers) (name : String) : Option String :=
  match hs.filter fun (n, _) => sameName n name with
  | [] => none
  | found => some (", ".intercalate (found.map (·.2)))

/-- The characters of a text that a header cannot hold: the first run of them. -/
def notAscii? (s : String) : Option Failure.NotAscii :=
  let (before, rest) := s.toList.span (·.toNat < 128)
  if rest.isEmpty then none else some ⟨before.length, rest.takeWhile (128 ≤ ·.toNat)⟩

/-- Checks that the host of an address can be told in a header, unless there is such a header. -/
def checkHost (hs : Headers) (a : Address) : Except Failure.Problem Unit := do
  if (hs.value? "Host").isSome || a.host.isEmpty then return
  (Host.checkDomain a.host).mapError .badHost
  match notAscii? (String.ofList a.authority) with
  | some e => throw (.notAscii e)
  | none => return

/-- Gives a name one value, whatever it had before. -/
def replace (hs : Headers) (name value : String) : Headers :=
  hs.filter (fun (n, _) => !sameName n name) ++ [(name, value)]

/-- A text, if a header can hold it. -/
def sendable (s : String) : Except Failure.Problem String :=
  match notAscii? s with
  | some e => .error (.notAscii e)
  | none => .ok s

/-- The headers, if all names and values can be sent. -/
def check : Entries Value → Except Failure.Problem Headers
  | [] => .ok []
  | (name, v) :: hs => do
    let name ← sendable name
    match v.asText? with
    | some s =>
      let s ← sendable s
      let rest ← check hs
      return (name, s) :: rest
    | none => throw (.misuse .wrongType)

/-- The credentials that an address holds, as a header value. -/
def credentials? (a : Address) : Option String :=
  let (name, password) := (Text.cut? ':' a.userinfo).getD (a.userinfo, [])
  if name.isEmpty && password.isEmpty then none
  else
    let text := Text.Percent.text name ++ ':' :: Text.Percent.text password
    some (String.ofList ("Basic ".toList ++ Text.Base64.encode (Text.Utf8.encode text)))

/-- The headers of a request to an address; credentials in the address replace any other. -/
def forAddress (hs : Headers) (a : Address) : Headers :=
  match credentials? a with
  | some value => hs.replace "Authorization" value
  | none => hs

end Headers

end SearchClient.Http
