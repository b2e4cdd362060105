import SearchClient.Http.Exchange
import SearchClient.Text.Blank
import SearchClient.Text.Hex

set_option autoImplicit false

/-! # Messages on the wire

A request is a line that says what is asked for, lines with headers, a blank line, and a body. A
response is a line with its status, lines with headers, a blank line, and a body, which comes in
chunks, has a length, or goes on to the end. A connection serves one request. -/

namespace SearchClient.Http

/-! ## Requests -/

/-- The port that an address is reached at. -/
def Address.portNumber (a : Address) : Nat :=
  ((a.port.or (Address.usualPort a.scheme)).getD 80).toNat

/-- A header line. -/
def headerLine (name value : String) : List Char :=
  name.toList ++ ':' :: ' ' :: value.toList

/-- The lines in front of the body of a request to an address. -/
def Request.lines (r : Request) (a : Address) (bodyLength : Nat) : List (List Char) :=
  [r.method.toList ++ ' ' :: a.target ++ " HTTP/1.1".toList,
    headerLine "Host" (String.ofList a.authority),
    headerLine "Connection" "close",
    headerLine "Content-Length" (String.ofList (Decimal.ofNat bodyLength))] ++
    r.headers.map (fun (name, value) => headerLine name value) ++ [[]]

/-- The octets of a request to an address. -/
def Request.octets (r : Request) (a : Address) : List UInt8 :=
  let body := Text.Utf8.encode r.body.toList
  (r.lines a body.length).flatMap (fun line => Text.Utf8.encode (line ++ ['\r', '\n'])) ++ body

/-! ## Responses -/

/-- The octets in front of the first blank line, and those behind it. -/
def cutHead? : List UInt8 → Option (List UInt8 × List UInt8)
  | [] => none
  | 13 :: 10 :: 13 :: 10 :: body => some ([], body)
  | b :: bs => (cutHead? bs).map fun (head, body) => (b :: head, body)

/-- Octets as characters, one for one. -/
def narrowText (bs : List UInt8) : List Char :=
  bs.map fun b => Char.ofNat b.toNat

/-- The lines of the head of a message. -/
def headLines (head : List UInt8) : List (List Char) :=
  Text.splitOn '\n' ((narrowText head).filter (· ≠ '\r'))

/-- The headers on lines. -/
def headersOfLines (lines : List (List Char)) : Headers :=
  lines.filterMap fun line =>
    (Text.cut? ':' line).map fun (name, value) =>
      (String.ofList name, String.ofList (Text.trim value))

/-- The status and its phrase on a line. -/
def statusOfLine? (line : List Char) : Option (Nat × String) := do
  let (_, rest) ← Text.cut? ' ' line
  let ds ← Literal.digits? (rest.take 3)
  return (Decimal.value ds, String.ofList (rest.drop 4))

/-- The size of a chunk on a line. -/
def chunkSize (line : List Char) : Nat :=
  ((line.map Text.hexValue?).takeWhile (·.isSome)).foldl (fun n d => 16 * n + d.getD 0) 0

/-- The octets of chunks, up to the empty one. -/
def joinChunks : Nat → List UInt8 → List UInt8
  | 0, _ => []
  | fuel + 1, bs =>
    let (line, rest) := bs.span (· ≠ 10)
    match chunkSize (narrowText line) with
    | 0 => []
    | size => (rest.drop 1).take size ++ joinChunks fuel (rest.drop (size + 3))

/-- The body that headers describe. -/
def bodyOf (headers : Headers) (bs : List UInt8) : List UInt8 :=
  let chunked := (headers.value? "Transfer-Encoding").any fun s => s.toLower = "chunked"
  if chunked then joinChunks bs.length bs
  else
    match (headers.value? "Content-Length").bind fun s => Literal.digits? s.toList with
    | some ds => bs.take (Decimal.value ds)
    | none => bs

/-- Reads a response. -/
def Response.ofOctets? (bs : List UInt8) : Option Response := do
  let (head, rest) ← cutHead? bs
  match headLines head with
  | [] => none
  | line :: lines =>
    let (status, reason) ← statusOfLine? line
    return ⟨status, some reason, bodyOf (headersOfLines lines) rest⟩

end SearchClient.Http
