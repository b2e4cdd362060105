import SearchClient.CommandLine.Run
import SearchClient.Http.Wire
import Std.Async.DNS
import Std.Async.TCP

set_option autoImplicit false

/-! # The program

Gathers what surrounds a run, lets it send its request over a connection of its own, and prints what
it did. All decisions are made by `CommandLine.start` and `CommandLine.Session.finish`. -/

namespace SearchClient

open CommandLine (Invocation Run Session Ending)
open Std.Async

/-! ## Surroundings -/

/-- The variables in a block of definitions with zero octets between them. -/
def variablesOfBlock (block : List UInt8) : Entries String :=
  let definitions := Text.splitOn (Char.ofNat 0) ((Text.Utf8.decode block).toOption.getD [])
  Entries.ofPairs (definitions.filterMap fun cs =>
    (Text.cut? '=' cs).map fun (name, value) => (String.ofList name, String.ofList value))

/-- The octets of a file, if it can be read. -/
def fileOctets (path : String) : IO (Option (List UInt8)) := do
  try
    return some (← IO.FS.readBinFile path).toList
  catch _ => return none

/-- Those of some files that can be read. -/
def readFiles (paths : List String) : IO Files :=
  paths.filterMapM fun path => do
    return (← fileOctets path).map fun octets => (path, octets)

/-- What surrounds the run of a command line, and its standard input if it is asked for. -/
def gather (args : List String) : IO (Host × String) := do
  let environment := variablesOfBlock ((← fileOctets "/proc/self/environ").getD [])
  match Invocation.read args with
  | .error _ => return (⟨environment, []⟩, "")
  | .ok i =>
    let configuration ← readFiles i.configPath?.toList
    let files ← readFiles (i.inputs ⟨environment, configuration⟩)
    let input ←
      if i.command.file? = some "-" then (← IO.getStdin).readToEnd
      else pure ""
    return (⟨environment, configuration ++ files⟩, input)

/-! ## Exchanges -/

/-- All octets that come in until the other side closes. -/
partial def receiveAll (client : TCP.Socket.Client) (received : ByteArray) : Async ByteArray := do
  match ← client.recv? 65536 with
  | some octets => receiveAll client (received ++ octets)
  | none => return received

/-- Sends octets to a host and waits for the answer. -/
def converse (host : String) (port : Nat) (octets : List UInt8) : Async ByteArray := do
  let addresses ← DNS.getAddrInfo host ""
  match addresses[0]? with
  | none => throw (IO.userError "the host has no address")
  | some address =>
    let client ← TCP.Socket.Client.mk
    let place : Std.Net.SocketAddress :=
      match address with
      | .v4 a => .v4 ⟨a, UInt16.ofNat port⟩
      | .v6 a => .v6 ⟨a, UInt16.ofNat port⟩
    client.connect place
    client.send ⟨octets.toArray⟩
    receiveAll client ByteArray.empty

/-- What becomes of a request that is sent without encryption. -/
def exchange (request : Http.Request) : IO Http.Outcome := do
  match Http.Address.parse? request.url with
  | none => return .interrupted "UnsupportedProtocol" "the address cannot be read"
  | some a =>
    if a.scheme ≠ "http".toList then
      return .interrupted "UnsupportedProtocol" "only addresses with http are supported"
    try
      let answer ← (converse (String.ofList a.host) a.portNumber (request.octets a)).block
      match Http.Response.ofOctets? answer.toList with
      | some response => return .response response
      | none => return .interrupted "RemoteProtocolError" "the answer is not well formed"
    catch e => return .interrupted "ConnectError" (toString e)

/-- Carries the plan of a session out. -/
def CommandLine.Session.perform (x : Session) : IO Run := do
  match x.plan.exchange with
  | .error p => return x.finish [] ⟨[], x.plan.events, .error p⟩
  | .ok e =>
    let outcome ← exchange e.request
    return x.finish outcome.halves (x.plan.run outcome)

/-! ## Printing -/

/-- What is told of a problem that nothing handles. -/
def escapeText (p : Failure.Problem) : String :=
  match p with
  | .noFile message => message
  | .unreadable .directory => "a directory is named where a file has to be"
  | .unreadable .belowFile => "a path leads through a file"
  | .unreadable .tooLong => "a path is too long"
  | .unreadable .homeless => "a path starts at the home of a user that there is not"
  | .badSetting => "a setting in the environment is not well formed"
  | .badConfig _ => "the configuration file is not well formed"
  | .badArguments => "the arguments for the settings cannot be read"
  | .unknownCharset => "no encoding has the name given for one"
  | .unmarked => "a file lacks the mark that tells the order of its octets"
  | .badAddress => "the address of the server is not well formed"
  | .interrupted cause => cause
  | .unprintable e => e.message
  | p => p.complaint?.getD "a value is used as what it is not"

/-- Prints what a run did, and gives its code. -/
def report (r : Run) (renderer : Logging.Renderer) : IO UInt32 := do
  for event in r.events do
    IO.eprintln (event.line renderer)
  IO.print r.output
  IO.eprint r.errors
  match r.ending with
  | .code n => return UInt32.ofNat n
  | .escape p => do
    IO.eprintln (escapeText p)
    return 1

end SearchClient

/-- Runs a command line. -/
def main (args : List String) : IO UInt32 := do
  let (host, input) ← SearchClient.gather args
  match SearchClient.CommandLine.start host input args with
  | .error run => SearchClient.report run .json
  | .ok session =>
    SearchClient.report (← session.perform) session.logging.renderer
