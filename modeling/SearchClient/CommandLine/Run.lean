import SearchClient.Client.Surface
import SearchClient.CommandLine.Criterion
import SearchClient.CommandLine.Input
import SearchClient.Logging.Setup
import SearchClient.Settings.Load

set_option autoImplicit false

/-! # Runs

A run reads the command line, loads the settings, sets up logging, and carries out one command,
which sends at most one request. The result is printed as JSON. A failure that the server reports
ends the run with code 1, data that cannot be used with code 2; any other problem escapes. So does
the one of a result that cannot be printed: half a surrogate pair has no encoding. -/

namespace SearchClient.CommandLine

open Client (Operation Connection)
open Failure (Problem)
open Http (Plan Trace Outcome Request)
open Logging (Event Level)

/-! ## Commands as operations -/

/-- The value of an operand; one without a text is an empty list. -/
def operandValue (s : Option String) : Value :=
  match s with
  | some s => .text s
  | none => .list []

/-- The path of a file that has been given; one without a text is of no use. -/
def filePath (file : Option String) : Except Problem String :=
  match file with
  | some path => .ok path
  | none => .error (.misuse .wrongType)

/-- The operation that a command stands for. -/
def Command.operation (h : Host) (input : String) : Command → Except Problem Operation
  | .createIndex index primaryKey => .ok (.createIndex (.text index) (.ofText? primaryKey))
  | .getIndex index => .ok (.getIndex (.text index))
  | .deleteIndex index => .ok (.deleteIndex (.text index))
  | .indexExists index => .ok (.indexExists (.text index))
  | .addDocuments index file primaryKey => do
    let documents ← loadDocuments h input (← filePath file)
    return .addDocuments (.text index) (.list documents) (.text "jsoneachrow") (.ofText? primaryKey)
  | .deleteDocuments index ids filter =>
    if ids.isEmpty && (filter.getD "").isEmpty then .error (.argument .nothingToDelete)
    else .ok (.deleteDocuments (.text index) (listOrNull (ids.map .text)) (.ofText? filter))
  | .search a => do
    let params ← a.params
    return .search (.text a.index) params []
  | .listIngresses index => .ok (.listIngresses (.text index))
  | .createIngress index file => do
    let cs ← readText h input (← filePath file)
    let params ← (Json.readText cs).mapError .json
    return .createIngress (.text index) params
  | .getIngress index ingress => .ok (.getIngress (.text index) (operandValue ingress))
  | .ingressExists index ingress => .ok (.ingressExists (.text index) (operandValue ingress))
  | .pauseIngress index ingress =>
    .ok (.updateIngress (.text index) (operandValue ingress) (.text "paused"))
  | .resumeIngress index ingress =>
    .ok (.updateIngress (.text index) (operandValue ingress) (.text "running"))
  | .resyncIngress index ingress =>
    .ok (.updateIngress (.text index) (operandValue ingress) (.text "resyncing"))
  | .deleteIngress index ingress => .ok (.deleteIngress (.text index) (operandValue ingress))

/-- Whether a command asks if something exists. -/
def Command.asksExistence : Command → Bool
  | .indexExists _ | .ingressExists .. => true
  | _ => false

/-! ## Runs -/

/-- How a run ends: with a code, or by a problem that nothing handles. -/
inductive Ending where
  | code (n : Nat)
  | escape (p : Problem)

/-- What a run did. -/
structure Run where
  ending : Ending
  output : String := ""
  errors : String := ""
  requests : List Request := []
  /-- What was logged at the level set up. -/
  events : List Event := []
  /-- The settings in effect, if the run came to use them. -/
  settings : Option Settings := none

/-- A run that is ready to carry its command out. -/
structure Session where
  settings : Settings
  logging : Logging.Setup
  command : Command
  plan : Plan

/-- A text that overrides another one unless it is empty. -/
def override (given : Option String) (current : String) : String :=
  match given with
  | some s => if s.isEmpty then current else s
  | none => current

/-- The settings with the overrides of a command line. -/
def Invocation.apply (i : Invocation) (s : Settings) : Settings :=
  { s with
    baseUrl :=
      match i.url with
      | some url => if url.isEmpty then s.baseUrl else Schema.withoutSlashes url
      | none => s.baseUrl
    apiKey := override i.apiKey s.apiKey
    logLevel := override i.logLevel s.logLevel
    logFormat := override i.logFormat s.logFormat }

/-- The configuration file that a command line names. -/
def Invocation.configPath? (i : Invocation) : Option String :=
  i.config.filter fun path => !path.isEmpty

/-- The file that a command reads. -/
def Command.file? : Command → Option String
  | .addDocuments _ file _ | .createIngress _ file => file
  | _ => none

/-- The files that a run reads besides its configuration file. -/
def Invocation.inputs (i : Invocation) (h : Host) : List String :=
  let keywords :=
    match i.configPath? with
    | some path => (Settings.configKeywords h path).toOption.getD []
    | none => []
  let sources := (Settings.Sources.ofKeywords keywords).toOption.getD {}
  sources.envFiles ++ Settings.secretPaths sources Schema.settingsFields ++ i.command.file?.toList

/-- The connection that settings describe. -/
def connection (s : Settings) : Connection :=
  .of s.baseUrl (if s.apiKey.isEmpty then none else some s.apiKey)

/-- What a command is going to do. -/
def Command.plan (c : Command) (h : Host) (input : String) (s : Settings) : Plan :=
  match c.operation h input, (connection s).executor with
  | .ok op, .ok x => op.plan x
  | .error p, _ => .refuse p
  | .ok _, .error p => .refuse p

/-- The logger of the program. -/
def logger : String :=
  "bright.cli"

/-- The complaint about a failure that the server reports. -/
def failureText (r : Failure.Report) : String :=
  String.ofList ("Error: ".toList ++ r.message.toList ++ " (HTTP ".toList ++
    r.status.displayText.toList ++ ", ".toList ++ r.kind.wire.toList ++ ")\n".toList)

/-- The data of a result, as they are printed: records without their members that are null. -/
def printable (v : Value) : Value :=
  Record.dump { byWire := true, omitNull := true } v

/-- The text that is printed for a result. -/
def printed (v : Value) : String :=
  (Json.write? .page (printable v)).getD "" ++ "\n"

/-- What cannot be printed of a text, by what stands in for halves of surrogate pairs in it: the first
    run of these. -/
def unprintable? (halves : List Char) (s : String) : Option Failure.Unprintable :=
  let (before, rest) := s.toList.span fun c => !halves.contains c
  if rest.isEmpty then none else some ⟨before.length, rest.takeWhile halves.contains⟩

/-- A complaint as it is shown, with halves of surrogate pairs by their numbers. -/
def legible (halves : List Char) (s : String) : String :=
  String.ofList (s.toList.flatMap fun c =>
    if halves.contains c then Failure.numberedHalf c else [c])

/-- The run of a command line that is not read to its end. -/
def halted (halt : Halt) : Run :=
  match halt with
  | .rejected .. => { ending := .code 2, errors := halt.complaint?.getD "" }
  | .version => { ending := .code 0, output := versionText ++ "\n" }
  | .help => { ending := .code 0 }

/-- The settings that a command line leads to. -/
def Invocation.settings (i : Invocation) (h : Host) : Except Run Settings :=
  let loaded :=
    match i.configPath? with
    | none => Settings.load h []
    | some path => Settings.loadFile h path
  match loaded with
  | .ok s => .ok (i.apply s)
  | .error (.noFile message) => .error { ending := .code 1, errors := "Error: " ++ message ++ "\n" }
  | .error p => .error { ending := .escape p }

/-- Gets a run ready to carry its command out, unless it ends before. -/
def start (h : Host) (input : String) (args : List String) : Except Run Session := do
  let i ← (Invocation.read args).mapError halted
  let s ← i.settings h
  match Logging.Setup.of s.logLevel s.logFormat with
  | .error p => throw { ending := .escape p }
  | .ok logging => return ⟨s, logging, i.command, i.command.plan h input s⟩

/-- The rest of a run, from what its command did, and what stands in for halves of surrogate pairs in
    it. -/
def Session.finish (x : Session) (halves : List Char) (t : Trace) : Run :=
  let run : Run :=
    { ending := .code 0
      requests := t.requests
      events := x.logging.written t.events
      settings := some x.settings }
  match t.result with
  | .ok v =>
    let found := !(x.command.asksExistence && match v with | .bool false => true | _ => false)
    let run := { run with ending := .code (if found then 0 else 1) }
    if v.isNull then run
    else
      match unprintable? halves (printed v) with
      | none => { run with output := printed v }
      | some e => { run with ending := .escape (.unprintable e) }
  | .error (.reported r) =>
    let event : Event := ⟨Level.debug, logger, "Command failed: " ++ r.summary⟩
    { run with
      ending := .code 1
      errors := legible halves (failureText r)
      events := x.logging.written (t.events ++ [event]) }
  | .error p =>
    match p.complaint? with
    | some s => { run with ending := .code 2, errors := "Error: " ++ s ++ "\n" }
    | none => { run with ending := .escape p }

/-- The run of a command line, with the outcome of its request. -/
def run (h : Host) (input : String) (args : List String) (outcome : Outcome) : Run :=
  match start h input args with
  | .error r => r
  | .ok x => x.finish outcome.halves (x.plan.run outcome)

end SearchClient.CommandLine
