import SearchClient.Schema.Record
import SearchClient.Settings.Argument
import SearchClient.Settings.Secret
import SearchClient.Yaml.Document

set_option autoImplicit false

/-! # Settings

The settings of a client. Each one comes from the first source that gives it: arguments, keywords or
a configuration file, the environment, the environment file, secrets, the default. A setting that
holds further ones is put together from all sources, one by one. -/

namespace SearchClient

open Failure (Problem)

/-- The settings of a client. -/
structure Settings where
  baseUrl : String
  apiKey : String
  timeout : Binary64
  logLevel : String
  logFormat : String

namespace Settings

/-- A text, empty if the value is none. -/
def textOf (v : Value) : String :=
  v.asText?.getD ""

/-- The settings that a record holds. -/
def ofRecord (v : Value) : Settings :=
  let logging := v.member "observability"
  { baseUrl := textOf (v.member "base_url")
    apiKey := textOf (v.member "api_key")
    timeout :=
      match v.member "timeout" with
      | .float x => x
      | _ => .ofInt 30
    logLevel := textOf (logging.member "log_level")
    logFormat := textOf (logging.member "log_format") }

/-- The encoding of environment files that a keyword names. -/
def charsetOf (v : Value) : Except Problem Text.Charset :=
  if !v.truthy then .ok (.utf8 false)
  else
    match v.asText? with
    | none => .error (.misuse .wrongType)
    | some "locale" => .ok (.utf8 false)
    | some name =>
      match Text.Charset.ofName? name with
      | some c => .ok c
      | none => .error .unknownCharset

/-- The text of an environment file. -/
def fileText (charset : Value) (octets : List UInt8) : Except Problem (List Char) := do
  let c ← charsetOf charset
  match c.decode octets with
  | .ok cs => return Text.unifyLineEnds cs
  | .error (.octets e) => throw (.undecodable e)
  | .error .unmarked => throw .unmarked

/-- The variables of the environment files that there are. -/
def fileVariables (h : Host) (s : Sources) : List String → Except Problem EnvFile.Variables
  | [] => .ok []
  | path :: paths => do
    let here ←
      match h.files.placeFromHome? path with
      | some (.file octets) => do
        let cs ← fileText s.charset octets
        pure (s.naming.select (EnvFile.read h.environment cs))
      | some .tooLong => throw (.unreadable .tooLong)
      | some _ => pure []
      | none => throw (.unreadable .homeless)
    let later ← fileVariables h s paths
    return Entries.merge here later

/-- What the environment files say, with the variables in them that no field takes. -/
def fileLayer (n : Naming) (vs : EnvFile.Variables) : Except Problem (Entries Value) := do
  let taken ← layer n vs Schema.settingsFields
  return taken.merge (leftovers n vs Schema.settingsFields taken)

/-- All that the sources say, each over the ones behind it: arguments, keywords, the environment,
    environment files, secrets. -/
def gather (h : Host) (keywords : Entries Value) : Except Problem (Entries Value) := do
  let fields := Schema.settingsFields
  let sources ← Sources.ofKeywords keywords
  let n := sources.naming
  let inFiles ← fileVariables h sources sources.envFiles
  let (argumentNaming, given) ← argumentVariables sources fields
  let arguments ← layer argumentNaming given fields
  let present := n.select (h.environment.map fun (name, s) => (name, some s))
  let environment ← layer n present fields
  let files ← fileLayer n inFiles
  let secrets ← secretLayer h sources fields
  -- from the top down: a value that is no map is passed over between two maps
  return overlay secrets (overlay files (overlay environment
    (overlay (keywordLayer n keywords fields) arguments)))

/-- The settings from keywords and the surroundings. -/
def load (h : Host) (keywords : Entries Value) : Except Problem Settings := do
  let state ← gather h keywords
  let record ← (Record.check .settings (.map state)).mapError .refused
  return ofRecord record

/-! ## Configuration files -/

/-- The text of a configuration file, which is read in pieces: a character that is cut off by its
    end is the first of its piece. -/
def configText (octets : List UInt8) : Except Text.DecodeError (List Char) :=
  (Files.text octets).mapError fun e =>
    if e.reason = "unexpected end of data" then { e with start := 0 } else e

/-- The keywords that the entries of a mapping are; all keys have to be texts. -/
def keywordsOfEntries : List (Value × Value) → Except Misuse (List (String × Value))
  | [] => .ok []
  | (.text name, v) :: es => (keywordsOfEntries es).map ((name, v) :: ·)
  | _ :: _ => .error .wrongType

/-- The keywords that a document holds. One that counts as absent holds none. -/
def keywordsOf : Yaml.Document → Except Misuse (Entries Value)
  | .mapping es => (keywordsOfEntries es).map Entries.ofPairs
  | .value v => if v.truthy then .error .wrongType else .ok []

/-- The complaint about a configuration file that is not there. -/
def missingConfig (path : String) : String :=
  "Config file not found: " ++ Files.normalPath path

/-- The keywords in a configuration file. -/
def configKeywords (h : Host) (path : String) : Except Problem (Entries Value) := do
  match h.files.place path with
  | .file octets =>
    let cs ← (configText octets).mapError .undecodable
    let document ← (Yaml.Document.read cs).mapError .badConfig
    (keywordsOf document).mapError .misuse
  | .directory _ => throw (.unreadable .directory)
  | .tooLong => throw (.unreadable .tooLong)
  | _ => throw (.noFile (missingConfig path))

/-- The settings from a configuration file and the surroundings. -/
def loadFile (h : Host) (path : String) : Except Problem Settings := do
  load h (← configKeywords h path)

end Settings

end SearchClient
