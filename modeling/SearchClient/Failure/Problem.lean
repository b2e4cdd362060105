import SearchClient.Failure.Report
import SearchClient.Http.Host.Fault
import SearchClient.Json.Error
import SearchClient.Schema.Issue
import SearchClient.Text.Utf8
import SearchClient.Value.Misuse
import SearchClient.Yaml.Fault

set_option autoImplicit false

/-! # Problems

Everything that can end an operation without a result. `Problem.complaint?` is the wording of those
problems that blame the data handed in; the others end a program. -/

namespace SearchClient.Failure

/-- Characters that a header cannot hold: where they are, and which. -/
structure NotAscii where
  start : Nat
  chars : List Char
deriving DecidableEq

/-- Halves of surrogate pairs in a text that is printed: where they are, and what stands in for
    them. -/
structure Unprintable where
  start : Nat
  halves : List Char
deriving DecidableEq

/-- The wording of characters that an encoding does not hold, each shown by its number. -/
def encodeMessage (encoding : String) (start : Nat) (shown : List (List Char)) (reason : String) :
    String :=
  let fault : List Char :=
    match shown with
    | [c] => "character '".toList ++ c ++ "' in position ".toList ++ Decimal.ofNat start
    | _ => "characters in position ".toList ++ Decimal.ofNat start ++
        '-' :: Decimal.ofNat (start + shown.length - 1)
  String.ofList (("'" ++ encoding ++ "' codec can't encode ").toList ++ fault ++
    (": " ++ reason).toList)

/-- The wording of characters outside ASCII. -/
def NotAscii.message (e : NotAscii) : String :=
  encodeMessage "ascii" e.start (e.chars.map Text.numbered) "ordinal not in range(128)"

/-- Half a surrogate pair by its number. -/
def numberedHalf (c : Char) : List Char :=
  '\\' :: 'u' :: Text.hexPadded 4 (Text.halfOf c)

/-- The wording of halves of surrogate pairs. -/
def Unprintable.message (e : Unprintable) : String :=
  encodeMessage "utf-8" e.start (e.halves.map numberedHalf) "surrogates not allowed"

/-- An argument that cannot be understood. -/
inductive BadArgument where
  | filter (raw : String)
  | boost (raw : String)
  | range (raw : String)
  | nothingToDelete
  | level (name : String)
deriving DecidableEq

/-- The wording of a bad argument. -/
def BadArgument.message : BadArgument → String
  | .filter raw => "Invalid filter " ++ (Value.text raw).literalText ++ ", expected FIELD=VALUE"
  | .boost raw => "Invalid boost in filter " ++ (Value.text raw).literalText
  | .range raw => "Invalid range " ++ (Value.text raw).literalText ++ ", expected e.g. 'year>=1990'"
  | .nothingToDelete => "documents delete needs --id or --filter"
  | .level name => "Unknown level: " ++ (Value.text name).literalText

/-- Why a path does not lead to a file that could be there. -/
inductive Unreadable where
  | directory
  /-- The path leads through a file. -/
  | belowFile
  /-- The path is longer than one can be. -/
  | tooLong
  /-- The path holds a zero character. -/
  | unnameable
  /-- The path starts at the home of a user that there is not. -/
  | homeless
deriving DecidableEq

/-- Why an operation has no result. -/
inductive Problem where
  /-- The server reported a failure, or could not be reached. -/
  | reported (r : Report)
  /-- Data do not fit their model. -/
  | refused (r : Schema.Refusal)
  /-- A text is not JSON. -/
  | json (e : Json.Error)
  /-- Octets are not text. -/
  | undecodable (e : Text.DecodeError)
  /-- A header holds characters outside ASCII. -/
  | notAscii (e : NotAscii)
  /-- A text that is printed holds halves of surrogate pairs. -/
  | unprintable (e : Unprintable)
  /-- An argument cannot be understood. -/
  | argument (e : BadArgument)
  /-- A value is used as what it is not. -/
  | misuse (m : Misuse)
  /-- An address is not well formed. -/
  | badAddress
  /-- The host of an address is not well formed. -/
  | badHost (fault : Http.Host.Fault)
  /-- An address says nothing about how it is reached. -/
  | noScheme (address : String)
  /-- A request was interrupted in another way than by the connection; by what is told. -/
  | interrupted (cause : String)
  /-- There is no file of that name; the wording is told. -/
  | noFile (message : String)
  /-- A file cannot be read for what is at its path. -/
  | unreadable (place : Unreadable)
  /-- A setting in the environment is not the JSON text that it has to be. -/
  | badSetting
  /-- The arguments that give settings cannot be read, or ask for something else. -/
  | badArguments
  /-- No encoding has the name that is given for one. -/
  | unknownCharset
  /-- A text lacks the mark that tells the order of its octets. -/
  | unmarked
  /-- A configuration file is not well formed. -/
  | badConfig (fault : Yaml.Fault)

/-- The wording of a pair that is not one. -/
def pairMessage (place length : Nat) : String :=
  String.ofList ("dictionary update sequence element #".toList ++ Decimal.ofNat place ++
    " has length ".toList ++ Decimal.ofNat length ++ "; 2 is required".toList)

/-- The wording of an address without a scheme. -/
def noSchemeMessage (address : String) : String :=
  "unknown url type: " ++ (Value.text address).literalText

/-- The wording of a problem that blames the data handed in. -/
def Problem.complaint? : Problem → Option String
  | .refused r => some r.text
  | .json e => some e.message
  | .undecodable e => some e.message
  | .notAscii e => some e.message
  | .argument e => some e.message
  | .misuse (.notPair place length) => some (pairMessage place length)
  | .misuse .tooLong => some Decimal.tooLongToWrite
  | .badHost fault => some fault.message
  | .noScheme address => some (noSchemeMessage address)
  | .unreadable .unnameable => some "embedded null byte"
  | _ => none

end SearchClient.Failure
