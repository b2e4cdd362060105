import SearchClient.Failure.Problem
import SearchClient.Files
import SearchClient.Json.Reader

set_option autoImplicit false

/-! # Input of commands

A command reads a file, or the standard input where a dash is given for the file. Documents are a
JSON array, or JSON texts on lines of their own; blank lines do not count. -/

namespace SearchClient.CommandLine

open Failure (Problem)

/-- The complaint about a file that is not there. -/
def missingFile (path : String) : String :=
  "[Errno 2] No such file or directory: " ++ (Value.text (Files.normalPath path)).literalText

/-- The octets of the file at a path, or why it cannot be read. -/
def readOctets (h : Host) (path : String) : Except Problem (List UInt8) :=
  match h.files.place path with
  | .file octets => .ok octets
  | .nothing => .error (.noFile (missingFile path))
  | .directory _ => .error (.unreadable .directory)
  | .belowFile => .error (.unreadable .belowFile)
  | .tooLong => .error (.unreadable .tooLong)
  | .unnameable => .error (.unreadable .unnameable)

/-- The text of a file, or of the standard input. -/
def readText (h : Host) (input : String) (path : String) : Except Problem (List Char) := do
  if path = "-" then return input.toList
  else (Files.text (← readOctets h path)).mapError .undecodable

/-- The documents of a text. -/
def readDocuments (cs : List Char) : Except Json.Error (List Value) :=
  match Text.trim cs with
  | [] => .ok []
  | '[' :: cs => do
    match ← Json.readText ('[' :: cs) with
    | .list vs => return vs
    | v => return [v]
  | cs => ((Text.lines cs).filter fun line => !(Text.trim line).isEmpty).mapM Json.readText

/-- The documents of a file. -/
def loadDocuments (h : Host) (input path : String) : Except Problem (List Value) := do
  let cs ← readText h input path
  (readDocuments cs).mapError .json

end SearchClient.CommandLine
