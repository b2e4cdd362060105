import SearchClient.Files
import SearchClient.Settings.Keyword
import SearchClient.Text.Capital

set_option autoImplicit false

/-! # Secrets

A directory may hold secrets: files that have the names of variables, and whose texts are their
values. A directory that is not there does not count. -/

namespace SearchClient.Settings

open Failure (Problem)
open Schema (FieldRule)

/-- The directories of secrets that are there. -/
def secretPlaces (h : Host) (paths : List String) : Except Problem (List Files.Position) := do
  let places ← paths.mapM fun path =>
    match h.files.placeFromHome? path with
    | some place => pure place
    | none => throw (.unreadable .homeless)
  if places.any fun | .tooLong => true | _ => false then throw (.unreadable .tooLong)
  else if places.any fun | .file _ => true | _ => false then throw .badSetting
  else return places.filterMap fun | .directory position => some position | _ => none

/-- The octets of the secret with the name of a variable. Of several directories the last one that
    has it counts. -/
def secret? (h : Host) (n : Naming) (places : List Files.Position) (name : String) :
    Option (List UInt8) :=
  places.reverse.findSome? fun place =>
    ((h.files.list place).find? fun (own, _) => n.fold own = name).map (·.2)

/-- The secrets of fields as variables. -/
def secretVariables (h : Host) (n : Naming) (places : List Files.Position) :
    List FieldRule → Except Problem EnvFile.Variables
  | [] => .ok []
  | f :: fs => do
    let name := n.variableOf f.name
    let here ←
      match secret? h n places name with
      | none => pure []
      | some octets =>
        let cs ← (Files.text octets).mapError fun _ => .badSetting
        pure [(name, some (String.ofList (Text.trim cs)))]
    return here ++ (← secretVariables h n places fs)

/-- What secrets say about the given fields. A field with fields of its own takes a JSON text
    alone. -/
def secretLayer (h : Host) (s : Sources) (fields : List FieldRule) :
    Except Problem (Entries Value) := do
  let places ← secretPlaces h (← Sources.fileNames s.secrets)
  let n := { s.naming with delimiter := "", nullText := none }
  layer n (← secretVariables h n places fields) fields

/-- The paths where secrets may be: under the names of variables in small letters or capitals. -/
def secretPaths (s : Sources) (fields : List FieldRule) : List String :=
  let dirs := (Sources.fileNames s.secrets).toOption.getD []
  let names := (fields.map fun f => s.naming.variableOf f.name).flatMap fun name =>
    [name, Text.upper name]
  dirs.flatMap fun dir => names.map fun name => dir ++ "/" ++ name

end SearchClient.Settings
