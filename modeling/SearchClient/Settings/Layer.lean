import SearchClient.Failure.Problem
import SearchClient.Json.Reader
import SearchClient.Schema.Catalog
import SearchClient.Settings.EnvFile
import SearchClient.Text.Case

set_option autoImplicit false

/-! # Layers of settings

What variables say about settings is a layer; a layer lies over another one entry by entry. A
variable is named by a stem and the name of its field; a field with fields of its own takes a JSON
text, and single values under longer names, which come over those of the JSON text. -/

namespace SearchClient.Settings

open Failure (Problem)
open Schema (FieldRule Shape)

/-! ## Overlays -/

mutual

/-- Writes a value over another one; a map over a map keeps the entries that it does not name. -/
def written (low : Option Value) : Value → Value
  | .map high =>
    match low with
    | some (.map low) => .map (overlay low high)
    | _ => .map high
  | v => v

/-- Writes entries over others. -/
def overlay (low : Entries Value) : List (String × Value) → Entries Value
  | [] => low
  | (name, v) :: high => overlay (low.put name (written (low.get? name) v)) high

end

/-! ## Variables -/

/-- How variables are named and read. -/
structure Naming where
  stem : String := "BRIGHT_"
  /-- Whether the stem stands in front of the names of fields. -/
  stemmed : Bool := true
  /-- What stands between the names of a field and of a field in it. -/
  delimiter : String := "__"
  /-- How many delimiters count in one name, if not all of them; this may be no number. -/
  mostDelimiters : Except Misuse (Option Nat) := .ok none
  /-- Whether letter case counts in names. -/
  exactCase : Bool := false
  /-- Whether empty values do not count. -/
  skipEmpty : Bool := false
  /-- The text that stands for null, if there is one. -/
  nullText : Option String := none

namespace Naming

/-- A name without its letter case, unless that counts. -/
def fold (n : Naming) (name : String) : String :=
  if n.exactCase then name else Text.lower name

/-- The name of the variable of a field. -/
def variableOf (n : Naming) (field : String) : String :=
  n.fold (if n.stemmed then n.stem ++ field else field)

/-- Variables by their folded names; of several with one name the last one counts. -/
def select (n : Naming) (vs : EnvFile.Variables) : EnvFile.Variables :=
  let counted := vs.filter fun (_, v) => !(n.skipEmpty && v = some "")
  Entries.ofPairs (counted.map fun (name, v) => (n.fold name, v))

/-- Whether a text stands for null. -/
def isNullText (n : Naming) (s : String) : Bool :=
  n.nullText = some s

/-- The value of a text. -/
def valueOf (n : Naming) (s : String) : Value :=
  if n.isNullText s then .null else .text s

/-- The names in the rest of the name of a variable. -/
def path (n : Naming) (rest : List Char) : Except Misuse (List String) :=
  n.mostDelimiters.map fun most =>
    let parts := Text.splitBy n.delimiter.toList rest
    let parts :=
      match most with
      | some most => Text.joinFrom n.delimiter.toList most parts
      | none => parts
    parts.map String.ofList

end Naming

/-- The fields inside a field, if it has any. -/
def innerFields? (f : FieldRule) : Option (List FieldRule) :=
  match f.shape with
  | .record _ _ fields => some fields
  | _ => none

/-- Puts a value at a path of names; what is no map on the way is left as it is. Where `yields`, the
    value takes no place that holds anything but an empty map. -/
def nest (yields : Bool) (v : Value) : List String → Entries Value → Entries Value
  | [], es => es
  | [name], es =>
    match es.get? name with
    | none | some (.map []) => es.put name v
    | some _ => if yields then es else es.put name v
  | name :: path, es =>
    match es.get? name with
    | none => es.put name (.map (nest yields v path []))
    | some (.map inner) => es.put name (.map (nest yields v path inner))
    | some _ => es

/-- The values inside a field that have variables of their own. A text that stands for null yields
    to what is there. -/
def nested (n : Naming) (vs : EnvFile.Variables) (field : String) :
    Except Misuse (Entries Value) :=
  if n.delimiter.isEmpty then .ok []
  else
    let stem := (n.variableOf field ++ n.delimiter).toList
    vs.foldlM (fun es (name, v) =>
      match Text.dropText? stem name.toList with
      | none => .ok es
      | some rest =>
        (n.path rest).map fun path =>
          nest (v.any n.isNullText) (Value.ofOption (v.map n.valueOf)) path es) []

/-- Gives entries the names of fields that differ from theirs in letter case at most. -/
def respell (fields : List FieldRule) (es : Entries Value) : Entries Value :=
  Entries.ofPairs (es.map fun (name, v) =>
    match fields.find? fun f => Text.sameLetters f.name name with
    | some f => (f.name, v)
    | none => (name, v))

/-- What variables say about a field with fields of its own: a JSON text and single values. -/
def structured? (n : Naming) (vs : EnvFile.Variables) (f : FieldRule) :
    Except Problem (Option Value) := do
  let single := (nested n vs f.name).mapError Problem.misuse
  match (vs.get? (n.variableOf f.name)).join with
  | none =>
    let single ← single
    return if single.isEmpty then none else some (.map single)
  | some s =>
    if n.isNullText s then return some .null
    else
      match Json.readText s.toList with
      | .error _ => throw .badSetting
      | .ok .null => return none
      | .ok (.map es) => return some (.map (overlay es (← single)))
      | .ok v => return some v

/-- What variables say about a field. -/
def fieldValue? (n : Naming) (vs : EnvFile.Variables) (f : FieldRule) :
    Except Problem (Option Value) :=
  match innerFields? f with
  | none => .ok ((vs.get? (n.variableOf f.name)).join.map n.valueOf)
  | some inner =>
    (structured? n vs f).map fun v =>
      match v with
      | some (.map es) => some (.map (if n.exactCase then es else respell inner es))
      | v => v

/-- What variables say about the given fields. -/
def layer (n : Naming) (vs : EnvFile.Variables) : List FieldRule → Except Problem (Entries Value)
  | [] => .ok []
  | f :: fs => do
    let v ← fieldValue? n vs f
    let rest ← layer n vs fs
    match v with
    | some v => return (f.name, v) :: rest
    | none => return rest

/-- Whether a variable belongs to a field: by its name, or by the start of it if the field has
    fields of its own. -/
def belongsTo (n : Naming) (name : String) (f : FieldRule) : Bool :=
  let stem := n.variableOf f.name
  name = stem ||
    ((innerFields? f).isSome && !n.delimiter.isEmpty &&
      (stem ++ n.delimiter).toList.isPrefixOf name.toList)

/-- The variables of an environment file that no field takes; those without a value, and those with
    the bare name of a field, do not count. -/
def leftovers (n : Naming) (vs : EnvFile.Variables) (fields : List FieldRule)
    (taken : Entries Value) : Entries Value :=
  vs.filterMap fun (name, v) =>
    match v with
    | none => none
    | some s =>
      let bare := !n.stem.isEmpty && fields.any (·.name = name)
      if s.isEmpty || taken.has name || bare || fields.any (belongsTo n name) then none
      else some (name, .text s)

end SearchClient.Settings
