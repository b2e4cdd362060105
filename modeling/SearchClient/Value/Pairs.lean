import SearchClient.Decimal.Layout
import SearchClient.Value.Misuse

set_option autoImplicit false

/-! # Maps from pairs

A sequence of pairs is read as a map whose keys are any values that cannot change. A number is the
same key as any number equal to it, a truth value counting as one or zero, and a later pair replaces
the value of an earlier one with the same key. As data of a JSON text such keys go by names. -/

namespace SearchClient.Value

/-! ## Keys -/

/-- Whether a value can be a key. -/
def isKey : Value → Bool
  | .list _ | .map _ | .record .. => false
  | .pair _ v => v.isKey
  | _ => true

/-- The integer that a number is, if it is one. -/
def whole? : Value → Option Int
  | .bool b => some (if b then 1 else 0)
  | .int n => some n
  | .float x => x.toInt?
  | _ => none

/-- Whether two values are the same key. What is not a number is not even the same as itself. -/
def sameKey : Value → Value → Bool
  | .null, .null => true
  | .dateTime a, .dateTime b => a.same b
  | .date a, .date b => a = b
  | .octets a, .octets b => a = b
  | .float .nan, .float .nan => false
  | .pair a v, .pair b w => a = b && v.sameKey w
  | v, w =>
    match v.asText?, w.asText? with
    | some s, some t => s = t
    | none, none =>
      match v.whole?, w.whole? with
      | some m, some n => m = n
      | none, none =>
        match v, w with
        | .float x, .float y => x = y
        | _, _ => false
      | _, _ => false
    | _, _ => false

/-- Gives a key a value: in the place of the same key, or at the end. -/
def putKey (k v : Value) : List (Value × Value) → List (Value × Value)
  | [] => [(k, v)]
  | (key, old) :: es => if key.sameKey k then (key, v) :: es else (key, old) :: putKey k v es

/-! ## Pairs -/

/-- Adds values that are read as pairs to the entries before them. -/
def addPairs (place : Nat) (es : List (Value × Value)) :
    List Value → Except Misuse (List (Value × Value))
  | [] => .ok es
  | v :: vs => do
    match ← v.elements with
    | [key, value] =>
      if key.isKey then addPairs (place + 1) (putKey key value es) vs
      else throw .wrongType
    | items => throw (.notPair place items.length)

/-- Entries whose keys are texts. -/
def ofNamed (es : Entries Value) : List (Value × Value) :=
  es.map fun (name, v) => (.text name, v)

/-- The entries that a value becomes: a map as it is, the members of a record, or pairs. -/
def toPairs : Value → Except Misuse (List (Value × Value))
  | .map es => .ok (ofNamed es)
  | .record _ fields extra _ => .ok (ofNamed (Entries.merge (Entries.ofPairs fields) extra))
  | v => do addPairs 0 [] (← v.elements)

/-! ## Names -/

/-- The name that a key goes by in a JSON text. -/
def keyName : Value → Except Misuse String
  | .null => .ok "null"
  | .bool b => .ok (if b then "true" else "false")
  | .int n => if Decimal.isShort n then .ok (String.ofList (Decimal.ofInt n)) else .error .tooLong
  | .float x => .ok (String.ofList (Layout.body.render x))
  | v =>
    match v.asText? with
    | some s => .ok s
    | none => .error .wrongType

/-- A map whose keys go by their names. -/
def named : List (Value × Value) → Except Misuse (Entries Value)
  | [] => .ok []
  | (k, v) :: es => do
    let name ← k.keyName
    let rest ← named es
    return (name, v) :: rest

end SearchClient.Value
