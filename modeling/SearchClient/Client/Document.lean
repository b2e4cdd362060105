import SearchClient.Schema.Record
import SearchClient.Value.Pairs

set_option autoImplicit false

/-! # Documents

A document is a map or a record. It is uploaded as one line of JSON, and sent on its own as the
data of a body. -/

namespace SearchClient.Client.Document

/-- The JSON text of entries. -/
def entriesText (es : List (Value × Value)) : Except Misuse String := do
  Json.content (.map (← Value.named es))

/-- The line of a document: the stored text of a record, or the JSON text of a map. -/
def line (v : Value) : Except Misuse String :=
  match v with
  | .record .. =>
    match Record.dumpText? { byWire := true } v with
    | some s => .ok s
    | none => .error .wrongType
  | v => v.toPairs >>= entriesText

/-- The lines of documents, in order. -/
def lines : List Value → Except Misuse (List String)
  | [] => .ok []
  | v :: vs => do
    let first ← line v
    let rest ← lines vs
    return first :: rest

/-- The entries of a document, without the members of a record that are null. -/
def entries (v : Value) : Except Misuse (List (Value × Value)) :=
  match v with
  | .record .. => (Record.dump { byWire := true, omitNull := true } v).toPairs
  | v => v.toPairs

/-- The data of a document as it is sent on its own. -/
def data (v : Value) : Except Misuse Value := do
  return .map (← Value.named (← entries v))

end SearchClient.Client.Document
