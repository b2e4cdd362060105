import SearchClient.Http.Exchange
import SearchClient.Schema.Record

set_option autoImplicit false

/-! # Replies

A reply is wrapped in its model and never rejected: an object that does not fit is kept as it is,
and what is no object is returned as decoded. Two names stand for parts of the record itself, so an
object with one of them cannot be kept as it is. -/

namespace SearchClient.Client

open Http (Settled)
open Logging (Event Level)

namespace Reply

/-- The logger of operations. -/
def logger : String :=
  "bright.client.client"

/-- The given names that an object sets itself. -/
def givenBy (v : Value) : Except Misuse (Option (List String)) :=
  match v with
  | .null => .ok none
  | v => do return some ((← v.elements).map Value.displayText)

/-- A record that takes an object as it is. -/
def keep (model : Model) (data : Entries Value) : Except Misuse Value :=
  if data.has "cls" then .error .wrongType
  else
    match data.get? "_fields_set" with
    | none => .ok (Record.keep model data)
    | some v => do
      let given ← givenBy v
      match Record.keep model (data.erase "_fields_set"), given with
      | .record model fields extra _, some given => return .record model fields extra given
      | record, _ => return record

/-- Wraps a reply in a model. -/
def wrap (model : Model) (data : Value) : Settled :=
  match data with
  | .map es =>
    match Record.check model data with
    | .ok record => .quiet (.ok record)
    | .error _ =>
      let text := "Reply does not match " ++ model.title ++ ", keeping it unvalidated"
      ⟨[⟨Level.debug, logger, text⟩], (keep model es).mapError .misuse⟩
  | v => .quiet (.ok v)

/-- Whatever counts as absent is an empty object. -/
def orEmpty (data : Value) : Value :=
  if data.truthy then data else .map []

/-- The model of an ingress, by its type. -/
def ingressModel (data : Entries Value) : Model :=
  match data.get? "type" with
  | some (.text "postgres") => .postgresIngress
  | _ => .genericIngress

/-- Wraps an ingress in the model of its type; one that does not fit is kept as a general one. -/
def wrapIngress (data : Value) : Except Misuse Value :=
  match data with
  | .map es =>
    match Record.check (ingressModel es) data with
    | .ok record => .ok record
    | .error _ => keep .genericIngress es
  | v => .ok v

/-- Wraps every ingress of a list. -/
def wrapIngresses : List Value → Except Misuse (List Value)
  | [] => .ok []
  | v :: vs => do
    let ingress ← wrapIngress v
    let ingresses ← wrapIngresses vs
    return ingress :: ingresses

/-- The ingresses that a reply lists. -/
def listIngresses (data : Value) : Except Misuse Value :=
  match orEmpty data with
  | .map es => do
    let items ← ((Entries.get? es "ingresses").getD (.list [])).elements
    return .list (← wrapIngresses items)
  | _ => .error .noMember

end Reply

end SearchClient.Client
