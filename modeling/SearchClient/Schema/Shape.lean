import SearchClient.Decimal.Literal
import SearchClient.Schema.Issue
import SearchClient.Text.Utf8

set_option autoImplicit false

/-! # Shapes

A shape says which values a place takes and what it makes of them. `Shape.check` gives the value
that is kept, or all issues: those of the declared fields in their order, then those of undeclared
names in the order of the input. Numbers and truth values are also read from texts. -/

namespace SearchClient.Schema

/-- What becomes of names that a record does not declare. -/
inductive Extras where
  | ignored
  | forbidden
  | kept
deriving DecidableEq

/-- A declared field: its name, its name in data, its shape, and its default unless it is
    required. -/
structure FieldOf (σ : Type) where
  name : String
  wire : String
  shape : σ
  default : Option Value

/-- The values that a place takes. -/
inductive Shape where
  | anything
  | text
  /-- A text that loses the slashes at its end. -/
  | address
  | integer (least : Option Int)
  /-- A number above zero. -/
  | positive
  | boolean
  /-- An integer or a floating point number, whichever fits first. -/
  | number
  | oneOf (options : List String)
  /-- One of the options, or any other text. -/
  | oneOfOrText (options : List String)
  | list (item : Shape)
  | map (item : Shape)
  | optional (inner : Shape)
  | record (model : Model) (extras : Extras) (fields : List (FieldOf Shape))

/-- A declared field. -/
abbrev FieldRule := FieldOf Shape

/-- What a check gives. -/
abbrev Verdict := Except (List Issue) Value

/-- Refuses a value. -/
def refuse {α : Type} (input : Value) (fault : Fault) : Except (List Issue) α :=
  .error [⟨[], fault, input⟩]

/-! ## Single values -/

/-- The text that a value can be read from: a text, a member of the taxonomy, or octets, which
    have to be a text in UTF-8. -/
def readable (v : Value) (otherwise broken : Fault) : Except (List Issue) String :=
  match v, v.asText? with
  | _, some s => .ok s
  | .octets bs, none =>
    match Text.Utf8.decode bs with
    | .ok cs => .ok (String.ofList cs)
    | .error _ => refuse v broken
  | v, none => refuse v otherwise

/-- A text, or a member of the taxonomy or octets as their text. -/
def checkText (v : Value) : Verdict :=
  (readable v .notText .undecodable).map .text

/-- The integers of 64 bits go from minus this bound up to it, without the bound itself. -/
def wordBound : Int :=
  9223372036854775808

/-- The integer that a floating point number is; it must fit 64 bits. -/
def checkWhole (v : Value) (x : Binary64) : Verdict :=
  if !x.isFinite then refuse v .notFinite
  else
    match x.toInt? with
    | none => refuse v .fraction
    | some n => if -wordBound ≤ n ∧ n < wordBound then .ok (.int n) else refuse v .oversized

/-- An integer, a truth value as `1` or `0`, a whole number, or a text that reads as an integer. -/
def checkInteger (v : Value) : Verdict :=
  match v with
  | .int n => .ok (.int n)
  | .bool b => .ok (.int (if b then 1 else 0))
  | .float x => checkWhole v x
  | v => do
    let s ← readable v .notInteger .unreadableInteger
    match Literal.readLaxInt s with
    | .ok n => .ok (.int n)
    | .error .malformed => refuse v .unreadableInteger
    | .error (.tooLong _) => refuse v .oversized

/-- A floating point number, an integer or truth value as one, or a text that reads as one. -/
def checkFloat (v : Value) : Verdict :=
  match v with
  | .float x => .ok (.float x)
  | .bool b => .ok (.float (.ofInt (if b then 1 else 0)))
  | .int n =>
    let x := Binary64.ofInt n
    if x.isFinite then .ok (.float x) else refuse v .notNumber
  | v => do
    let s ← readable v .notNumber .unreadableNumber
    match Literal.laxFloat? s with
    | some x => .ok (.float x)
    | none => refuse v .unreadableNumber

/-- An exact integer or floating point number as it is; else the first of the two that fits. -/
def checkNumber (v : Value) : Verdict :=
  match v with
  | .int _ | .float _ => .ok v
  | v =>
    match checkInteger v with
    | .ok n => .ok n
    | .error asInteger =>
      match checkFloat v with
      | .ok x => .ok x
      | .error asFloat =>
        .error (asInteger.map (·.under (.name "int")) ++ asFloat.map (·.under (.name "float")))

/-- The texts that stand for truth and falsehood. -/
def readBoolean? (s : String) : Option Bool :=
  let s := s.toLower
  if s ∈ ["0", "off", "f", "false", "n", "no"] then some false
  else if s ∈ ["1", "on", "t", "true", "y", "yes"] then some true
  else none

/-- A truth value, zero or one as one, or a text that stands for one. -/
def checkBoolean (v : Value) : Verdict :=
  match v with
  | .bool b => .ok (.bool b)
  | .int 0 => .ok (.bool false)
  | .int 1 => .ok (.bool true)
  | .int _ => refuse v .unreadableBoolean
  | .float x =>
    match x.toInt? with
    | some 0 => .ok (.bool false)
    | some 1 => .ok (.bool true)
    | _ => refuse v .notBoolean
  | v => do
    let s ← readable v .notBoolean .unreadableBoolean
    match readBoolean? s with
    | some b => .ok (.bool b)
    | none => refuse v .unreadableBoolean

/-- One of the given texts. -/
def checkOneOf (options : List String) (v : Value) : Verdict :=
  match v with
  | .text s => if s ∈ options then .ok v else refuse v (.notOneOf options)
  | v => refuse v (.notOneOf options)

/-- The name of a choice between options in the place of an issue. -/
def optionsName (options : List String) : String :=
  String.ofList ("literal[".toList ++
    Value.joinWith "," (options.map fun o => Text.quoted o.toList) ++ [']'])

/-- A text, among the options or not; both failures are told. -/
def checkOneOfOrText (options : List String) (v : Value) : Verdict :=
  match checkText v with
  | .ok s => .ok s
  | .error asText =>
    .error (⟨[.name (optionsName options)], .notOneOf options, v⟩ ::
      asText.map (·.under (.name "str")))

/-- Removes the slashes at the end. -/
def withoutSlashes (s : String) : String :=
  String.ofList ((s.toList.reverse.dropWhile (· = '/')).reverse)

/-! ## Collections -/

/-- Checks the items of a list and numbers their issues. -/
def checkItems (check : Value → Verdict) (n : Nat) : List Value → Except (List Issue) (List Value)
  | [] => .ok []
  | v :: vs =>
    match check v, checkItems check (n + 1) vs with
    | .ok w, .ok ws => .ok (w :: ws)
    | .ok _, .error later => .error later
    | .error here, .ok _ => .error (here.map (·.under (.index n)))
    | .error here, .error later => .error (here.map (·.under (.index n)) ++ later)

/-- Checks the values of a map and names their issues. -/
def checkEntries (check : Value → Verdict) :
    List (String × Value) → Except (List Issue) (List (String × Value))
  | [] => .ok []
  | (name, v) :: es =>
    match check v, checkEntries check es with
    | .ok w, .ok ws => .ok ((name, w) :: ws)
    | .ok _, .error later => .error later
    | .error here, .ok _ => .error (here.map (·.under (.name name)))
    | .error here, .error later => .error (here.map (·.under (.name name)) ++ later)

/-! ## Records -/

/-- The name under which the data give a field: its name in data if that is there, else its own. -/
def suppliedAs (wire name : String) (data : Entries Value) : Option String :=
  if data.has wire then some wire else if data.has name then some name else none

/-- What has been made of the fields of a record. -/
structure Filled where
  issues : List Issue
  fields : Entries Value
  given : List String

/-- No field yet. -/
def Filled.empty : Filled :=
  ⟨[], [], []⟩

/-- Puts the verdict on a field that was given in front. -/
def Filled.give (name wire : String) (verdict : Verdict) (rest : Filled) : Filled :=
  match verdict with
  | .ok v => ⟨rest.issues, (name, v) :: rest.fields, name :: rest.given⟩
  | .error here => ⟨here.map (·.under (.name wire)) ++ rest.issues, rest.fields, rest.given⟩

/-- Puts a field that was not given in front. -/
def Filled.omit (name wire : String) (default : Option Value) (data : Value) (rest : Filled) :
    Filled :=
  match default with
  | some v => { rest with fields := (name, v) :: rest.fields }
  | none => { rest with issues := ⟨[.name wire], .missing, data⟩ :: rest.issues }

/-- The entries that no field takes. -/
def undeclared (fields : List FieldRule) (data : Entries Value) : Entries Value :=
  data.filter fun (name, _) => !fields.any fun f => suppliedAs f.wire f.name data = some name

/-- A rule on the fields of a record as a whole; the text says how it is broken. -/
def Model.rule? (model : Model) (fields : Entries Value) : Option String :=
  match model with
  | .newPostgresIngress =>
    let config := (fields.get? "config").getD .null
    match ["dsn", "table"].filter fun name => (config.member name).isNull with
    | [] => none
    | absent => some ("postgres ingress config requires " ++ ", ".intercalate absent)
  | _ => none

/-- The record of a model from its filled fields and the entries that no field takes. -/
def Filled.finish (filled : Filled) (model : Model) (extras : Extras) (data : Value)
    (rest : Entries Value) : Verdict :=
  let excess : List Issue :=
    match extras with
    | .forbidden => rest.map fun (name, v) => ⟨[.name name], .undeclared, v⟩
    | _ => []
  match filled.issues ++ excess with
  | [] =>
    match Model.rule? model filled.fields with
    | some rule => refuse data (.broken rule)
    | none =>
      let extra := if extras = .kept then rest else []
      .ok (.record model filled.fields extra
        (filled.given ++ extra.names.filter fun name => !filled.given.contains name))
  | issues => .error issues

mutual

/-- Checks a value against a shape. -/
def Shape.check : Shape → Value → Verdict
  | .anything, v => .ok v
  | .text, v => checkText v
  | .address, v =>
    match checkText v with
    | .ok (.text s) => .ok (.text (withoutSlashes s))
    | verdict => verdict
  | .integer least, v =>
    match checkInteger v, least with
    | .ok (.int n), some least => if least ≤ n then .ok (.int n) else refuse v (.below least)
    | verdict, _ => verdict
  | .positive, v =>
    match checkFloat v with
    | .ok (.float x) => if x.isPositive then .ok (.float x) else refuse v .notPositive
    | verdict => verdict
  | .boolean, v => checkBoolean v
  | .number, v => checkNumber v
  | .oneOf options, v => checkOneOf options v
  | .oneOfOrText options, v => checkOneOfOrText options v
  | .list item, v =>
    match v with
    | .list vs => (checkItems item.check 0 vs).map .list
    | v => refuse v .notList
  | .map item, v =>
    match v with
    | .map es => (checkEntries item.check es).map .map
    | v => refuse v .notMap
  | .optional inner, v =>
    match v with
    | .null => .ok .null
    | v => inner.check v
  | .record model extras fields, v =>
    match v with
    | .record other .. => if other = model then .ok v else refuse v (.notRecord model)
    | .map data =>
      (checkFields fields data).finish model extras v (undeclared fields data)
    | v => refuse v (.notRecord model)

/-- Checks the declared fields of a record. -/
def checkFields : List FieldRule → Entries Value → Filled
  | [], _ => .empty
  | ⟨name, wire, shape, default⟩ :: fields, data =>
    match (suppliedAs wire name data).bind data.get? with
    | some v => (checkFields fields data).give name wire (shape.check v)
    | none => (checkFields fields data).omit name wire default (.map data)

end

end SearchClient.Schema
