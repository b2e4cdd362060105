import SearchClient.Value.Display

set_option autoImplicit false

/-! # Issues

An issue says where an input is refused, by which fault, and what stood there. A `Refusal` gathers
all issues of one input under the name of its model. -/

namespace SearchClient.Schema

/-- Why an input is refused. -/
inductive Fault where
  | missing
  | undeclared
  | notText
  | undecodable
  | notInteger
  | unreadableInteger
  | fraction
  | notFinite
  | oversized
  | below (least : Int)
  | notNumber
  | unreadableNumber
  | notPositive
  | notBoolean
  | unreadableBoolean
  | notList
  | notMap
  | notOneOf (options : List String)
  | notRecord (model : Model)
  | broken (rule : String)

namespace Fault

/-- The short name of a fault. -/
def code : Fault → String
  | .missing => "missing"
  | .undeclared => "extra_forbidden"
  | .notText => "string_type"
  | .undecodable => "string_unicode"
  | .notInteger => "int_type"
  | .unreadableInteger => "int_parsing"
  | .fraction => "int_from_float"
  | .notFinite => "finite_number"
  | .oversized => "int_parsing_size"
  | .below _ => "greater_than_equal"
  | .notNumber => "float_type"
  | .unreadableNumber => "float_parsing"
  | .notPositive => "greater_than"
  | .notBoolean => "bool_type"
  | .unreadableBoolean => "bool_parsing"
  | .notList => "list_type"
  | .notMap => "dict_type"
  | .notOneOf _ => "literal_error"
  | .notRecord _ => "model_type"
  | .broken _ => "value_error"

/-- Quoted options with commas between them and `or` before the last. -/
def alternatives : List String → List Char
  | [] => []
  | [a] => Text.quoted a.toList
  | [a, b] => Text.quoted a.toList ++ " or ".toList ++ Text.quoted b.toList
  | a :: rest => Text.quoted a.toList ++ ", ".toList ++ alternatives rest

/-- The wording of a fault. -/
def message : Fault → String
  | .missing => "Field required"
  | .undeclared => "Extra inputs are not permitted"
  | .notText => "Input should be a valid string"
  | .undecodable =>
    "Input should be a valid string, unable to parse raw data as a unicode string"
  | .notInteger => "Input should be a valid integer"
  | .unreadableInteger => "Input should be a valid integer, unable to parse string as an integer"
  | .fraction => "Input should be a valid integer, got a number with a fractional part"
  | .notFinite => "Input should be a finite number"
  | .oversized => "Unable to parse input string as an integer, exceeded maximum size"
  | .below least =>
    String.ofList ("Input should be greater than or equal to ".toList ++ Decimal.ofInt least)
  | .notNumber => "Input should be a valid number"
  | .unreadableNumber => "Input should be a valid number, unable to parse string as a number"
  | .notPositive => "Input should be greater than 0"
  | .notBoolean => "Input should be a valid boolean"
  | .unreadableBoolean => "Input should be a valid boolean, unable to interpret input"
  | .notList => "Input should be a valid list"
  | .notMap => "Input should be a valid dictionary"
  | .notOneOf options => String.ofList ("Input should be ".toList ++ alternatives options)
  | .notRecord model => "Input should be a valid dictionary or instance of " ++ model.title
  | .broken rule => "Value error, " ++ rule

end Fault

/-- A step from a value to a part of it. -/
inductive Step where
  | name (s : String)
  | index (n : Nat)
deriving DecidableEq

/-- The text of a step. -/
def Step.text : Step → List Char
  | .name s => s.toList
  | .index n => Decimal.ofNat n

/-- A fault at a place of the input, and what stood there. -/
structure Issue where
  place : List Step
  fault : Fault
  input : Value

/-- Moves an issue one step further down. -/
def Issue.under (step : Step) (i : Issue) : Issue :=
  { i with place := step :: i.place }

/-- The issues of an input for a model. -/
structure Refusal where
  model : Model
  issues : List Issue

/-- The name of the type of a value. -/
def typeName : Value → String
  | .null => "NoneType"
  | .bool _ => "bool"
  | .int _ => "int"
  | .float _ => "float"
  | .text _ => "str"
  | .list _ => "list"
  | .map _ => "dict"
  | .date _ => "date"
  | .dateTime _ => "datetime"
  | .symbol s => s.family
  | .octets _ => "bytes"
  | .pair .. => "tuple"
  | .record model .. => model.title

/-- Leaves the middle out of a text of more than fifty characters. -/
def abridge (cs : List Char) : List Char :=
  if cs.length ≤ 50 then cs else cs.take 25 ++ "...".toList ++ cs.drop (cs.length - 24)

/-- The lines that tell one issue. -/
def Issue.text (i : Issue) : List Char :=
  let place := if i.place.isEmpty then [] else Value.joinWith "." (i.place.map Step.text) ++ ['\n']
  place ++ "  ".toList ++ i.fault.message.toList ++ " [type=".toList ++ i.fault.code.toList ++
    ", input_value=".toList ++ abridge i.input.literal ++ ", input_type=".toList ++
    (typeName i.input).toList ++ [']']

/-- The lines that tell a refusal. -/
def Refusal.text (r : Refusal) : String :=
  let count := r.issues.length
  String.ofList (Decimal.ofNat count ++ " validation error".toList ++
    (if count = 1 then [] else ['s']) ++ " for ".toList ++ r.model.title.toList ++
    r.issues.flatMap fun i => '\n' :: i.text)

end SearchClient.Schema
