import SearchClient.Settings.Layer
import SearchClient.Text.Charset

set_option autoImplicit false

/-! # Keywords

A keyword sets a field, or says how the other sources of settings are read: which files hold
variables and in what encoding, how variables are named, which directories hold secrets, and what
the arguments of a command line are. -/

namespace SearchClient.Settings

open Failure (Problem)
open Schema (FieldRule)

/-- How the arguments of a command line give settings. -/
structure ArgumentStyle where
  /-- The arguments, if they count. -/
  texts : Value := .null
  /-- What stands in front of the names of fields. -/
  stem : Value := .null
  nullText : Option String := none
  /-- Whether a field with fields of its own has no flag. -/
  partsOnly : Bool := false
  /-- Whether dashes take the place of low lines in flags. -/
  dashes : Bool := false
  /-- Whether arguments that mean nothing are passed by. -/
  lenient : Bool := false
  /-- Whether arguments that cannot be read end the program. -/
  ends : Bool := true

/-- What is read besides the keywords, and how. -/
structure Sources where
  naming : Naming := {}
  /-- The environment files, the latter over the former. -/
  envFiles : List String := [".env"]
  /-- The name of the encoding of environment files. -/
  charset : Value := .null
  /-- The directories of secrets. -/
  secrets : Value := .null
  arguments : ArgumentStyle := {}

namespace Sources

/-- The keywords that say how other sources are read, and so set nothing. -/
def reserved : List String :=
  ["_case_sensitive", "_nested_model_default_partial_update", "_env_prefix", "_env_prefix_target",
   "_env_file", "_env_file_encoding", "_env_ignore_empty", "_env_nested_delimiter",
   "_env_nested_max_split", "_env_parse_none_str", "_env_parse_enums", "_cli_prog_name",
   "_cli_parse_args", "_cli_settings_source", "_cli_parse_none_str", "_cli_hide_none_type",
   "_cli_avoid_json", "_cli_enforce_required", "_cli_use_class_docs_for_groups",
   "_cli_exit_on_error", "_cli_prefix", "_cli_flag_prefix_char", "_cli_implicit_flags",
   "_cli_ignore_unknown_args", "_cli_kebab_case", "_cli_shortcuts", "_cli_show_env_vars",
   "_secrets_dir", "_build_sources"]

/-- The names that no keyword can have. -/
def impossible : List String :=
  ["__pydantic_self__"]

/-- The names of files: none, one, or several. -/
def fileNames : Value → Except Problem (List String)
  | .null => .ok []
  | .text s => .ok [s]
  | v => do
    let items ← v.elements.mapError .misuse
    items.mapM fun
      | .text s => .ok s
      | _ => .error (.misuse .wrongType)

/-- How many delimiters count, by the number of parts that a name may have; nothing, zero and less
    stand for any number. What is no whole number is told only when it is needed. -/
def mostDelimiters (v : Value) : Except Problem (Except Misuse (Option Nat)) :=
  if !v.truthy then .ok (.ok none)
  else
    match v with
    | .bool _ => .ok (.ok (some 0))
    | .int n => .ok (.ok (if 0 < n then some (n - 1).toNat else none))
    | .float _ => .ok (.error .wrongType)
    | _ => .error (.misuse .wrongType)

/-- Takes a keyword about variables in. -/
def applyNaming (n : Naming) (name : String) (v : Value) : Except Problem Naming :=
  match name with
  | "_env_prefix" =>
    match v with
    | .text stem => .ok { n with stem }
    | _ => .error .badSetting
  | "_env_prefix_target" =>
    .ok { n with stemmed := ["variable", "all"].any (v.asText? = some ·) }
  | "_env_nested_delimiter" => .ok { n with delimiter := v.displayText }
  | "_env_nested_max_split" => (mostDelimiters v).map ({ n with mostDelimiters := · })
  | "_case_sensitive" => .ok { n with exactCase := v.truthy }
  | "_env_ignore_empty" => .ok { n with skipEmpty := v.truthy }
  | "_env_parse_none_str" => .ok { n with nullText := v.asText? }
  | _ => .ok n

/-- Takes a keyword about arguments in. -/
def applyArguments (a : ArgumentStyle) (name : String) (v : Value) : ArgumentStyle :=
  match name with
  | "_cli_parse_args" => { a with texts := v }
  | "_cli_prefix" => { a with stem := v }
  | "_cli_parse_none_str" => { a with nullText := some v.displayText }
  | "_cli_avoid_json" => { a with partsOnly := v.truthy }
  | "_cli_kebab_case" => { a with dashes := v.truthy }
  | "_cli_ignore_unknown_args" => { a with lenient := v.truthy }
  | "_cli_exit_on_error" => { a with ends := v.truthy }
  | _ => a

/-- Takes a keyword in; null leaves a way of reading as it is. -/
def apply (s : Sources) (name : String) (v : Value) : Except Problem Sources :=
  if impossible.contains name then .error (.misuse .wrongType)
  else if name = "_env_file" then (fileNames v).map fun envFiles => { s with envFiles }
  else if v.isNull then .ok s
  else if name = "_env_file_encoding" then .ok { s with charset := v }
  else if name = "_secrets_dir" then .ok { s with secrets := v }
  else if name = "_build_sources" then .error (.misuse .wrongType)
  else
    (applyNaming s.naming name v).map fun naming =>
      { s with naming, arguments := applyArguments s.arguments name v }

/-- What keywords say about the sources. -/
def ofKeywords (keywords : Entries Value) : Except Problem Sources :=
  keywords.foldlM (fun s (name, v) => s.apply name v) {}

end Sources

/-! ## Fields -/

/-- Whether a keyword names a field. -/
def Naming.names (n : Naming) (keyword : String) (f : FieldRule) : Bool :=
  if n.exactCase then keyword = f.name else Text.sameLetters keyword f.name

/-- The keywords that set something: those of fields in the order of the fields, then all others. Of
    several keywords that name one field the first one counts. -/
def keywordLayer (n : Naming) (keywords : Entries Value) (fields : List FieldRule) :
    Entries Value :=
  let keywords : Entries Value := keywords.filter fun (name, _) => !Sources.reserved.contains name
  let named := fields.filterMap fun f =>
    (keywords.find? fun (name, _) => n.names name f).map fun (_, v) => (f.name, v)
  named ++ keywords.filter fun (name, _) => !fields.any (n.names name)

end SearchClient.Settings
