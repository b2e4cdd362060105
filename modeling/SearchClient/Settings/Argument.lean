import SearchClient.CommandLine.Grammar
import SearchClient.Settings.Keyword

set_option autoImplicit false

/-! # Arguments

The arguments of a command line may give settings: each field has a flag of its name, and a field
with fields of its own also one for each of these. Letter case does not count in flags, unless it
counts in all names. -/

namespace SearchClient.Settings

open CommandLine (Flag Grammar Reading)
open Failure (Problem)
open Schema (FieldRule)

namespace ArgumentStyle

/-- The text that stands for null. -/
def nullWord (a : ArgumentStyle) : String :=
  match a.nullText with
  | some s => if s.isEmpty then usual else s
  | none => usual
where
  /-- The word that is usual. -/
  usual : String :=
    if a.partsOnly then "None" else "null"

/-! ## Names of flags -/

/-- Whether a text is a name, perhaps one with dots inside. -/
def isStem (s : String) : Bool :=
  let cs := s.toList
  let word := cs.filter (· ≠ '.')
  let isLetter (c : Char) : Bool := c.isAlpha || c = '_' || 0x80 ≤ c.toNat
  cs.head? ≠ some '.' && cs.getLast? ≠ some '.' && word.head?.any isLetter &&
    word.all fun c => isLetter c || c.isDigit

/-- What stands in front of the names of fields. -/
def stemText (a : ArgumentStyle) : Except Problem String :=
  if !a.stem.truthy then .ok ""
  else
    match a.stem with
    | .text s => if isStem s then .ok (s ++ ".") else .error .badSetting
    | _ => .error (.misuse .noMember)

/-- A flag for a name. -/
def flag (a : ArgumentStyle) (stem name : String) (effect : CommandLine.Effect) : Flag :=
  let shown := if a.dashes then String.ofList (name.toList.map dashed) else name
  { name := stem ++ name, spellings := ["--" ++ stem ++ shown], effect, shortens := false }
where
  /-- A dash for a low line. -/
  dashed (c : Char) : Char :=
    if c = '_' then '-' else c

/-- The flags for a field. -/
def flagsOf (a : ArgumentStyle) (stem : String) (f : FieldRule) : List Flag :=
  match innerFields? f with
  | none => [a.flag stem f.name (.takes .anything)]
  | some inner =>
    (if a.partsOnly then [] else [a.flag stem f.name (.mayTake "\x7b\x7d")]) ++
      inner.map fun g => a.flag stem (f.name ++ "." ++ g.name) (.takes .anything)

/-- The grammar of arguments for fields. -/
def grammar (a : ArgumentStyle) (stem : String) (fields : List FieldRule) : Grammar :=
  let help : Flag := { name := "help", spellings := ["-h", "--help"], effect := .help }
  .node (help :: fields.flatMap (a.flagsOf stem)) [] none

/-! ## Reading -/

/-- A flag in small letters. What stands behind it goes on to the end of its line at most. -/
def foldFlag (cs : List Char) : List Char :=
  match cs with
  | '-' :: rest =>
    let (name, rest) := rest.span fun c => !(Text.isBlank c || c = '=')
    if name.isEmpty then cs
    else Text.lowerFrom [] ('-' :: name) ++ rest.takeWhile (· ≠ '\n')
  | cs => cs

/-- The text of an argument. Where letter case does not count, what counts as absent is an empty
    text. -/
def argumentText (exactCase : Bool) (v : Value) : Except Problem String :=
  match v with
  | .text s => .ok (if exactCase then s else String.ofList (foldFlag s.toList))
  | v => if exactCase || v.truthy then .error (.misuse .wrongType) else .ok ""

/-- The arguments; a truth value stands for none. -/
def argumentTexts (a : ArgumentStyle) (exactCase : Bool) : Except Problem (List String) :=
  match a.texts with
  | .null | .bool _ => .ok []
  | .int n => if n = 0 then .ok [] else .error .badSetting
  | .float x => if (Value.float x).truthy then .error .badSetting else .ok []
  | .list vs => vs.mapM (argumentText exactCase)
  | _ => .error .badSetting

/-- The problem of arguments that cannot be read. -/
def refusal (a : ArgumentStyle) : Problem :=
  if a.ends then .badArguments else .badSetting

/-- What arguments give, by the names of flags. -/
def read (a : ArgumentStyle) (g : Grammar) (args : List String) : Except Problem Reading :=
  match CommandLine.readFrom (args.length + 1) g "" args with
  | .ok r => if r.extras.isEmpty || a.lenient then .ok r else .error a.refusal
  | .error (.rejected ..) => .error a.refusal
  | .error _ => .error .badArguments

end ArgumentStyle

/-- The variables that arguments stand for, with the way in which these are named. -/
def argumentVariables (s : Sources) (fields : List FieldRule) :
    Except Problem (Naming × EnvFile.Variables) := do
  let a := s.arguments
  if a.texts.isNull then return ({}, [])
  let stem ← a.stemText
  let n : Naming :=
    { stem, delimiter := ".", exactCase := s.naming.exactCase, nullText := some a.nullWord }
  let args ← a.argumentTexts n.exactCase
  let r ← a.read (a.grammar stem fields) args
  return (n, n.select (Entries.ofPairs r.given))

end SearchClient.Settings
