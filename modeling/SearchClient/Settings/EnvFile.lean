import SearchClient.Text.Blank
import SearchClient.Text.Split
import SearchClient.Value.Entries

set_option autoImplicit false

/-! # Environment files

An environment file has lines `NAME=value`, perhaps with `export` in front. A value may stand
between quotes and then go on over several lines; else it ends at the end of the line or at a
comment with a blank in front. A name without an equals sign has no value. Lines of another form do
not count. A value may refer to variables, with a default for those that are not set. -/

namespace SearchClient.Settings.EnvFile

open Text

/-- Variables and their values; one may have none. -/
abbrev Variables := Entries (Option String)

/-! ## Lines -/

/-- Whether a character ends a line. -/
def isLineEnd (c : Char) : Bool :=
  c = '\n' || c = '\r'

/-- Whether a character is a blank within a line. -/
def isGap (c : Char) : Bool :=
  isBlank c && !isLineEnd c

/-- Drops the word `export` in front of a name. -/
def dropExport (cs : List Char) : List Char :=
  match dropText? "export".toList cs with
  | none => cs
  | some rest => if isGap (rest.headD '=') then rest.dropWhile isGap else cs

/-- The characters up to the first quote, and those behind it. A character behind a backslash is no
    quote. -/
def cutQuote? (quote : Char) : List Char → Option (List Char × List Char)
  | [] => none
  | '\\' :: c :: cs => (cutQuote? quote cs).map fun (before, after) => ('\\' :: c :: before, after)
  | c :: cs =>
    if c = quote then some ([], cs)
    else (cutQuote? quote cs).map fun (before, after) => (c :: before, after)

/-- The character that a letter behind a backslash stands for between double quotes. -/
def escaped? (double : Bool) (c : Char) : Option Char :=
  let common : List (Char × Char) := [('\\', '\\'), ('\'', '\'')]
  let further : List (Char × Char) :=
    [('"', '"'), ('a', '\x07'), ('b', '\x08'), ('f', '\x0c'), ('n', '\n'), ('r', '\r'),
     ('t', '\t'), ('v', '\x0b')]
  (if double then common ++ further else common).lookup c

/-- Replaces the escapes between quotes. -/
def unescape (double : Bool) : List Char → List Char
  | '\\' :: c :: cs =>
    match escaped? double c with
    | some e => e :: unescape double cs
    | none => '\\' :: unescape double (c :: cs)
  | c :: cs => c :: unescape double cs
  | [] => []

/-- Cuts a comment off: blanks, a number sign and all that follows. -/
def dropComment : List Char → List Char
  | [] => []
  | c :: cs =>
    if isBlank c && (cs.dropWhile isBlank).headD ' ' = '#' then [] else c :: dropComment cs

/-- What was read of a line, and the text from there on; the reading may have been given up. -/
abbrev Reading (α : Type) := Except (List Char) (α × List Char)

/-- Reads a name; a comment has none. -/
def readName : List Char → Reading (Option String)
  | [] => .error []
  | '#' :: cs => .ok (none, '#' :: cs)
  | '\'' :: cs =>
    match cut? '\'' cs with
    | some (c :: name, rest) => .ok (some (String.ofList (c :: name)), rest)
    | _ => .error ('\'' :: cs)
  | cs =>
    let (name, rest) := cs.span fun c => !(c = '=' || c = '#' || isBlank c)
    if name.isEmpty then .error cs else .ok (some (String.ofList name), rest)

/-- Reads a value between quotes. -/
def readQuoted (quote : Char) (cs : List Char) : Reading String :=
  match cutQuote? quote cs with
  | some (value, rest) => .ok (String.ofList (unescape (quote = '"') value), rest)
  | none => .error (quote :: cs)

/-- Reads a value; blanks may stand in front of its quotes. -/
def readValue (cs : List Char) : Reading String :=
  match cs.dropWhile isGap with
  | '\'' :: cs => readQuoted '\'' cs
  | '"' :: cs => readQuoted '"' cs
  | _ =>
    let (value, rest) := cs.span fun c => !isLineEnd c
    .ok (String.ofList (trim (dropComment value)), rest)

/-- Reads an equals sign and a value, if they are there. -/
def readAssignment (cs : List Char) : Reading (Option String) :=
  match cs.dropWhile isGap with
  | '=' :: rest => (readValue rest).map fun (value, rest) => (some value, rest)
  | rest => .ok (none, rest)

/-- Reads blanks, perhaps a comment, and the end of the line. -/
def readEnd (cs : List Char) : Reading Unit :=
  let rest := cs.dropWhile isGap
  let rest := if rest.headD ' ' = '#' then rest.dropWhile (fun c => !isLineEnd c) else rest
  match rest with
  | [] => .ok ((), [])
  | c :: rest => if isLineEnd c then .ok ((), rest) else .error (c :: rest)

/-- Reads one line that is not blank. -/
def readLine (cs : List Char) :
    Except (List Char) (Option (String × Option String) × List Char) := do
  let (name, cs) ← readName (dropExport cs)
  let (value, cs) ← readAssignment cs
  let (_, cs) ← readEnd cs
  return (name.map fun name => (name, value), cs)

/-- Reads all lines. -/
def readFrom : Nat → List Char → List (String × Option String)
  | 0, _ => []
  | fuel + 1, cs =>
    match cs.dropWhile isBlank with
    | [] => []
    | cs =>
      match readLine cs with
      | .ok (some binding, rest) => binding :: readFrom fuel rest
      | .ok (none, rest) => readFrom fuel rest
      | .error rest => readFrom fuel (rest.dropWhile fun c => !isLineEnd c)

/-! ## References -/

/-- Reads a reference behind its dollar sign and brace: the name, the default and the rest. -/
def reference? (cs : List Char) : Option (String × Option String × List Char) :=
  let (name, rest) := cs.span fun c => c ≠ '\x7d' && c ≠ ':'
  match rest with
  | '\x7d' :: rest => some (String.ofList name, none, rest)
  | ':' :: '-' :: rest =>
    (cut? '\x7d' rest).map fun (default, rest) =>
      (String.ofList name, some (String.ofList default), rest)
  | _ => none

/-- Replaces the references in a value. -/
def expandFrom (value? : String → Option (Option String)) : Nat → List Char → List Char
  | 0, cs => cs
  | fuel + 1, cs =>
    match cs with
    | [] => []
    | '$' :: '\x7b' :: rest =>
      match reference? rest with
      | some (name, default, rest) =>
        let text :=
          match value? name with
          | some v => v.getD ""
          | none => default.getD ""
        text.toList ++ expandFrom value? fuel rest
      | none => '$' :: expandFrom value? fuel ('\x7b' :: rest)
    | c :: rest => c :: expandFrom value? fuel rest

/-- Gives a name its value; references in it see the names given before, then the environment. -/
def assign (environment : Entries String) (known : Variables) (binding : String × Option String) :
    Variables :=
  let value? (name : String) : Option (Option String) :=
    (known.get? name).or ((environment.get? name).map some)
  known.put binding.1 (binding.2.map fun s =>
    String.ofList (expandFrom value? (s.length + 1) s.toList))

/-- A text without the mark that tells its byte order. -/
def dropMark (cs : List Char) : List Char :=
  if cs.head? = some '\ufeff' then cs.drop 1 else cs

/-- The variables of an environment file. -/
def read (environment : Entries String) (cs : List Char) : Variables :=
  let cs := dropMark cs
  (readFrom (cs.length + 1) cs).foldl (assign environment) []

end SearchClient.Settings.EnvFile
