import SearchClient.Decimal.Digits
import SearchClient.Text.Percent
import SearchClient.Yaml.Block
import SearchClient.Yaml.Plain

set_option autoImplicit false

/-! # Tokens

The tokens of a configuration text in their order. Blocks start and end where the indentation says
so, so a `Lexer` keeps the columns of the open blocks. A key of a mapping is known only by the colon
behind it; until then a token may turn out to be one, and is not given away. -/

namespace SearchClient.Yaml

/-- A token. -/
inductive Token where
  | version (major minor : Nat)
  | handle (name stem : String)
  | directive
  | documentStart
  | documentEnd
  | textEnd
  | blockSequence
  | blockMapping
  | blockEnd
  | flowSequence
  | flowSequenceEnd
  | flowMapping
  | flowMappingEnd
  | entry
  | comma
  | key
  | value
  | reference (name : String)
  | anchor (name : String)
  | tag (handle : Option String) (suffix : String)
  | scalar (text : String) (plain : Bool)
deriving DecidableEq

/-! ## Words -/

namespace Word

/-- The characters of names. -/
def isNameChar (c : Char) : Bool :=
  c.isAlphanum || c = '-' || c = '_'

/-- The characters of addresses. -/
def isAddressChar (c : Char) : Bool :=
  c.isAlphanum || "-;/?:@&=+$,_.!~*'()[]%".toList.contains c

/-- Reads a name. -/
def name (c : Cursor) : Except Fault (String × Cursor) :=
  let (cs, c) := c.takeRun isNameChar
  if cs.isEmpty then .error .token else .ok (String.ofList cs, c)

/-- Reads the name of an anchor; certain marks may follow it. -/
def anchor (c : Cursor) : Except Fault (String × Cursor) := do
  let (s, c) ← name c
  if isWordStop c.peek || "?:,]\x7d%@\x60".toList.contains c.peek then return (s, c)
  else throw .token

/-- Whether every percent sign has two hexadecimal digits behind it. -/
def hasDigits : List Char → Bool
  | '%' :: a :: b :: cs => (Text.hexValue? a).isSome && (Text.hexValue? b).isSome && hasDigits cs
  | '%' :: _ => false
  | _ :: cs => hasDigits cs
  | [] => true

/-- Reads an address, in which percent forms stand for octets. -/
def address (c : Cursor) : Except Fault (String × Cursor) :=
  let (cs, c) := c.takeRun isAddressChar
  if cs.isEmpty || !hasDigits cs then .error .token
  else
    match Text.Utf8.decode (Text.Percent.octets cs) with
    | .ok cs => .ok (String.ofList cs, c)
    | .error _ => .error .token

/-- Reads the handle of a tag: a mark, or a name between two marks. -/
def handle (c : Cursor) : Except Fault (String × Cursor) :=
  if c.peek ≠ '!' then .error .token
  else if c.peekAt 1 = ' ' then .ok ("!", c.next)
  else
    let (cs, c) := c.next.takeRun isNameChar
    if c.peek = '!' then .ok (String.ofList ('!' :: cs ++ ['!']), c.next) else .error .token

/-- Reads a number. -/
def number (c : Cursor) : Except Fault (Nat × Cursor) :=
  let (cs, c) := c.takeRun fun x => (Decimal.asciiDigit? x).isSome
  if cs.isEmpty then .error .token
  else .ok (Decimal.value (cs.filterMap Decimal.asciiDigit?), c)

/-- Reads a tag: an address between angle brackets, a lone mark, or a handle and the rest of the
    address. -/
def tag (c : Cursor) : Except Fault (Token × Cursor) := do
  let (t, c) ←
    if c.peekAt 1 = '<' then do
      let (s, c) ← address (c.skip 2)
      if c.peek = '>' then pure (Token.tag none s, c.next) else throw .token
    else if isWordStop (c.peekAt 1) then pure (Token.tag none "!", c.next)
    else do
      let named := (c.next.run fun x => !isSpaced x).contains '!'
      let (h, c) ← if named then handle c else pure ("!", c.next)
      let (s, c) ← address c
      pure (Token.tag (some h) s, c)
  if isSpaced c.peek then return (t, c) else throw .token

/-- Reads what a directive says behind its name. -/
def directiveValue (name : String) (c : Cursor) : Except Fault (Token × Cursor) := do
  let spaced (c : Cursor) : Except Fault Cursor := if isSpaced c.peek then .ok c else .error .token
  if name = "YAML" then
    let (major, c) ← number (c.skipRun (· = ' '))
    if c.peek ≠ '.' then throw .token
    let (minor, c) ← number c.next
    return (.version major minor, ← spaced c)
  else if name = "TAG" then
    let (h, c) ← handle (c.skipRun (· = ' '))
    if c.peek ≠ ' ' then throw .token
    let (s, c) ← address (c.skipRun (· = ' '))
    return (.handle h s, ← spaced c)
  else return (.directive, c.skipRun fun x => !isLineStop x)

/-- Reads a directive from its mark on. -/
def directive (c : Cursor) : Except Fault (Token × Cursor) := do
  let (s, c) ← name c.next
  if !isSpaced c.peek then throw .token
  let (t, c) ← directiveValue s c
  return (t, ← Block.endOfLine c)

end Word

/-! ## The lexer -/

/-- A token that may turn out to be a key. -/
structure Candidate where
  /-- How many tokens stand before it. -/
  before : Nat
  /-- Whether a colon has to follow. -/
  required : Bool
  line : Nat
  column : Nat
  index : Nat

/-- Whether a candidate can still be a key at a place: on its line and not too far behind it. -/
def Candidate.isLive (k : Candidate) (c : Cursor) : Bool :=
  k.line = c.line && c.index - k.index ≤ 1024

/-- The tokens read so far, and what decides on the next one. -/
structure Lexer where
  cursor : Cursor
  /-- The tokens read, the latest first. -/
  done : List Token
  /-- The column of the innermost block. -/
  indent : Int
  /-- The columns of the blocks around it. -/
  outer : List Int
  /-- What may be a key on the innermost level. -/
  candidate : Option Candidate
  /-- What may be a key on the levels around it; there is one level for each open collection. -/
  around : List (Option Candidate)
  /-- Whether a key may start at the place. -/
  keyAllowed : Bool
  finished : Bool

namespace Lexer

/-- The lexer at the start of a text. -/
def start (cs : List Char) : Lexer :=
  { cursor := .start cs, done := [], indent := -1, outer := [], candidate := none, around := [],
    keyAllowed := true, finished := false }

/-- Whether the place is inside a collection between brackets. -/
def inFlow (l : Lexer) : Bool :=
  !l.around.isEmpty

/-- Adds a token. -/
def emit (l : Lexer) (t : Token) : Lexer :=
  { l with done := t :: l.done }

/-- Puts a token before the ones that were read after the first `n`. -/
def insert (l : Lexer) (n : Nat) (t : Token) : Lexer :=
  let later := l.done.length - n
  { l with done := l.done.take later ++ t :: l.done.drop later }

/-- Closes the blocks right of a column. -/
def closeFrom (column : Int) (done : List Token) : Int → List Int → List Token × Int × List Int
  | indent, [] => (done, indent, [])
  | indent, i :: is =>
    if column < indent then closeFrom column (.blockEnd :: done) i is else (done, indent, i :: is)

/-- Closes the blocks right of a column, unless the place is inside a collection. -/
def close (l : Lexer) (column : Int) : Lexer :=
  if l.inFlow then l
  else
    let (done, indent, outer) := closeFrom column l.done l.indent l.outer
    { l with done, indent, outer }

/-- Opens a block at a column right of the innermost one; `n` tokens stand before it. -/
def open? (l : Lexer) (column n : Nat) (t : Token) : Lexer :=
  if l.indent < column then
    { l.insert n t with indent := column, outer := l.indent :: l.outer }
  else l

/-- Whether a candidate that has to be a key can no longer be one. -/
def isLost (l : Lexer) : Bool :=
  (l.candidate :: l.around).any fun k => k.any fun k => k.required && !k.isLive l.cursor

/-- Drops all candidates that can no longer be keys. One that has to be a key must not be
    dropped. -/
def expire (l : Lexer) : Except Fault Lexer :=
  if l.isLost then .error .token
  else .ok { l with
    candidate := l.candidate.filter (·.isLive l.cursor)
    around := l.around.map fun k => k.filter (·.isLive l.cursor) }

/-- Drops the candidate of the innermost level. -/
def forget (l : Lexer) : Except Fault Lexer :=
  if l.candidate.any (·.required) then .error .token else .ok { l with candidate := none }

/-- Takes the next token as a candidate, if a key may start here. -/
def propose (l : Lexer) : Except Fault Lexer := do
  if !l.keyAllowed then return l
  let l ← l.forget
  let c := l.cursor
  return { l with candidate := some ⟨l.done.length, !l.inFlow && l.indent = c.column, c.line,
    c.column, c.index⟩ }

/-- Skips spaces, comments and line ends. A key may start on a new line. -/
def skipBlank : Nat → Lexer → Lexer
  | 0, l => l
  | fuel + 1, l =>
    let c := l.cursor.skipRun (· = ' ')
    let c := if c.peek = '#' then c.skipRun (fun x => !isLineStop x) else c
    match c.lineBreak? with
    | some (_, c) => skipBlank fuel { l with cursor := c, keyAllowed := l.keyAllowed || !l.inFlow }
    | none => { l with cursor := c }

/-- Skips an order mark at the start of the text. -/
def skipOrderMark (l : Lexer) : Lexer :=
  if l.cursor.index = 0 && l.cursor.peek = '\uFEFF' then { l with cursor := l.cursor.next } else l

/-- Adds a token that takes one character. -/
def mark (l : Lexer) (t : Token) : Lexer :=
  { l with cursor := l.cursor.next }.emit t

/-- The end of the text. -/
def readEnd (l : Lexer) : Except Fault Lexer := do
  let l ← (l.close (-1)).forget
  return { l.emit .textEnd with finished := true, keyAllowed := false, candidate := none }

/-- A directive. -/
def readDirective (l : Lexer) : Except Fault Lexer := do
  let l ← (l.close (-1)).forget
  let (t, c) ← Word.directive l.cursor
  return { l with cursor := c, keyAllowed := false }.emit t

/-- A mark between documents. -/
def readDocumentMark (l : Lexer) (t : Token) : Except Fault Lexer := do
  let l ← (l.close (-1)).forget
  return { l with cursor := l.cursor.skip 3, keyAllowed := false }.emit t

/-- The start of a collection between brackets. -/
def readOpening (l : Lexer) (t : Token) : Except Fault Lexer := do
  let l ← l.propose
  return { l with around := l.candidate :: l.around, candidate := none, keyAllowed := true }.mark t

/-- The end of a collection between brackets. -/
def readClosing (l : Lexer) (t : Token) : Except Fault Lexer := do
  let l ← l.forget
  let l := { l with keyAllowed := false }.mark t
  match l.around with
  | [] => return l
  | k :: around => return { l with candidate := k, around }

/-- A comma inside a collection. -/
def readComma (l : Lexer) : Except Fault Lexer := do
  let l ← l.forget
  return { l with keyAllowed := true }.mark .comma

/-- A dash in front of an item of a block. -/
def readEntry (l : Lexer) : Except Fault Lexer := do
  if !l.inFlow && !l.keyAllowed then throw .token
  let l := if l.inFlow then l else l.open? l.cursor.column l.done.length .blockSequence
  let l ← l.forget
  return { l with keyAllowed := true }.mark .entry

/-- A question mark in front of a key. -/
def readKey (l : Lexer) : Except Fault Lexer := do
  if !l.inFlow && !l.keyAllowed then throw .token
  let l := if l.inFlow then l else l.open? l.cursor.column l.done.length .blockMapping
  let l ← l.forget
  return { l with keyAllowed := !l.inFlow }.mark .key

/-- A colon: the candidate of the level turns out to be a key. -/
def readValue (l : Lexer) : Except Fault Lexer := do
  match l.candidate with
  | some k =>
    let l := { l with candidate := none, keyAllowed := false }.insert k.before .key
    let l := if l.inFlow then l else l.open? k.column k.before .blockMapping
    return l.mark .value
  | none =>
    if !l.inFlow && !l.keyAllowed then throw .token
    let l := if l.inFlow then l else l.open? l.cursor.column l.done.length .blockMapping
    return { l with keyAllowed := !l.inFlow }.mark .value

/-- A token that may be a key, read from the place on. -/
def readWord (l : Lexer) (read : Cursor → Except Fault (Token × Cursor)) : Except Fault Lexer := do
  let l ← l.propose
  let (t, c) ← read l.cursor
  return { l with cursor := c, keyAllowed := false }.emit t

/-- A block scalar. -/
def readBlock (l : Lexer) : Except Fault Lexer := do
  let l ← l.forget
  let (cs, c) ← Block.read l.indent l.cursor
  return { l with cursor := c, keyAllowed := true }.emit (.scalar (String.ofList cs) false)

/-- A plain scalar. -/
def readPlain (l : Lexer) : Except Fault Lexer := do
  let l ← l.propose
  let r := Plain.read l.inFlow l.indent l.cursor
  return { l with cursor := r.stop, keyAllowed := r.endsLine }.emit
    (.scalar (String.ofList r.text) true)

/-- A quoted scalar. -/
def readQuoted (l : Lexer) : Except Fault Lexer :=
  l.readWord fun c => (Quoted.read c).map fun (cs, c) => (.scalar (String.ofList cs) false, c)

/-- Reads the token at the place. -/
def readToken (l : Lexer) : Except Fault Lexer :=
  let c := l.cursor
  let x := c.peek
  let spaced := isWordStop (c.peekAt 1)
  if c.atEnd then l.readEnd
  else if c.column = 0 && x = '%' then l.readDirective
  else if c.column = 0 && c.hasMark '-' then l.readDocumentMark .documentStart
  else if c.column = 0 && c.hasMark '.' then l.readDocumentMark .documentEnd
  else if x = '[' then l.readOpening .flowSequence
  else if x = '\x7b' then l.readOpening .flowMapping
  else if x = ']' then l.readClosing .flowSequenceEnd
  else if x = '\x7d' then l.readClosing .flowMappingEnd
  else if x = ',' then l.readComma
  else if x = '-' && spaced then l.readEntry
  else if x = '?' && (l.inFlow || spaced) then l.readKey
  else if x = ':' && (l.inFlow || spaced) then l.readValue
  else if x = '*' then l.readWord fun c => (Word.anchor c.next).map fun (s, c) => (.reference s, c)
  else if x = '&' then l.readWord fun c => (Word.anchor c.next).map fun (s, c) => (.anchor s, c)
  else if x = '!' then l.readWord Word.tag
  else if (x = '|' || x = '>') && !l.inFlow then l.readBlock
  else if x = '\'' || x = '"' then l.readQuoted
  else if Plain.startsAt l.inFlow c then l.readPlain
  else .error .token

/-- Goes to the next token and reads it. -/
def step (l : Lexer) : Except Fault Lexer := do
  let l := skipBlank (l.cursor.rest.length + 1) l.skipOrderMark
  let l ← l.expire
  (l.close l.cursor.column).readToken

/-- How many tokens are known for certain: those before the first candidate. -/
def certain (l : Lexer) : Nat :=
  (l.candidate :: l.around).foldl
    (fun n k =>
      match k with
      | some k => if k.isLive l.cursor then min n k.before else n
      | none => n)
    l.done.length

end Lexer

/-- The tokens of a text, and the fault that stands behind them unless the text ends there. -/
structure Tokens where
  items : List Token
  fault : Option Fault

namespace Tokens

/-- Reads tokens until the text is over or a fault is met. That a key is lost is noticed before any
    further token is given away, so `given` tells how many were certain before the last one. -/
def readFrom (given : Nat) : Nat → Lexer → Tokens
  | 0, l => ⟨l.done.reverse, some .token⟩
  | fuel + 1, l =>
    if l.isLost then ⟨l.done.reverse.take given, some .token⟩
    else
      match l.step with
      | .error e => ⟨l.done.reverse.take l.certain, some e⟩
      | .ok next =>
        if next.finished then ⟨next.done.reverse, none⟩ else readFrom l.certain fuel next

/-- The tokens of a text. -/
def read (cs : List Char) : Tokens :=
  readFrom 0 (cs.length + 1) (.start cs)

end Tokens

end SearchClient.Yaml
