import SearchClient.Decimal.Digits
import SearchClient.Yaml.Cursor
import SearchClient.Yaml.Fault

set_option autoImplicit false

/-! # Block scalars

A block scalar is a run of lines with a common indentation. In the literal form every line end
counts; in the folded form the line end between two lines that start with text reads as a space.
A header says how many line ends are kept at the end: one, none or all. -/

namespace SearchClient.Yaml.Block

/-- What becomes of the line ends behind the last line. -/
inductive Chomping where
  | clip
  | strip
  | keep
deriving DecidableEq

/-- What the header of a block scalar says. -/
structure Header where
  chomping : Chomping
  /-- The indentation against the surrounding block, if it is told. -/
  indent : Option Nat

/-- Reads a sign that tells the chomping. -/
def sign? (c : Char) : Option Chomping :=
  if c = '+' then some .keep else if c = '-' then some .strip else none

/-- Reads a digit that tells the indentation. -/
def width (c : Cursor) : Except Fault (Option Nat × Cursor) :=
  match Decimal.asciiDigit? c.peek with
  | some 0 => .error .token
  | some n => .ok (some n, c.next)
  | none => .ok (none, c)

/-- Reads a header: a sign and a digit in any order, each of which may be missing. -/
def header (c : Cursor) : Except Fault (Header × Cursor) := do
  match sign? c.peek with
  | some s =>
    let (n, c) ← width c.next
    return (⟨s, n⟩, c)
  | none =>
    let (n, c) ← width c
    match n, sign? c.peek with
    | some _, some s => return (⟨s, n⟩, c.next)
    | _, _ => return (⟨.clip, n⟩, c)

/-- Skips the rest of a line that may hold a comment and nothing else. -/
def endOfLine (c : Cursor) : Except Fault Cursor :=
  let c := c.skipRun (· = ' ')
  let c := if c.peek = '#' then c.skipRun (fun x => !isLineStop x) else c
  if c.atEnd then .ok c
  else
    match c.lineBreak? with
    | some (_, c) => .ok c
    | none => .error .token

/-- Skips the blank lines in front of the text; gives their line ends and the widest column. -/
def leadingLines (widest : Nat) : Nat → Cursor → List Char × Nat × Cursor
  | 0, c => ([], widest, c)
  | fuel + 1, c =>
    let c := c.skipRun (· = ' ')
    let widest := max widest c.column
    match c.lineBreak? with
    | some (b, c) =>
      let (bs, widest, c) := leadingLines widest fuel c
      (b :: bs, widest, c)
    | none => ([], widest, c)

/-- Skips empty lines up to the given column of the next text, and gives their line ends. -/
def emptyLines (indent : Nat) : Nat → Cursor → List Char × Cursor
  | 0, c => ([], c)
  | fuel + 1, c =>
    let c := c.indentTo indent
    match c.lineBreak? with
    | some (b, c) =>
      let (bs, c) := emptyLines indent fuel c
      (b :: bs, c)
    | none => ([], c)

/-- The lines of a block scalar: their text, the last line end, those of the empty lines behind
    it, and the place where the block is over. -/
structure Lines where
  text : List Char
  lastBreak : List Char
  emptyLines : List Char
  stop : Cursor

/-- Reads the lines at the given column, from behind empty lines with the given line ends. -/
def lines (folded : Bool) (indent : Nat) : Nat → List Char → Cursor → Lines
  | 0, bs, c => ⟨[], [], bs, c⟩
  | fuel + 1, bs, c =>
    if c.column = indent && !c.atEnd then
      let gap := isGap c.peek
      let (text, c) := c.takeRun fun x => !isLineStop x
      let (lastBreak, c) :=
        match c.lineBreak? with
        | some (b, c) => ([b], c)
        | none => ([], c)
      let (more, c) := emptyLines indent fuel c
      if c.column = indent && !c.atEnd then
        let folds := folded && lastBreak = ['\n'] && !gap && !isGap c.peek
        let between := if folds then (if more.isEmpty then [' '] else []) else lastBreak
        let next := lines folded indent fuel more c
        { next with text := bs ++ text ++ between ++ next.text }
      else ⟨bs ++ text, lastBreak, more, c⟩
    else ⟨[], [], bs, c⟩

/-- Reads a block scalar from its indicator on, in a block of the given indentation. -/
def read (outer : Int) (c : Cursor) : Except Fault (List Char × Cursor) := do
  let folded := c.peek = '>'
  let (head, c) ← header c.next
  let c ← if isSpaced c.peek then endOfLine c else .error .token
  let fuel := c.rest.length + 1
  let least := max (outer + 1) 1
  let (bs, indent, c) :=
    match head.indent with
    | some n =>
      let indent := (least + n - 1).toNat
      let (bs, c) := emptyLines indent fuel c
      (bs, indent, c)
    | none =>
      let (bs, widest, c) := leadingLines 0 fuel c
      (bs, max least.toNat widest, c)
  let body := lines folded indent fuel bs c
  let ending :=
    match head.chomping with
    | .clip => body.lastBreak
    | .strip => []
    | .keep => body.lastBreak ++ body.emptyLines
  return (body.text ++ ending, body.stop)

end SearchClient.Yaml.Block
