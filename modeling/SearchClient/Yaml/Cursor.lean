set_option autoImplicit false

/-! # Places in a text

A `Cursor` is what is left of a text, with the line and column of its first character and the
number of characters before it. Past the end it shows the character zero, which no text holds. -/

namespace SearchClient.Yaml

/-- The characters that end a line. -/
def isBreak (c : Char) : Bool :=
  c = '\n' || c = '\r' || c = '\x85' || c = '\u2028' || c = '\u2029'

/-- A space or a tab. -/
def isGap (c : Char) : Bool :=
  c = ' ' || c = '\t'

/-- Whether a character ends a line or the text. -/
def isLineStop (c : Char) : Bool :=
  c = '\x00' || isBreak c

/-- Whether a character separates tokens: a space, the end of a line or of the text. -/
def isSpaced (c : Char) : Bool :=
  c = ' ' || isLineStop c

/-- Whether a character is a gap or ends a line or the text. -/
def isWordStop (c : Char) : Bool :=
  isGap c || isLineStop c

/-- A place in a text. -/
structure Cursor where
  rest : List Char
  line : Nat
  column : Nat
  index : Nat

namespace Cursor

/-- The start of a text. -/
def start (cs : List Char) : Cursor :=
  ⟨cs, 0, 0, 0⟩

/-- The character that stands `n` places further on. -/
def peekAt (c : Cursor) (n : Nat) : Char :=
  (c.rest.drop n).headD '\x00'

/-- The character at the place. -/
def peek (c : Cursor) : Char :=
  c.rest.headD '\x00'

/-- Whether the text is over. -/
def atEnd (c : Cursor) : Bool :=
  c.rest.isEmpty

/-- The place behind the next character. An order mark takes no column. -/
def next (c : Cursor) : Cursor :=
  match c.rest with
  | [] => c
  | x :: rest =>
    if isBreak x && !(x = '\r' && rest.headD '\x00' = '\n') then ⟨rest, c.line + 1, 0, c.index + 1⟩
    else ⟨rest, c.line, if x = '\uFEFF' then c.column else c.column + 1, c.index + 1⟩

/-- The place `n` characters further on. -/
def skip : Nat → Cursor → Cursor
  | 0, c => c
  | n + 1, c => skip n c.next

/-- The characters of a class from the place on. -/
def run (c : Cursor) (p : Char → Bool) : List Char :=
  c.rest.takeWhile p

/-- The characters of a class from the place on, and the place behind them. -/
def takeRun (c : Cursor) (p : Char → Bool) : List Char × Cursor :=
  (c.run p, skip (c.run p).length c)

/-- The place behind the characters of a class. -/
def skipRun (c : Cursor) (p : Char → Bool) : Cursor :=
  (c.takeRun p).2

/-- Reads the end of a line. All but the two separators of Unicode read as a line feed. -/
def lineBreak? (c : Cursor) : Option (Char × Cursor) :=
  let x := c.peek
  if x = '\r' && c.peekAt 1 = '\n' then some ('\n', skip 2 c)
  else if x = '\r' || x = '\n' || x = '\x85' then some ('\n', c.next)
  else if x = '\u2028' || x = '\u2029' then some (x, c.next)
  else none

/-- Skips spaces as long as the column is below the given one. -/
def indentTo (c : Cursor) (column : Nat) : Cursor :=
  skip (min (c.run (· = ' ')).length (column - c.column)) c

/-- Whether three equal marks and then no further word stand at the place. -/
def hasMark (c : Cursor) (mark : Char) : Bool :=
  c.peek = mark && c.peekAt 1 = mark && c.peekAt 2 = mark && isWordStop (c.peekAt 3)

/-- Whether the place is at a line of three dashes or dots. -/
def atDocumentMark (c : Cursor) : Bool :=
  c.hasMark '-' || c.hasMark '.'

end Cursor

end SearchClient.Yaml
