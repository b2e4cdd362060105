import SearchClient.Text.Hex
import SearchClient.Text.Surrogate
import SearchClient.Yaml.Cursor
import SearchClient.Yaml.Fault

set_option autoImplicit false

/-! # Quoted scalars

A scalar between single quotes holds a quote where two of them stand; one between double quotes has
escapes behind a backslash. A line end folds: alone it reads as a space, and of several all but the
first are kept. The gaps around a folded line end do not count. -/

namespace SearchClient.Yaml

/-- What a folded line end reads as, by the line ends of the empty lines behind it. -/
def foldBreak (first : Char) (more : List Char) : List Char :=
  if first ≠ '\n' then first :: more else if more.isEmpty then [' '] else more

namespace Quoted

/-- The character that a letter behind a backslash stands for. -/
def escaped? (c : Char) : Option Char :=
  [('0', '\x00'), ('a', '\x07'), ('b', '\x08'), ('t', '\t'), ('\t', '\t'), ('n', '\n'),
   ('v', '\x0b'), ('f', '\x0c'), ('r', '\r'), ('e', '\x1b'), (' ', ' '), ('"', '"'), ('\\', '\\'),
   ('/', '/'), ('N', '\x85'), ('_', '\xa0'), ('L', '\u2028'), ('P', '\u2029')].lookup c

/-- How many digits a numbered escape has. -/
def width? (c : Char) : Option Nat :=
  [('x', 2), ('u', 4), ('U', 8)].lookup c

/-- The number that hexadecimal digits denote. -/
def hexNumber? (cs : List Char) : Option Nat :=
  (cs.mapM Text.hexValue?).map fun ds => ds.foldl (fun acc d => 16 * acc + d) 0

/-- Reads the digits of a numbered escape. -/
def numbered (width : Nat) (c : Cursor) : Except Fault (Char × Cursor) :=
  let digits := c.rest.take width
  match hexNumber? digits with
  | some n =>
    if digits.length < width then .error .token
    else if 0x7FFFFFFF < n then .error .tooLarge
    else if 0x10FFFF < n then .error (.badScalar "chr() arg not in range(0x110000)")
    else .ok (Text.charOf n, c.skip width)
  | none => .error .token

/-- Skips empty lines and the gap in front of the next text, and gives the line ends. -/
def emptyLines : Nat → Cursor → Except Fault (List Char × Cursor)
  | 0, _ => .error .token
  | fuel + 1, c =>
    if c.atDocumentMark then .error .token
    else
      let c := c.skipRun isGap
      match c.lineBreak? with
      | some (b, c) => (emptyLines fuel c).map fun (bs, c) => (b :: bs, c)
      | none => .ok ([], c)

/-- Puts text in front of what is read next. -/
def prepend (cs : List Char) (r : Except Fault (List Char × Cursor)) :
    Except Fault (List Char × Cursor) :=
  r.map fun (more, c) => (cs ++ more, c)

/-- Reads a quoted scalar behind its opening quote. -/
def readFrom (double : Bool) : Nat → Cursor → Except Fault (List Char × Cursor)
  | 0, _ => .error .token
  | fuel + 1, c =>
    let x := c.peek
    if c.atEnd then .error .token
    else if isGap x || isBreak x then do
      let (gap, c) := c.takeRun isGap
      match c.lineBreak? with
      | some (b, c) =>
        let (bs, c) ← emptyLines fuel c
        prepend (foldBreak b bs) (readFrom double fuel c)
      | none => prepend gap (readFrom double fuel c)
    else if double then
      if x = '"' then .ok ([], c.next)
      else if x = '\\' then
        let c := c.next
        match escaped? c.peek, width? c.peek with
        | some e, _ => prepend [e] (readFrom double fuel c.next)
        | none, some width => do
          let (e, c) ← numbered width c.next
          prepend [e] (readFrom double fuel c)
        | none, none =>
          match c.lineBreak? with
          | some (_, c) => do
            let (bs, c) ← emptyLines fuel c
            prepend bs (readFrom double fuel c)
          | none => .error .token
      else prepend [x] (readFrom double fuel c.next)
    else if x = '\'' then
      if c.peekAt 1 = '\'' then prepend [x] (readFrom double fuel (c.skip 2)) else .ok ([], c.next)
    else prepend [x] (readFrom double fuel c.next)

/-- Reads a quoted scalar from its opening quote on. -/
def read (c : Cursor) : Except Fault (List Char × Cursor) :=
  readFrom (c.peek = '"') (c.rest.length + 1) c.next

end Quoted

end SearchClient.Yaml
