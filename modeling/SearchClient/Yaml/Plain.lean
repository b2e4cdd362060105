import SearchClient.Yaml.Quoted

set_option autoImplicit false

/-! # Plain scalars

A plain scalar has no quotes. It ends at a comment, at a colon with a gap behind it, at the marks of
a collection inside one, or where a line starts left of its block. -/

namespace SearchClient.Yaml.Plain

/-- Whether a plain scalar may start at the place. -/
def startsAt (inCollection : Bool) (c : Cursor) : Bool :=
  let x := c.peek
  if isWordStop x then false
  else if "-?:,[]\x7b\x7d#&*!|>'\"%@\x60".toList.contains x then
    !isWordStop (c.peekAt 1) && (x = '-' || (!inCollection && (x = '?' || x = ':')))
  else true

/-- The characters of a collection that end a plain scalar inside it. -/
def isCollectionMark (c : Char) : Bool :=
  c = ',' || c = '?' || c = '[' || c = ']' || c = '\x7b' || c = '\x7d'

/-- The characters up to the next gap or the end of the scalar. -/
def word (inCollection : Bool) : List Char → List Char
  | [] => []
  | x :: xs =>
    let after := xs.headD '\x00'
    let colon :=
      x = ':' && (isWordStop after || (inCollection && after ≠ '?' && isCollectionMark after))
    if isWordStop x || colon || (inCollection && isCollectionMark x) then []
    else x :: word inCollection xs

/-- Skips spaces and empty lines, up to a document mark; gives the line ends unless there is a
    mark. -/
def emptyLines : Nat → Cursor → Option (List Char) × Cursor
  | 0, c => (some [], c)
  | fuel + 1, c =>
    if c.atDocumentMark then (none, c)
    else
      let c := c.skipRun (· = ' ')
      match c.lineBreak? with
      | some (b, c) =>
        let (bs, c) := emptyLines fuel c
        (bs.map (b :: ·), c)
      | none => (some [], c)

/-- What stands behind a word: how the gap reads, the place behind it, and whether a line ended. -/
def gap (c : Cursor) : List Char × Cursor × Bool :=
  let (spaces, c) := c.takeRun (· = ' ')
  match c.lineBreak? with
  | some (b, c) =>
    match emptyLines (c.rest.length + 1) c with
    | (some bs, c) => (foldBreak b bs, c, true)
    | (none, c) => ([], c, true)
  | none => (spaces, c, false)

/-- A plain scalar: its text, the place behind it, and whether a line ended there. -/
structure Read where
  text : List Char
  stop : Cursor
  endsLine : Bool

/-- Reads words and the gaps between them; `endsLine` tells of the gap in front. -/
def readFrom (inCollection : Bool) (outer : Int) : Nat → Bool → Cursor → Read
  | 0, endsLine, c => ⟨[], c, endsLine⟩
  | fuel + 1, endsLine, c =>
    let text := if c.peek = '#' then [] else word inCollection c.rest
    if text.isEmpty then ⟨[], c, endsLine⟩
    else
      let (space, c, endsLine) := gap (c.skip text.length)
      if space.isEmpty || c.peek = '#' || (!inCollection && (c.column : Int) ≤ outer) then
        ⟨text, c, endsLine⟩
      else
        let next := readFrom inCollection outer fuel endsLine c
        if next.text.isEmpty then { next with text := text }
        else { next with text := text ++ space ++ next.text }

/-- Reads a plain scalar in a block of the given indentation. -/
def read (inCollection : Bool) (outer : Int) (c : Cursor) : Read :=
  readFrom inCollection outer (c.rest.length + 1) false c

end SearchClient.Yaml.Plain
