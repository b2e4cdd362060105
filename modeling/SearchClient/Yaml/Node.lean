import SearchClient.Yaml.Tag
import SearchClient.Yaml.Token

set_option autoImplicit false

/-! # Nodes

A document is a tree of scalars, sequences and mappings, each with its tag. An anchor names a node,
and a reference stands for the node of that name; inside a node its own name stands for an empty
one. -/

namespace SearchClient.Yaml

/-- A part of a document, with its number. All references to a part have its number. -/
inductive Node where
  | scalar (number : Nat) (tag : Tag) (text : String)
  | sequence (number : Nat) (tag : Tag) (items : List Node)
  | mapping (number : Nat) (tag : Tag) (entries : List (Node × Node))

/-- The number of a node. -/
def Node.number : Node → Nat
  | .scalar number .. | .sequence number .. | .mapping number .. => number

/-- The tag of a node. -/
def Node.tag : Node → Tag
  | .scalar _ tag _ | .sequence _ tag _ | .mapping _ tag _ => tag

/-- The node that stands where nothing is written. -/
def Node.absent : Node :=
  .scalar 0 .null ""

namespace Node

/-- What is known while the tokens of a document are arranged. -/
structure State where
  tokens : List Token
  /-- The fault behind the last token. -/
  fault : Fault
  anchors : List (String × Node)
  /-- The handles of tags and what they stand for. -/
  handles : List (String × String)
  /-- The number of the last node. -/
  last : Nat := 0

/-- A step that takes tokens and may be refused. -/
abbrev Arrange := StateT State (Except Fault)

/-- The next token. -/
def peek : Arrange Token := do
  let s ← get
  match s.tokens with
  | t :: _ => return t
  | [] => throw s.fault

/-- Takes the next token. -/
def drop : Arrange Unit :=
  modify fun s => { s with tokens := s.tokens.drop 1 }

/-- Takes the next token if it is the given one. -/
def dropIf (t : Token) : Arrange Bool := do
  if (← peek) = t then
    drop
    return true
  return false

/-- Takes the next token, which has to be the given one. -/
def expect (t : Token) : Arrange Unit := do
  if !(← dropIf t) then throw .arrangement

/-- The number of a new node. -/
def fresh : Arrange Nat := do
  modify fun s => { s with last := s.last + 1 }
  return (← get).last

/-- Gives a new anchor its node. -/
def declare (anchor : Option String) (n : Node) : Arrange Unit := do
  match anchor with
  | none => return
  | some name =>
    let s ← get
    if (s.anchors.lookup name).isSome then throw .reference
    set { s with anchors := (name, n) :: s.anchors }

/-- Replaces the node of an anchor. -/
def complete (anchor : Option String) (n : Node) : Arrange Node := do
  match anchor with
  | none => return n
  | some name =>
    modify fun s => { s with anchors := (name, n) :: s.anchors }
    return n

/-- The node of a name. -/
def referred (name : String) : Arrange Node := do
  match (← get).anchors.lookup name with
  | some n => return n
  | none => throw .reference

/-- The address of a tag; a lone mark has none. -/
def address (handle : Option String) (suffix : String) : Arrange String := do
  match handle with
  | none => return suffix
  | some h =>
    match (← get).handles.lookup h with
    | some stem => return stem ++ suffix
    | none => throw .arrangement

/-- Takes the anchor in front of a node. -/
def takeAnchor : Arrange (Option String) := do
  match ← peek with
  | .anchor name =>
    drop
    return some name
  | _ => return none

/-- Takes the tag in front of a node. -/
def takeTag : Arrange (Option (Option String × String)) := do
  match ← peek with
  | .tag handle suffix =>
    drop
    return some (handle, suffix)
  | _ => return none

/-- Takes the anchor and the tag in front of a node, in either order. -/
def properties : Arrange (Option String × Option String) := do
  let first ← takeAnchor
  let tag ← takeTag
  let anchor ← if first.isSome || tag.isNone then pure first else takeAnchor
  match tag with
  | some (handle, suffix) => return (anchor, some (← address handle suffix))
  | none => return (anchor, none)

/-- The tag of a node from its address, if it has one; a lone mark counts as none. -/
def tagOr (given : Option String) (default : Tag) : Tag :=
  match given with
  | none => default
  | some "!" => default
  | some s => .ofAddress s

/-- The tag of a scalar. A lone mark has it read like a plain one. -/
def scalarTag (given : Option String) (plain : Bool) (text : String) : Tag :=
  match given with
  | none => if plain then .ofPlain text else .text
  | some "!" => .ofPlain text
  | some s => .ofAddress s

/-- Whether an item or a value is missing, because one of the given tokens follows. -/
def missing (stops : List Token) : Arrange Bool := do
  return stops.contains (← peek)

mutual

/-- Arranges a node. In a block it may be a block; `bare` says that it may be a sequence at the
    column of the mapping around it. -/
def arrange (block bare : Bool) : Nat → Arrange Node
  | 0 => throw .arrangement
  | fuel + 1 => do
    match ← peek with
    | .reference name =>
      drop
      referred name
    | _ =>
      let (anchor, tag) ← properties
      let t ← peek
      let i ← fresh
      let sequenceTag := tagOr tag .sequence
      let mappingTag := tagOr tag .mapping
      if bare && t = .entry then
        declare anchor (.sequence i sequenceTag [])
        complete anchor (.sequence i sequenceTag (← bareItems fuel))
      else
        match t with
        | .scalar text plain =>
          drop
          let n := Node.scalar i (scalarTag tag plain text) text
          declare anchor n
          return n
        | .flowSequence =>
          declare anchor (.sequence i sequenceTag [])
          drop
          complete anchor (.sequence i sequenceTag (← flowItems true fuel))
        | .flowMapping =>
          declare anchor (.mapping i mappingTag [])
          drop
          complete anchor (.mapping i mappingTag (← flowEntries true fuel))
        | t =>
          if block && t = .blockSequence then
            declare anchor (.sequence i sequenceTag [])
            drop
            complete anchor (.sequence i sequenceTag (← blockItems fuel))
          else if block && t = .blockMapping then
            declare anchor (.mapping i mappingTag [])
            drop
            complete anchor (.mapping i mappingTag (← blockEntries fuel))
          else if anchor.isSome || tag.isSome then
            let n := Node.scalar i (scalarTag tag true "") ""
            declare anchor n
            return n
          else throw .arrangement

/-- Arranges the items of a sequence in a block. -/
def blockItems : Nat → Arrange (List Node)
  | 0 => throw .arrangement
  | fuel + 1 => do
    if ← dropIf .entry then
      let n ← if ← missing [.entry, .blockEnd] then pure absent else arrange true false fuel
      return n :: (← blockItems fuel)
    else
      expect .blockEnd
      return []

/-- Arranges the items of a sequence that stands at the column of the mapping around it. -/
def bareItems : Nat → Arrange (List Node)
  | 0 => throw .arrangement
  | fuel + 1 => do
    if ← dropIf .entry then
      let n ← if ← missing [.entry, .key, .value, .blockEnd] then pure absent
        else arrange true false fuel
      return n :: (← bareItems fuel)
    else return []

/-- Arranges the entries of a mapping in a block. -/
def blockEntries : Nat → Arrange (List (Node × Node))
  | 0 => throw .arrangement
  | fuel + 1 => do
    let stops : List Token := [.key, .value, .blockEnd]
    if ← dropIf .key then
      let k ← if ← missing stops then pure absent else arrange true true fuel
      let v ←
        if ← dropIf .value then
          if ← missing stops then pure absent else arrange true true fuel
        else pure absent
      return (k, v) :: (← blockEntries fuel)
    else
      expect .blockEnd
      return []

/-- Arranges the items of a sequence between brackets; an item that is a key with its value is a
    mapping. -/
def flowItems (first : Bool) : Nat → Arrange (List Node)
  | 0 => throw .arrangement
  | fuel + 1 => do
    if ← dropIf .flowSequenceEnd then return []
    if !first then expect .comma
    if ← dropIf .key then
      let k ← if ← missing [.value, .comma, .flowSequenceEnd] then pure absent
        else arrange false false fuel
      let i ← fresh
      let v ← flowValue .flowSequenceEnd fuel
      return .mapping i .mapping [(k, v)] :: (← flowItems false fuel)
    else if ← dropIf .flowSequenceEnd then return []
    else
      let n ← arrange false false fuel
      return n :: (← flowItems false fuel)

/-- Arranges the value behind a key between brackets. -/
def flowValue (closing : Token) : Nat → Arrange Node
  | 0 => throw .arrangement
  | fuel + 1 => do
    if ← dropIf .value then
      if ← missing [.comma, closing] then return absent else arrange false false fuel
    else return absent

/-- Arranges the entries of a mapping between braces; an entry may lack its value. -/
def flowEntries (first : Bool) : Nat → Arrange (List (Node × Node))
  | 0 => throw .arrangement
  | fuel + 1 => do
    if ← dropIf .flowMappingEnd then return []
    if !first then expect .comma
    if ← dropIf .key then
      let k ← if ← missing [.value, .comma, .flowMappingEnd] then pure absent
        else arrange false false fuel
      let v ← flowValue .flowMappingEnd fuel
      return (k, v) :: (← flowEntries false fuel)
    else if ← dropIf .flowMappingEnd then return []
    else
      let k ← arrange false false fuel
      return (k, absent) :: (← flowEntries false fuel)

end

/-! ## Documents -/

/-- The handles that every document knows. -/
def commonHandles : List (String × String) :=
  [("!", "!"), ("!!", Tag.common)]

/-- Takes the directives in front of a document; gives the handles they declare. -/
def directives (versioned : Bool) (handles : List (String × String)) :
    Nat → Arrange (List (String × String))
  | 0 => throw .arrangement
  | fuel + 1 => do
    match ← peek with
    | .version major _ =>
      if versioned || major ≠ 1 then throw .arrangement
      drop
      directives true handles fuel
    | .handle name stem =>
      if (handles.lookup name).isSome then throw .arrangement
      drop
      directives versioned ((name, stem) :: handles) fuel
    | .directive =>
      drop
      directives versioned handles fuel
    | _ => return handles

/-- Skips the marks that end documents. -/
def skipEnds : Nat → Arrange Unit
  | 0 => return
  | fuel + 1 => do
    if ← dropIf .documentEnd then skipEnds fuel

/-- Arranges the start of a document that is announced; `false` if the text is over instead. -/
def announce (fuel : Nat) : Arrange Bool := do
  skipEnds fuel
  if ← missing [.textEnd] then return false
  let handles ← directives false [] fuel
  expect .documentStart
  modify fun s => { s with handles := handles ++ commonHandles }
  return true

/-- Arranges a document behind its announcement; it may be empty. -/
def content (fuel : Nat) : Arrange Node := do
  match ← peek with
  | .version .. | .handle .. | .directive | .documentStart | .documentEnd | .textEnd =>
    return absent
  | _ => arrange true false fuel

/-- Arranges the only document of a text, if there is one. -/
def only (fuel : Nat) : Arrange (Option Node) := do
  match ← peek with
  | .textEnd => return none
  | .version .. | .handle .. | .directive | .documentStart =>
    if ← announce fuel then finish (← content fuel) else return none
  | _ => finish (← arrange true false fuel)
where
  /-- Makes sure that no further document follows. -/
  finish (n : Node) : Arrange (Option Node) := do
    let _ ← dropIf .documentEnd
    if ← announce fuel then throw .reference
    return some n

/-- The tree of the only document of a text. -/
def ofTokens (ts : Tokens) : Except Fault (Option Node) :=
  let s : State := ⟨ts.items, ts.fault.getD .arrangement, [], commonHandles, 0⟩
  ((only (2 * ts.items.length + 2)).run s).map (·.1)

end Node

end SearchClient.Yaml
