import SearchClient.Value.Pairs
import SearchClient.Yaml.Survey

set_option autoImplicit false

/-! # Documents

The value of a document, once a survey has met no fault in it. A mapping may take the entries of
others in by a merge key; its own entries come after those. The keys of the outermost mapping keep
their values, since a key need not be a text; further in a key goes by its text. -/

namespace SearchClient.Yaml

/-! ## Trees -/

namespace Node

/-- The values of collections that are known already, by their numbers. -/
abbrev Building := StateT (List (Nat × Value)) (Except Fault)

/-- Builds the value of a collection unless it is known already. -/
def once (number : Nat) (build : Building Value) : Building Value := do
  match (← get).lookup number with
  | some v => return v
  | none =>
    let v ← build
    modify ((number, v) :: ·)
    return v

/-- The name of a key of an inner mapping. -/
def keyText : Value → String
  | .text s => s
  | v => v.literalText

/-- A mapping from pairs of values, its keys by their texts. -/
def mappingOf (pairs : List (Value × Value)) : Value :=
  .map (Entries.ofPairs (pairs.map fun (k, v) => (keyText k, v)))

mutual

/-- The value of a node. -/
def value : Node → Building Value
  | .scalar _ tag s => Scalar.value tag s
  | .sequence number tag items =>
    match tag with
    | .sequence => once number do return .list (← values items)
    | .orderedPairs | .pairs => once number do return .list (← singles items)
    | _ => throw .tag
  | .mapping number tag entries =>
    match tag with
    | .mapping =>
      once number do
        let (merged, own) ← pairs entries
        return mappingOf (merged ++ own)
    | .set =>
      once number do
        let (merged, own) ← pairs entries
        return .list ((merged ++ own).map (·.1))
    | tag => do Scalar.value tag (← Survey.ownText [] entries)

/-- The values of the items of a sequence. -/
def values : List Node → Building (List Value)
  | [] => return []
  | n :: ns => do
    let v ← value n
    let vs ← values ns
    return v :: vs

/-- The items of a sequence of mappings with one entry each. -/
def singles : List Node → Building (List Value)
  | [] => return []
  | .mapping _ _ [(k, v)] :: ns => do
    let k ← value k
    let v ← value v
    let vs ← singles ns
    return .list [k, v] :: vs
  | _ :: _ => throw .tag

/-- The entries of a mapping: those of the mappings that it merges in, and its own. -/
def pairs : List (Node × Node) → Building (List (Value × Value) × List (Value × Value))
  | [] => return ([], [])
  | (k, v) :: es => do
    if k.tag = .merge then
      let here ← mergedIn v
      let (merged, own) ← pairs es
      return (here ++ merged, own)
    else
      let k ← value k
      let v ← value v
      let (merged, own) ← pairs es
      return (merged, (k, v) :: own)

/-- The entries that a merge key takes in: those of a mapping, or of several of which the first has
    the last word. -/
def mergedIn : Node → Building (List (Value × Value))
  | .mapping _ _ entries => do
    let (merged, own) ← pairs entries
    return merged ++ own
  | .sequence _ _ items => mergedAll items
  | .scalar .. => throw .tag

/-- The entries of several mappings, those of the first one last. -/
def mergedAll : List Node → Building (List (Value × Value))
  | [] => return []
  | .mapping _ _ entries :: ns => do
    let (merged, own) ← pairs entries
    let later ← mergedAll ns
    return later ++ (merged ++ own)
  | _ :: _ => throw .tag

end

end Node

/-! ## Documents -/

/-- What a configuration text holds. -/
inductive Document where
  | value (v : Value)
  | mapping (entries : List (Value × Value))

namespace Document

/-- Whether a character may stand in a text. -/
def isAllowed (c : Char) : Bool :=
  let n := c.toNat
  n = 0x09 || n = 0x0A || n = 0x0D || (0x20 ≤ n && n ≤ 0x7E) || n = 0x85 ||
    (0xA0 ≤ n && n ≤ 0xD7FF) || (0xE000 ≤ n && n ≤ 0xFFFD) || 0x10000 ≤ n

/-- What a tree holds, of the given number of levels at most. -/
def ofNode (depth : Nat) (n : Node) : Except Fault Document := do
  Survey.check depth n
  match n with
  | .mapping _ .mapping entries =>
    let ((merged, own), _) ← (Node.pairs entries).run []
    return .mapping (merged ++ own)
  | n => return .value (← n.value.run []).1

/-- Reads a configuration text. A text without a document holds null. -/
def read (cs : List Char) : Except Fault Document :=
  if cs.all isAllowed then do
    let tokens := Tokens.read cs
    match ← Node.ofTokens tokens with
    | some n => ofNode (tokens.items.length + 1) n
    | none => return .value .null
  else .error .character

end Document

end SearchClient.Yaml
