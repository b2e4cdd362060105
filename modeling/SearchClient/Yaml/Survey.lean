import SearchClient.Yaml.Node
import SearchClient.Yaml.Scalar

set_option autoImplicit false

/-! # Surveys

Of several faults in the values of a document the first one that is met counts. A survey meets the
parts of a collection in order, but puts off what collections among them hold until all collections
of their level have been gone through. What is referred to twice is gone through once.

A lone equals sign stands for nothing but the name of a mapping's own value. As a key it becomes a
text, for good, as soon as its mapping is gone through. -/

namespace SearchClient.Yaml

/-- What a survey has met: the collections it has gone through or put off, and the equals signs that
    have become texts. -/
structure Survey where
  met : List Nat := []
  texts : List Nat := []

namespace Survey

/-- A step of a survey, which may meet a fault. -/
abbrev Step := StateT Survey (Except Fault)

mutual

/-- The text of a scalar, or of the value that a mapping has under an equals sign. -/
def text (texts : List Nat) : Node → Except Fault String
  | .scalar _ _ s => .ok s
  | .sequence .. => .error .tag
  | .mapping _ _ entries => ownText texts entries

/-- The text of the first value under an equals sign. -/
def ownText (texts : List Nat) : List (Node × Node) → Except Fault String
  | [] => .error .tag
  | (k, v) :: es =>
    if k.tag = .equals && !texts.contains k.number then text texts v else ownText texts es

end

/-- Whether a tag is one of collections, whose parts are put off. -/
def isCollectionTag : Tag → Bool
  | .sequence | .mapping | .set | .orderedPairs | .pairs => true
  | _ => false

/-- Meets a node: a collection is put off unless it has been met, a scalar must have a value. -/
def meet (n : Node) : Step (List Node) := do
  let s ← get
  if isCollectionTag n.tag then
    if s.met.contains n.number then return []
    set { s with met := n.number :: s.met }
    return [n]
  else if n.tag = .equals && !s.texts.contains n.number then throw .tag
  else
    let t ← text s.texts n
    match n, n.tag with
    | .mapping .., .time => throw .noText
    | _, tag =>
      let _ ← Scalar.value tag t
      return []

mutual

/-- The entries of a mapping, with those it merges in in front of its own. Its equals signs become
    texts. -/
def flatten : List (Node × Node) → Step (List (Node × Node) × List (Node × Node))
  | [] => return ([], [])
  | (k, v) :: es => do
    if k.tag = .merge then
      let here ← mergedIn v
      let (merged, own) ← flatten es
      return (here ++ merged, own)
    else
      if k.tag = .equals then modify fun s => { s with texts := k.number :: s.texts }
      let (merged, own) ← flatten es
      return (merged, (k, v) :: own)

/-- The entries that a merge key takes in: those of a mapping, or of several of which the first has
    the last word. -/
def mergedIn : Node → Step (List (Node × Node))
  | .mapping _ _ entries => do
    let (merged, own) ← flatten entries
    return merged ++ own
  | .sequence _ _ items => mergedAll items
  | .scalar .. => throw .tag

/-- The entries of several mappings, those of the first one last. -/
def mergedAll : List Node → Step (List (Node × Node))
  | [] => return []
  | .mapping _ _ entries :: ns => do
    let (merged, own) ← flatten entries
    let later ← mergedAll ns
    return later ++ (merged ++ own)
  | _ :: _ => throw .tag

end

/-- Whether a node is a collection, and so can be no key. -/
def isCollection (n : Node) : Bool :=
  isCollectionTag n.tag

/-- Meets the keys and values of entries. -/
def meetEntries (keysMatter : Bool) : List (Node × Node) → Step (List Node)
  | [] => return []
  | (k, v) :: es => do
    let first ← meet k
    if keysMatter && isCollection k then throw .tag
    let second ← meet v
    let rest ← meetEntries keysMatter es
    return first ++ second ++ rest

/-- Meets the parts of a sequence of mappings with one entry each. -/
def meetSingles : List Node → Step (List Node)
  | [] => return []
  | .mapping _ _ [entry] :: ns => do
    let first ← meetEntries false [entry]
    let rest ← meetSingles ns
    return first ++ rest
  | _ :: _ => throw .tag

/-- Meets nodes in order. -/
def meetAll : List Node → Step (List Node)
  | [] => return []
  | n :: ns => do
    let first ← meet n
    let rest ← meetAll ns
    return first ++ rest

/-- Goes through a collection that was put off; gives those among its parts. -/
def enter (n : Node) : Step (List Node) := do
  match n with
  | .sequence _ .sequence items => meetAll items
  | .sequence _ .orderedPairs items | .sequence _ .pairs items => meetSingles items
  | .mapping _ .mapping entries | .mapping _ .set entries =>
    let (merged, own) ← flatten entries
    meetEntries true (merged ++ own)
  | _ => throw .tag

/-- Goes through all collections of a level. -/
def enterAll : List Node → Step (List Node)
  | [] => return []
  | n :: ns => do
    let first ← enter n
    let rest ← enterAll ns
    return first ++ rest

/-- Goes through level after level. -/
def levels : Nat → List Node → Step Unit
  | 0, _ | _, [] => return
  | fuel + 1, ns => do levels fuel (← enterAll ns)

/-- Surveys the tree below a node of the given number of levels at most. -/
def check (depth : Nat) (n : Node) : Except Fault Unit :=
  ((do levels depth (← meet n) : Step Unit).run {}).map (·.1)

end Survey

end SearchClient.Yaml
