import SearchClient.Value.Basic

set_option autoImplicit false

/-! # Values used as what they are not

Callers may hand in any value. What has no items cannot be gone through, and what has no members
cannot be asked for one. -/

namespace SearchClient

/-- How a value fails to be what it is used as. -/
inductive Misuse where
  /-- The value, or its number of values, does not fit the use. -/
  | wrongType
  /-- The value has no such member or operation. -/
  | noMember
  /-- A pair of a map to be is not a pair; its place and length are told. -/
  | notPair (place length : Nat)
  /-- The value holds an integer with too many digits to be written. -/
  | tooLong
deriving DecidableEq

namespace Value

/-- The characters of a text as values. -/
def characters (s : String) : List Value :=
  s.toList.map fun c => .text (String.ofList [c])

/-- What going through a value gives: items, characters, names, or the members of a record. -/
def elements : Value → Except Misuse (List Value)
  | .list items => .ok items
  | .text s => .ok (characters s)
  | .symbol s => .ok (characters s.wire)
  | .map entries => .ok (entries.map fun (name, _) => .text name)
  | .octets bs => .ok (bs.map fun b => .int b.toNat)
  | .pair name v => .ok [.text name, v]
  | .record _ fields extra _ => .ok ((fields ++ extra).map fun (name, v) => .pair name v)
  | _ => .error .wrongType

end Value

end SearchClient
