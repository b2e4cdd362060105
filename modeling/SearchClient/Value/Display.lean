import SearchClient.Decimal.Layout
import SearchClient.Text.Quoted
import SearchClient.Value.Basic

set_option autoImplicit false

/-! # Values as text

`Value.literal` is the text of a value inside a container: texts are quoted, records and dates name
their kind. `Value.display` is the text of a value on its own: a text stands for itself, a date is
in its interchange form, and a record lists its members. A value with an integer of too many digits
has a text that is never made: `Value.isShort` tells which values can be written. -/

namespace SearchClient.Value

/-- Joins texts with a separator. -/
def joinWith (separator : String) : List (List Char) → List Char
  | [] => []
  | [cs] => cs
  | cs :: rest => cs ++ separator.toList ++ joinWith separator rest

mutual

/-- The text of a value inside a container. -/
def literal : Value → List Char
  | .null => "None".toList
  | .bool true => "True".toList
  | .bool false => "False".toList
  | .int n => Decimal.ofInt n
  | .float x => Layout.plain.render x
  | .text s => Text.quoted s.toList
  | .list items => '[' :: joinWith ", " (literalItems items) ++ [']']
  | .map entries => '{' :: joinWith ", " (literalEntries entries) ++ ['}']
  | .date d => d.constructorText.toList
  | .dateTime t => t.constructorText.toList
  | .symbol s =>
    '<' :: s.qualified.toList ++ ": ".toList ++ Text.quoted s.wire.toList ++ ['>']
  | .octets bs => 'b' :: Text.quotedOctets bs
  | .pair name v => '(' :: Text.quoted name.toList ++ ", ".toList ++ v.literal ++ [')']
  | .record model fields extra _ =>
    model.title.toList ++ '(' ::
      joinWith ", " (literalMembers fields ++ literalMembers extra) ++ [')']

/-- The texts of the items of a list. -/
def literalItems : List Value → List (List Char)
  | [] => []
  | v :: items => v.literal :: literalItems items

/-- The texts of the entries of a map. -/
def literalEntries : List (String × Value) → List (List Char)
  | [] => []
  | (name, v) :: entries =>
    (Text.quoted name.toList ++ ": ".toList ++ v.literal) :: literalEntries entries

/-- The texts of the members of a record. -/
def literalMembers : List (String × Value) → List (List Char)
  | [] => []
  | (name, v) :: members => (name.toList ++ '=' :: v.literal) :: literalMembers members

end

/-- The text of a value on its own. -/
def display : Value → List Char
  | .text s => s.toList
  | .date d => d.isoText.toList
  | .dateTime t => (t.isoTextWith ' ').toList
  | .symbol s => s.qualified.toList
  | .record _ fields extra _ => joinWith " " (literalMembers fields ++ literalMembers extra)
  | v => v.literal

/-- `Value.display` as a string. -/
def displayText (v : Value) : String :=
  String.ofList v.display

/-- `Value.literal` as a string. -/
def literalText (v : Value) : String :=
  String.ofList v.literal

/-! ## Values that can be written -/

mutual

/-- Whether every integer in a value can be written. -/
def isShort : Value → Bool
  | .int n => Decimal.isShort n
  | .list items => itemsAreShort items
  | .map entries => entriesAreShort entries
  | .pair _ v => v.isShort
  | .record _ fields extra _ => entriesAreShort fields && entriesAreShort extra
  | _ => true

/-- Whether every integer in the items of a list can be written. -/
def itemsAreShort : List Value → Bool
  | [] => true
  | v :: items => v.isShort && itemsAreShort items

/-- Whether every integer in the values of entries can be written. -/
def entriesAreShort : List (String × Value) → Bool
  | [] => true
  | (_, v) :: entries => v.isShort && entriesAreShort entries

end

theorem isShort_list_iff {items : List Value} :
    (list items).isShort = true ↔ ∀ v ∈ items, v.isShort = true := by
  rw [isShort]
  induction items with
  | nil => simp [itemsAreShort]
  | cons v items ih => rw [itemsAreShort, Bool.and_eq_true, ih, List.forall_mem_cons]

theorem isShort_map_iff {entries : Entries Value} :
    (map entries).isShort = true ↔ ∀ e ∈ entries, e.2.isShort = true := by
  rw [isShort]
  induction entries with
  | nil => simp [entriesAreShort]
  | cons e entries ih => rw [entriesAreShort, Bool.and_eq_true, ih, List.forall_mem_cons]

end SearchClient.Value
