set_option autoImplicit false

/-! # Ordered entries

Pairs of a name and a value whose order counts. Writing a name that is there already keeps its
place; a new name goes to the end. -/

namespace SearchClient

/-- Named values in order. -/
abbrev Entries (α : Type) := List (String × α)

namespace Entries

variable {α : Type}

/-- The value of a name. -/
def get? (es : Entries α) (name : String) : Option α :=
  match es with
  | [] => none
  | (n, v) :: es => if n = name then some v else get? es name

/-- Whether a name is there. -/
def has (es : Entries α) (name : String) : Bool :=
  (es.get? name).isSome

/-- Gives a name a value. -/
def put (es : Entries α) (name : String) (value : α) : Entries α :=
  match es with
  | [] => [(name, value)]
  | (n, v) :: es => if n = name then (n, value) :: es else (n, v) :: put es name value

/-- Writes the second entries over the first. -/
def merge (es upper : Entries α) : Entries α :=
  upper.foldl (fun acc (n, v) => acc.put n v) es

/-- Entries from pairs in which a name may occur more than once: its first place, its last value. -/
def ofPairs (pairs : List (String × α)) : Entries α :=
  merge [] pairs

/-- The names in order. -/
def names (es : Entries α) : List String :=
  es.map (·.1)

/-- Removes a name. -/
def erase (es : Entries α) (name : String) : Entries α :=
  es.filter (·.1 ≠ name)

/-! ## Looking up after writing -/

/-- A name that was written has the value written, and all other names have what they had. -/
theorem get?_put (es : Entries α) (name other : String) (value : α) :
    (es.put name value).get? other = if name = other then some value else es.get? other := by
  induction es with
  | nil => simp [put, get?]
  | cons e es ih =>
    unfold put
    split
    case isTrue h => subst h; simp only [get?]; split <;> rfl
    case isFalse h =>
      simp only [get?, ih]
      split
      case isTrue same => simp [← same, Ne.symm h]
      case isFalse => rfl

theorem get?_put_self (es : Entries α) (name : String) (value : α) :
    (es.put name value).get? name = some value := by
  simp [get?_put]

/-- Writing keeps the names, and adds the name at the end if it is new. -/
theorem names_put (es : Entries α) (name : String) (value : α) :
    (es.put name value).names = if name ∈ es.names then es.names else es.names ++ [name] := by
  induction es with
  | nil => simp [put, names]
  | cons e es ih =>
    unfold put
    split
    case isTrue h => simp [names, ← h]
    case isFalse h =>
      simp only [names, List.map_cons, List.mem_cons, Ne.symm h, false_or] at ih ⊢
      rw [ih]
      split <;> simp [*]

/-- A name is there exactly if it has a value. -/
theorem mem_names_iff (es : Entries α) (name : String) :
    name ∈ es.names ↔ es.has name = true := by
  induction es with
  | nil => simp [names, has, get?]
  | cons e es ih =>
    simp only [names, List.map_cons, List.mem_cons, has, get?] at ih ⊢
    by_cases h : e.1 = name
    · simp [h]
    · simp [h, Ne.symm h, ih]

end Entries

end SearchClient
