set_option autoImplicit false

/-! # Splitting texts

A text is cut at the first or the last place of a character, or split at every place. Putting the
character back between the parts gives the text. -/

namespace SearchClient.Text

/-- The parts before and after the first `c`. -/
def cut? (c : Char) : List Char → Option (List Char × List Char)
  | [] => none
  | d :: cs =>
    if d = c then some ([], cs) else (cut? c cs).map fun (before, after) => (d :: before, after)

/-- The parts before and after the last `c`. -/
def cutLast? (c : Char) : List Char → Option (List Char × List Char)
  | [] => none
  | d :: cs =>
    match cutLast? c cs with
    | some (before, after) => some (d :: before, after)
    | none => if d = c then some ([], cs) else none

/-- The parts between the places of `c`. -/
def splitOn (c : Char) : List Char → List (List Char)
  | [] => [[]]
  | d :: cs =>
    if d = c then [] :: splitOn c cs
    else
      match splitOn c cs with
      | [] => [[d]]
      | part :: parts => (d :: part) :: parts

/-- The parts with `c` between them. -/
def joinOn (c : Char) : List (List Char) → List Char
  | [] => []
  | [part] => part
  | part :: parts => part ++ c :: joinOn c parts

/-- Drops a text from the front, if it is there. -/
def dropText? : List Char → List Char → Option (List Char)
  | [], cs => some cs
  | _ :: _, [] => none
  | t :: text, c :: cs => if t = c then dropText? text cs else none

/-- The parts between the places of a separator of several characters; `part` is what has been read
    of the current part, in reverse, and `skip` characters at the front belong to a separator. -/
def splitByFrom (separator part : List Char) : Nat → List Char → List (List Char)
  | _, [] => [part.reverse]
  | skip + 1, _ :: cs => splitByFrom separator part skip cs
  | 0, c :: cs =>
    if separator.isPrefixOf (c :: cs) then
      part.reverse :: splitByFrom separator [] (separator.length - 1) cs
    else splitByFrom separator (c :: part) 0 cs

/-- The parts between the places of a separator that is not empty. -/
def splitBy (separator cs : List Char) : List (List Char) :=
  splitByFrom separator [] 0 cs

/-- Joins all parts from the one with the number `most` on, with a separator between them. -/
def joinFrom (separator : List Char) (most : Nat) (parts : List (List Char)) : List (List Char) :=
  parts.take most ++
    match parts.drop most with
    | [] => []
    | part :: rest => [part ++ rest.flatMap (separator ++ ·)]

/-! ## Putting the parts together -/

/-- A text is cut at a character exactly if it has a part in front without the character. -/
theorem cut?_eq_some_iff (c : Char) (cs before after : List Char) :
    cut? c cs = some (before, after) ↔ cs = before ++ c :: after ∧ c ∉ before := by
  induction cs generalizing before with
  | nil => simp [cut?]
  | cons d cs ih =>
    unfold cut?
    split
    case isTrue h =>
      subst h
      cases before with
      | nil => simp
      | cons b before =>
        simp only [Option.some.injEq, Prod.mk.injEq, List.nil_eq, List.cons_append,
          List.cons.injEq, List.mem_cons, not_or]
        exact ⟨fun h => absurd h.1 (by simp), fun h => absurd h.1.1 h.2.1⟩
    case isFalse h =>
      cases before with
      | nil => simp [h]
      | cons b before =>
        simp only [Option.map_eq_some_iff, Prod.exists, Prod.mk.injEq, List.cons.injEq,
          List.cons_append, List.mem_cons, not_or]
        constructor
        · rintro ⟨x, y, hxy, ⟨rfl, rfl⟩, rfl⟩
          obtain ⟨rfl, hc⟩ := (ih x).1 hxy
          exact ⟨⟨rfl, rfl⟩, Ne.symm h, hc⟩
        · rintro ⟨⟨rfl, rfl⟩, _, hc⟩
          exact ⟨before, after, (ih before).2 ⟨rfl, hc⟩, ⟨rfl, rfl⟩, rfl⟩

/-- A text has no place to be cut at exactly if the character is not in it. -/
theorem cut?_eq_none_iff (c : Char) (cs : List Char) : cut? c cs = none ↔ c ∉ cs := by
  induction cs with
  | nil => simp [cut?]
  | cons d cs ih =>
    unfold cut?
    by_cases h : d = c
    · simp [h]
    · simp [h, Ne.symm h, ih]

theorem splitOn_ne_nil (c : Char) (cs : List Char) : splitOn c cs ≠ [] := by
  cases cs with
  | nil => simp [splitOn]
  | cons d cs =>
    unfold splitOn
    split
    · simp
    · split <;> simp

/-- The parts with the character between them are the text. -/
theorem joinOn_splitOn (c : Char) (cs : List Char) : joinOn c (splitOn c cs) = cs := by
  induction cs with
  | nil => rfl
  | cons d cs ih =>
    unfold splitOn
    cases h : splitOn c cs with
    | nil => exact absurd h (splitOn_ne_nil c cs)
    | cons part parts =>
      rw [h] at ih
      by_cases same : d = c
      · simp [same, joinOn, ih]
      · cases parts with
        | nil => simpa [same, joinOn] using ih
        | cons next parts => simpa [same, joinOn] using ih

end SearchClient.Text
