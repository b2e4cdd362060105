import Mathlib
import SearchClient.Text.Split
import SearchClient.Value.Display

set_option autoImplicit false

/-! # Splitting and joining

Splitting at a character undoes joining with it as long as no part holds the character, and
splits a text with the character in it on both sides of that place. -/

namespace SearchClient.Text

variable {c : Char}

/-! ## Cutting at the last place -/

theorem cutLast?_eq_none_iff (cs : List Char) : cutLast? c cs = none ↔ c ∉ cs := by
  induction cs with
  | nil => simp [cutLast?]
  | cons d cs ih =>
      unfold cutLast?
      cases h : cutLast? c cs with
      | some parts =>
        have hmem : c ∈ cs := by
          by_contra hnot
          rw [ih.2 hnot] at h
          exact nomatch h
        simp [hmem]
      | none => by_cases hd : d = c <;> simp [hd, ih.1 h, Ne.symm]

/-- A text is cut at the last place of a character exactly if the part behind it has none. -/
theorem cutLast?_eq_some_iff (cs before after : List Char) :
    cutLast? c cs = some (before, after) ↔ cs = before ++ c :: after ∧ c ∉ after := by
  induction cs generalizing before after with
  | nil => simp [cutLast?]
  | cons d cs ih =>
      have hlater : ∀ front, (b : Char) → d :: cs = b :: front ++ c :: after ∧ c ∉ after ↔
          d = b ∧ cutLast? c cs = some (front, after) := by
        intro front b
        rw [ih, List.cons_append, List.cons.injEq, and_assoc]
      unfold cutLast?
      cases h : cutLast? c cs with
      | some parts =>
        obtain ⟨front, back⟩ := parts
        obtain ⟨hcs, -⟩ := (ih front back).1 h
        cases before with
        | nil =>
          refine iff_of_false (by simp) ?_
          rintro ⟨heq, hafter⟩
          rw [List.nil_append, List.cons.injEq] at heq
          exact hafter (by rw [← heq.2, hcs]; simp)
        | cons b before =>
          rw [hlater, h]
          simp [eq_comm, and_assoc]
      | none =>
        cases before with
        | nil =>
          by_cases hd : d = c
          · simp only [hd, if_true, List.nil_append, List.cons.injEq, true_and, Option.some.injEq,
              Prod.mk.injEq]
            exact ⟨fun heq => ⟨heq, heq ▸ (cutLast?_eq_none_iff cs).1 h⟩, fun heq => heq.1⟩
          · simp [hd]
        | cons b before =>
          rw [hlater, h]
          by_cases hd : d = c <;> simp [hd]

/-! ## Splitting and joining -/

theorem joinOn_cons_cons (part next : List Char) (parts : List (List Char)) :
    joinOn c (part :: next :: parts) = part ++ c :: joinOn c (next :: parts) := rfl

theorem splitOn_of_notMem {cs : List Char} (h : c ∉ cs) : splitOn c cs = [cs] := by
  induction cs with
  | nil => rfl
  | cons d cs ih =>
      rw [List.mem_cons, not_or] at h
      rw [splitOn, if_neg (Ne.symm h.1), ih h.2]

/-- A place of the character splits both sides apart. -/
theorem splitOn_append_cons (before after : List Char) :
    splitOn c (before ++ c :: after) = splitOn c before ++ splitOn c after := by
  induction before with
  | nil => simp [splitOn]
  | cons d before ih =>
      rw [List.cons_append, splitOn, splitOn, ih]
      split
      · rfl
      · cases hb : splitOn c before with
        | nil => exact absurd hb (splitOn_ne_nil c before)
        | cons part parts => rfl

theorem notMem_of_mem_splitOn {cs part : List Char} (h : part ∈ splitOn c cs) : c ∉ part := by
  induction cs generalizing part with
  | nil =>
      rw [splitOn, List.mem_singleton] at h
      simp [h]
  | cons d cs ih =>
      rw [splitOn] at h
      split at h
      · rcases List.mem_cons.1 h with rfl | hrest
        · exact List.not_mem_nil
        · exact ih hrest
      · next hd =>
        cases hcs : splitOn c cs with
        | nil => exact absurd hcs (splitOn_ne_nil c cs)
        | cons first parts =>
          rw [hcs] at h ih
          rcases List.mem_cons.1 h with rfl | hrest
          · rw [List.mem_cons, not_or]
            exact ⟨Ne.symm hd, ih List.mem_cons_self⟩
          · exact ih (List.mem_cons_of_mem first hrest)

/-- **Parts without the character come back from the joined text.** -/
theorem splitOn_joinOn {parts : List (List Char)} (hne : parts ≠ [])
    (h : ∀ part ∈ parts, c ∉ part) : splitOn c (joinOn c parts) = parts := by
  induction parts with
  | nil => exact absurd rfl hne
  | cons part parts ih =>
      have hpart := splitOn_of_notMem (h part List.mem_cons_self)
      cases parts with
      | nil => exact hpart
      | cons next parts =>
          rw [joinOn_cons_cons, splitOn_append_cons, hpart,
            ih (List.cons_ne_nil _ _) fun p hp => h p (List.mem_cons_of_mem part hp)]
          rfl

theorem joinOn_eq_nil_iff {parts : List (List Char)} :
    joinOn c parts = [] ↔ parts = [] ∨ parts = [[]] := by
  match parts with
  | [] => simp [joinOn]
  | [part] => simp [joinOn]
  | part :: next :: rest => simp [joinOn_cons_cons]

theorem mem_joinOn {parts : List (List Char)} {d : Char} (h : d ∈ joinOn c parts) :
    d = c ∨ ∃ part ∈ parts, d ∈ part := by
  induction parts with
  | nil => exact absurd h List.not_mem_nil
  | cons part parts ih =>
      cases parts with
      | nil => exact Or.inr ⟨part, List.mem_cons_self, h⟩
      | cons next parts =>
          rw [joinOn_cons_cons, List.mem_append, List.mem_cons] at h
          rcases h with hpart | rfl | hrest
          · exact Or.inr ⟨part, List.mem_cons_self, hpart⟩
          · exact Or.inl rfl
          · obtain hc | ⟨p, hp, hd⟩ := ih hrest
            · exact Or.inl hc
            · exact Or.inr ⟨p, List.mem_cons_of_mem part hp, hd⟩

/-- The character stands between any two parts and nowhere else. -/
theorem count_joinOn {parts : List (List Char)} (hne : parts ≠ [])
    (h : ∀ part ∈ parts, c ∉ part) : (joinOn c parts).count c + 1 = parts.length := by
  induction parts with
  | nil => exact absurd rfl hne
  | cons part parts ih =>
      have hpart := List.count_eq_zero_of_not_mem (h part List.mem_cons_self)
      cases parts with
      | nil => simpa [joinOn] using hpart
      | cons next parts =>
          have hrest := ih (List.cons_ne_nil _ _) fun p hp => h p (List.mem_cons_of_mem part hp)
          rw [joinOn_cons_cons, List.count_append, List.count_cons_self, hpart, List.length_cons]
          omega

theorem intercalate_eq_joinOn (parts : List (List Char)) : [c].intercalate parts = joinOn c parts := by
  induction parts with
  | nil => rfl
  | cons part parts ih =>
      cases parts with
      | nil => simp [joinOn]
      | cons next parts =>
          rw [List.intercalate_cons_cons, ih, joinOn_cons_cons]
          simp

/-! ## Separators of several characters -/

theorem dropText?_eq_some_iff {text cs rest : List Char} :
    dropText? text cs = some rest ↔ cs = text ++ rest := by
  induction text generalizing cs with
  | nil => simp [dropText?]
  | cons t text ih =>
      cases cs with
      | nil => simp [dropText?]
      | cons d cs =>
        rw [dropText?, List.cons_append, List.cons.injEq]
        split
        · next heq => rw [ih, heq, eq_self, true_and]
        · next hne => simp [Ne.symm hne]

theorem splitByFrom_ne_nil (separator part : List Char) (skip : Nat) (cs : List Char) :
    splitByFrom separator part skip cs ≠ [] := by
  induction cs generalizing part skip with
  | nil => simp [splitByFrom]
  | cons d cs ih =>
      unfold splitByFrom
      split
      · next heq => exact (List.cons_ne_nil _ _ heq).elim
      · next heq =>
        obtain ⟨-, rfl⟩ := List.cons.inj heq
        exact ih _ _
      · next heq =>
        obtain ⟨-, rfl⟩ := List.cons.inj heq
        split
        · exact List.cons_ne_nil _ _
        · exact ih _ _

/-- The first part goes up to the end, or else up to a separator, and then there are further parts. -/
theorem splitByFrom_eq_cons {separator part cs first : List Char} {rest : List (List Char)}
    (h : splitByFrom separator part 0 cs = first :: rest) :
    ∃ front, first = part.reverse ++ front ∧
      (rest = [] ∧ cs = front ∨ rest ≠ [] ∧ ∃ more, cs = front ++ (separator ++ more)) := by
  induction cs generalizing part with
  | nil =>
      obtain ⟨rfl, rfl⟩ := List.cons.inj h
      exact ⟨[], (List.append_nil _).symm, Or.inl ⟨rfl, rfl⟩⟩
  | cons d cs ih =>
      rw [splitByFrom] at h
      split at h
      · next hprefix =>
        obtain ⟨rfl, rfl⟩ := List.cons.inj h
        obtain ⟨more, hmore⟩ := List.isPrefixOf_iff_prefix.1 hprefix
        exact ⟨[], (List.append_nil _).symm,
          Or.inr ⟨splitByFrom_ne_nil _ _ _ _, more, hmore.symm⟩⟩
      · obtain ⟨front, hfirst, hfront⟩ := ih h
        refine ⟨d :: front, ?_, hfront.imp ?_ ?_⟩
        · rw [hfirst, List.reverse_cons, List.append_assoc, List.singleton_append]
        · exact fun ⟨hrest, hcs⟩ => ⟨hrest, by rw [hcs]⟩
        · exact fun ⟨hrest, more, hcs⟩ => ⟨hrest, more, by rw [hcs, List.cons_append]⟩

end SearchClient.Text

namespace SearchClient.Value

open Text

theorem joinWith_eq_joinOn {separator : String} {c : Char} (h : separator.toList = [c])
    (parts : List (List Char)) : joinWith separator parts = joinOn c parts := by
  induction parts with
  | nil => rfl
  | cons part parts ih =>
      cases parts with
      | nil => rfl
      | cons next parts =>
        rw [joinOn_cons_cons, ← ih, joinWith, h, List.append_assoc, List.singleton_append]
        exact List.cons_ne_nil next parts

end SearchClient.Value
