import Mathlib
import SearchClient.Http.Address
import SearchClient.Proofs.Split

set_option autoImplicit false

/-! # Walking along paths

A walk without dots collects all segments of a path, so the path stays as it is. Along dots it
collects fewer, and what it has collected holds no dots. -/

namespace SearchClient.Http.Address

open Text

/-- Whether a segment is a single or a double dot, which a path is walked along by. -/
def isDots (segment : List Char) : Bool :=
  segment = ['.'] || segment = ['.', '.']

theorem walkStep_of_isDots_false (walked : List (List Char)) {segment : List Char}
    (h : isDots segment = false) : walkStep walked segment = walked ++ [segment] := by
  simp only [isDots, Bool.or_eq_false_iff, decide_eq_false_iff_not] at h
  rw [walkStep, if_neg h.1, if_neg h.2]

theorem length_walkStep_of_isDots (walked : List (List Char)) {segment : List Char}
    (h : isDots segment = true) : (walkStep walked segment).length ≤ walked.length := by
  unfold walkStep
  split_ifs with hone htwo hroot
  · exact le_refl _
  · exact le_refl _
  · simp
  · simp [isDots, hone, htwo] at h

theorem length_walkStep_le (walked : List (List Char)) (segment : List Char) :
    (walkStep walked segment).length ≤ walked.length + 1 := by
  cases h : isDots segment with
  | false => simp [walkStep_of_isDots_false walked h]
  | true => exact Nat.le_succ_of_le (length_walkStep_of_isDots walked h)

/-- A walk without dots collects its segments. -/
theorem foldl_walkStep {segments : List (List Char)} (walked : List (List Char))
    (h : ∀ s ∈ segments, isDots s = false) : segments.foldl walkStep walked = walked ++ segments := by
  induction segments generalizing walked with
  | nil => exact (List.append_nil walked).symm
  | cons s segments ih =>
      rw [List.foldl_cons, walkStep_of_isDots_false walked (h s List.mem_cons_self),
        ih _ fun t ht => h t (List.mem_cons_of_mem s ht), List.append_assoc, List.singleton_append]

theorem length_foldl_walkStep_le (segments walked : List (List Char)) :
    (segments.foldl walkStep walked).length ≤ walked.length + segments.length := by
  induction segments generalizing walked with
  | nil => exact le_refl _
  | cons s segments ih =>
      have hstep := length_walkStep_le walked s
      have hrest := ih (walkStep walked s)
      rw [List.foldl_cons, List.length_cons]
      omega

/-- A walk along dots collects fewer segments than it has. -/
theorem length_foldl_walkStep_lt {segments : List (List Char)} (walked : List (List Char))
    (h : ∃ s ∈ segments, isDots s = true) :
    (segments.foldl walkStep walked).length < walked.length + segments.length := by
  induction segments generalizing walked with
  | nil => simp at h
  | cons s segments ih =>
      rw [List.foldl_cons, List.length_cons]
      cases hs : isDots s with
      | true =>
        -- these are dots, and whatever follows adds at most its own number of segments
        have hstep := length_walkStep_of_isDots walked hs
        have hrest := length_foldl_walkStep_le segments (walkStep walked s)
        omega
      | false =>
        obtain ⟨t, ht, hdots⟩ := h
        rcases List.mem_cons.1 ht with rfl | hmem
        · rw [hs] at hdots
          exact absurd hdots (by simp)
        · have hstep := length_walkStep_le walked s
          have hrest := ih (walkStep walked s) ⟨t, hmem, hdots⟩
          omega

theorem mem_walkStep {walked : List (List Char)} {s t : List Char} (h : s ∈ walkStep walked t) :
    s ∈ walked ∨ (s = t ∧ isDots t = false) := by
  cases ht : isDots t with
  | false =>
    rw [walkStep_of_isDots_false walked ht, List.mem_append, List.mem_singleton] at h
    exact h.imp_right fun hs => ⟨hs, rfl⟩
  | true =>
    unfold walkStep at h
    split_ifs at h with hone htwo hroot
    · exact Or.inl h
    · exact Or.inl h
    · exact Or.inl (List.dropLast_subset walked h)
    · simp [isDots, hone, htwo] at ht

/-- What a walk collects are segments that it was given, and none of them is dots. -/
theorem mem_foldl_walkStep {segments walked : List (List Char)} {s : List Char}
    (h : s ∈ segments.foldl walkStep walked) :
    s ∈ walked ∨ (s ∈ segments ∧ isDots s = false) := by
  induction segments generalizing walked with
  | nil => exact Or.inl h
  | cons t segments ih =>
      rw [List.foldl_cons] at h
      rcases ih h with hwalked | ⟨hmem, hs⟩
      · rcases mem_walkStep hwalked with hin | ⟨rfl, ht⟩
        · exact Or.inl hin
        · exact Or.inr ⟨List.mem_cons_self, ht⟩
      · exact Or.inr ⟨List.mem_cons_of_mem t hmem, hs⟩

theorem walk_eq_self {path : List Char} (h : ∀ s ∈ splitOn '/' path, isDots s = false) :
    walk path = path := by
  rw [walk, foldl_walkStep [] h, List.nil_append, joinOn_splitOn]

/-- The segments of a walked path are those that were collected, if there are any. -/
theorem splitOn_walk_of_ne_nil {path : List Char}
    (hne : (splitOn '/' path).foldl walkStep [] ≠ []) :
    splitOn '/' (walk path) = (splitOn '/' path).foldl walkStep [] := by
  refine splitOn_joinOn hne fun part hpart => ?_
  rcases mem_foldl_walkStep hpart with hin | ⟨hmem, -⟩
  · exact absurd hin List.not_mem_nil
  · exact notMem_of_mem_splitOn hmem

/-- The segments of a walked path: those that were collected, or an empty one alone. -/
theorem splitOn_walk (path : List Char) :
    splitOn '/' (walk path) = (splitOn '/' path).foldl walkStep []
      ∨ splitOn '/' (walk path) = [[]] := by
  -- joined again, no segments at all are read as one that is empty
  by_cases hnil : (splitOn '/' path).foldl walkStep [] = []
  · exact Or.inr (by rw [walk, hnil]; rfl)
  · exact Or.inl (splitOn_walk_of_ne_nil hnil)

theorem isDots_of_mem_splitOn_walk {path s : List Char} (h : s ∈ splitOn '/' (walk path)) :
    isDots s = false := by
  rcases splitOn_walk path with hcollected | hempty
  · rw [hcollected] at h
    rcases mem_foldl_walkStep h with hin | ⟨-, hs⟩
    · exact absurd hin List.not_mem_nil
    · exact hs
  · rw [hempty, List.mem_singleton] at h
    rw [h]
    rfl

/-- A path with dots has fewer segments once it is walked, unless it is one segment. -/
theorem length_splitOn_walk_lt {path : List Char} (hlong : 1 < (splitOn '/' path).length)
    (h : ∃ s ∈ splitOn '/' path, isDots s = true) :
    (splitOn '/' (walk path)).length < (splitOn '/' path).length := by
  rcases splitOn_walk path with hcollected | hempty
  · have hlt := length_foldl_walkStep_lt [] h
    rw [hcollected]
    simpa using hlt
  · rw [hempty]
    exact hlong

end SearchClient.Http.Address
