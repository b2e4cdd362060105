import Mathlib
import SearchClient.Http.Query
import SearchClient.Proofs.Percent

set_option autoImplicit false

/-! # Forms read back

A form is split at ampersands, and each pair at its first equals sign; in a name or value a plus
sign is a blank, and percent forms are octets of UTF-8. `Form.read_formText` says that this reads
the pairs that were written. Grouping pairs by name puts them in another order and no more. -/

namespace SearchClient.Http

open Text Text.Percent

namespace Form

/-! ## Reading -/

/-- A plus sign is a blank. -/
def blank (c : Char) : Char :=
  if c = '+' then ' ' else c

/-- The text of a name or value. -/
def readField (cs : List Char) : String :=
  String.ofList (Percent.text (cs.map blank))

/-- The name and value of a pair; without an equals sign the value is empty. -/
def readPair (cs : List Char) : String × String :=
  let (name, value) := (cut? '=' cs).getD (cs, [])
  (readField name, readField value)

/-- The pairs of a form. -/
def read (cs : List Char) : List (String × String) :=
  if cs.isEmpty then [] else (splitOn '&' cs).map readPair

/-! ## Fields -/

/-- The characters that a form keeps or reads back from a plus sign. -/
def isFieldChar (c : Char) : Bool :=
  c = ' ' || isUnreserved c

theorem blank_of_ne {c : Char} (h : c ≠ '+') : blank c = c := if_neg h

/-- A field is an encoded text that has plus signs for its blanks. -/
theorem map_blank_field (s : String) : (field s).map blank = encodeBy isFieldChar s.toList := by
  rw [field, List.map_flatMap]
  refine List.flatMap_congr fun c _ => ?_
  by_cases hblank : c = ' '
  · simp [hblank, blank, isFieldChar]
  · rw [if_neg hblank]
    cases hkept : isUnreserved c with
    | true =>
      have hplus : c ≠ '+' := ne_of_class hkept (by decide)
      simp [isFieldChar, hkept, blank_of_ne hplus]
    | false =>
      -- percent forms hold no plus signs
      have hescaped : (escapeChar c).map blank = escapeChar c := by
        refine (List.map_congr_left fun d hd => ?_).trans (List.map_id _)
        exact blank_of_ne (ne_of_class (isFormChar_of_mem_escapeChar hd) (by decide))
      simp [isFieldChar, hkept, hblank, hescaped]

theorem readField_field (s : String) : readField (field s) = s := by
  have hpercent : isFieldChar '%' = false := by decide
  rw [readField, map_blank_field, text_encodeBy hpercent, String.ofList_toList]

/-- A field holds no sign that parts a form. -/
theorem notMem_field {c : Char} (hplus : c ≠ '+') (hkept : isUnreserved c = false)
    (hform : isFormChar c = false) (s : String) : c ∉ field s := by
  intro hmem
  obtain ⟨d, -, hd⟩ := List.mem_flatMap.1 hmem
  split_ifs at hd with hblank hunreserved
  · exact hplus (List.mem_singleton.1 hd)
  · obtain rfl := List.mem_singleton.1 hd
    exact ne_of_class hunreserved hkept rfl
  · exact ne_of_class (isFormChar_of_mem_escapeChar hd) hform rfl

/-! ## Pairs -/

theorem readPair_pairText (p : String × String) : readPair (Params.pairText p) = p := by
  have hequals : '=' ∉ field p.1 := notMem_field (by decide) (by decide) (by decide) p.1
  have hcut : cut? '=' (Params.pairText p) = some (field p.1, field p.2) :=
    (cut?_eq_some_iff '=' _ _ _).2 ⟨rfl, hequals⟩
  simp only [readPair, hcut, Option.getD_some, readField_field]

theorem notMem_pairText (p : String × String) : '&' ∉ Params.pairText p := by
  intro hmem
  have hfield (s : String) : '&' ∉ field s := notMem_field (by decide) (by decide) (by decide) s
  rcases List.mem_append.1 hmem with hname | hvalue
  · exact hfield p.1 hname
  · rcases List.mem_cons.1 hvalue with hsign | hvalue
    · exact absurd hsign (by decide)
    · exact hfield p.2 hvalue

/-- **A form reads back.** -/
theorem read_formText (pairs : List (String × String)) : read (Params.formText pairs) = pairs := by
  have hjoin : Params.formText pairs = joinOn '&' (pairs.map Params.pairText) :=
    Value.joinWith_eq_joinOn rfl _
  cases pairs with
  | nil => rfl
  | cons p pairs =>
    have hne : (p :: pairs).map Params.pairText ≠ [] := List.cons_ne_nil _ _
    have hsplit : splitOn '&' (joinOn '&' ((p :: pairs).map Params.pairText)) =
        (p :: pairs).map Params.pairText := by
      refine splitOn_joinOn hne fun part hpart => ?_
      obtain ⟨q, -, rfl⟩ := List.mem_map.1 hpart
      exact notMem_pairText q
    have hread : readPair ∘ Params.pairText = id := funext readPair_pairText
    have hnonempty : (joinOn '&' ((p :: pairs).map Params.pairText)).isEmpty = false := by
      rw [List.isEmpty_eq_false_iff, Ne, joinOn_eq_nil_iff]
      simp [Params.pairText]
    rw [read, hjoin, hnonempty, if_neg (by simp), hsplit, List.map_map, hread, List.map_id]

end Form

/-! ## Grouping -/

namespace Params

theorem insertGrouped_perm (p : String × String) (pairs : List (String × String)) :
    (insertGrouped p pairs).Perm (p :: pairs) := by
  induction pairs with
  | nil => exact List.Perm.refl _
  | cons q pairs ih =>
      unfold insertGrouped
      split
      · exact List.Perm.swap p q pairs
      · exact (ih.cons q).trans (List.Perm.swap p q pairs)

theorem grouped_perm (pairs : List (String × String)) : (grouped pairs).Perm pairs := by
  have hfold : ∀ acc : List (String × String),
      (pairs.foldl (fun acc p => insertGrouped p acc) acc).Perm (acc ++ pairs) := by
    induction pairs with
    | nil => simp
    | cons p pairs ih =>
        intro acc
        have hinsert := ((insertGrouped_perm p acc).append_right pairs).trans
          List.perm_middle.symm
        exact (ih (insertGrouped p acc)).trans hinsert
  exact hfold []

/-- The names and texts of the parameters are those of their query. -/
theorem mem_read_query {ps : Params} {query : List Char} (h : ps.query? = some query)
    {p : String × String} : p ∈ Form.read query ↔ p ∈ ps.texts := by
  unfold query? at h
  split at h
  · exact nomatch h
  · rw [← Option.some.inj h, Form.read_formText]
    exact (grouped_perm ps.texts).mem_iff

theorem query?_eq_none_iff {ps : Params} : ps.query? = none ↔ ps = [] := by
  unfold query?
  split
  · next h => simpa using h
  · next h => simpa using h

end Params

end SearchClient.Http
