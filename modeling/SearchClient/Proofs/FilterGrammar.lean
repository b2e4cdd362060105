import Mathlib
import SearchClient.Failure.Problem
import SearchClient.Proofs.Criteria
import SearchClient.Proofs.NumberReading

set_option autoImplicit false

/-! # The grammar of filters

A filter is cut from both ends: its field goes up to the first equality sign, and of what is behind
that sign a boost stands behind the last caret. A boost is an integer if it is a literal of one, else a
floating point number if it is a literal of one; any other text behind the caret spoils the filter
(`filter_grammar`). -/

namespace SearchClient.CommandLine

open Failure (Problem)

/-! ## The parts of a filter -/

/-- A text cut at its first equality sign, in front of which there is a field. -/
structure FieldParts (raw field rest : String) : Prop where
  eq : raw = field ++ "=" ++ rest
  field_ne : field ≠ ""
  field_free : '=' ∉ field.toList

/-- A text cut at its last caret. -/
structure BoostParts (rest value boost : String) : Prop where
  eq : rest = value ++ "^" ++ boost
  boost_free : '^' ∉ boost.toList

/-- A text is a literal of a number: of an integer if it can be, else of a floating point number. -/
inductive IsNumber (s : String) : Value → Prop where
  | int {n : Int} (hn : Literal.IsInt s n) : IsNumber s (.int n)
  | float {x : Binary64} (hint : ∀ n, ¬Literal.IsInt s n) (hx : Literal.IsFloat s x) :
      IsNumber s (.float x)

/-- What a field has to match: the text behind the equality sign as it is, or its value with a
    boost. -/
inductive IsEntry (rest : String) : Value → Prop where
  | plain (hrest : '^' ∉ rest.toList) : IsEntry rest (.text rest)
  | boosted {value boost : String} {n : Value} (hparts : BoostParts rest value boost)
      (hn : IsNumber boost n) : IsEntry rest (weighted value n)

theorem fieldParts_iff {raw field rest : String} : FieldParts raw field rest ↔
    field ≠ "" ∧ Text.cut? '=' raw.toList = some (field.toList, rest.toList) := by
  rw [Text.cut?_eq_some_iff]
  constructor
  · rintro ⟨rfl, hne, hfree⟩
    exact ⟨hne, by simp, hfree⟩
  · rintro ⟨hne, heq, hfree⟩
    refine ⟨?_, hne, hfree⟩
    rw [← String.toList_inj, heq]
    simp

theorem boostParts_iff {rest value boost : String} : BoostParts rest value boost ↔
    Text.cutLast? '^' rest.toList = some (value.toList, boost.toList) := by
  rw [Text.cutLast?_eq_some_iff]
  constructor
  · rintro ⟨rfl, hfree⟩
    exact ⟨by simp, hfree⟩
  · rintro ⟨heq, hfree⟩
    refine ⟨?_, hfree⟩
    rw [← String.toList_inj, heq]
    simp

theorem exists_boostParts {rest : String} (h : '^' ∈ rest.toList) :
    ∃ value boost, BoostParts rest value boost := by
  cases hcut : Text.cutLast? '^' rest.toList with
  | none => exact absurd h ((Text.cutLast?_eq_none_iff _).1 hcut)
  | some parts =>
    obtain ⟨value, boost⟩ := parts
    refine ⟨String.ofList value, String.ofList boost, boostParts_iff.2 ?_⟩
    rw [String.toList_ofList, String.toList_ofList, hcut]

/-! ## Reading -/

/-- Boosts are read exactly from literals of numbers. -/
theorem boost?_eq_some_iff {s : String} {n : Value} : boost? s = some n ↔ IsNumber s n := by
  unfold boost?
  cases hint : Literal.int? s with
  | some k =>
    have hk := Literal.int?_eq_some_iff.1 hint
    constructor
    · intro h
      obtain rfl := Option.some.inj h
      exact .int hk
    · intro h
      cases h with
      | int hn => rw [← hint, Literal.int?_eq_some_iff.2 hn]
      | float hnot _ => exact absurd hk (hnot k)
  | none =>
    have hnot : ∀ k, ¬Literal.IsInt s k := by
      intro k hk
      rw [Literal.int?_eq_some_iff.2 hk] at hint
      exact nomatch hint
    constructor
    · intro h
      obtain ⟨x, hx, rfl⟩ := Option.map_eq_some_iff.1 h
      exact .float hnot (Literal.float?_eq_some_iff.1 hx)
    · intro h
      cases h with
      | int hn => exact absurd hn (hnot _)
      | float _ hx => rw [Literal.float?_eq_some_iff.2 hx]; rfl

theorem not_isNumber_iff {s : String} :
    (∀ n, ¬IsNumber s n) ↔ (∀ n, ¬Literal.IsInt s n) ∧ ∀ x, ¬Literal.IsFloat s x := by
  constructor
  · intro h
    have hint : ∀ n, ¬Literal.IsInt s n := fun n hn => h _ (.int hn)
    exact ⟨hint, fun x hx => h _ (.float hint hx)⟩
  · rintro ⟨hint, hfloat⟩ n hn
    cases hn with
    | int hn => exact hint _ hn
    | float _ hx => exact hfloat _ hx

/-- A field and an entry behind the first equality sign are a filter. -/
theorem readFilter_of_entry {raw field rest : String} (h : FieldParts raw field rest) {entry : Value}
    (hentry : IsEntry rest entry) : readFilter raw = .ok (field, entry) := by
  cases hentry with
  | plain hrest =>
    rw [h.eq]
    exact readFilter_of_spelled (.plain h.field_ne h.field_free hrest)
  | @boosted value boost n hparts hn =>
    have heq : raw = field ++ "=" ++ value ++ "^" ++ boost := by
      simp only [h.eq, hparts.eq, String.append_assoc]
    rw [heq]
    exact readFilter_of_spelled
      (.boosted h.field_ne h.field_free hparts.boost_free (boost?_eq_some_iff.2 hn))

theorem readFilter_of_no_number {raw field rest value boost : String}
    (h : FieldParts raw field rest) (hparts : BoostParts rest value boost)
    (hnot : ∀ n, ¬IsNumber boost n) : readFilter raw = .error (.boost raw) := by
  obtain ⟨hne, hcut⟩ := fieldParts_iff.1 h
  have hboost : boost? boost = none := by
    rw [Option.eq_none_iff_forall_ne_some]
    exact fun n hn => hnot n (boost?_eq_some_iff.1 hn)
  unfold readFilter
  rw [hcut]
  cases hchars : field.toList with
  | nil => exact absurd (String.toList_eq_nil_iff.1 hchars) hne
  | cons c cs => simp only [boostParts_iff.1 hparts, String.ofList_toList, hboost]

theorem readFilter_of_no_field {raw : String} (h : ¬∃ field rest, FieldParts raw field rest) :
    readFilter raw = .error (.filter raw) := by
  unfold readFilter
  split
  · rfl
  · rfl
  · next field rest hfirst hcut =>
    refine absurd ⟨String.ofList field, String.ofList rest, fieldParts_iff.2 ⟨?_, ?_⟩⟩ h
    · exact mt String.ofList_eq_empty_iff.1 hfirst
    · rw [hcut, String.toList_ofList, String.toList_ofList]

/-- A text has a field and an entry, or a field and no number behind the last caret, or no field. -/
theorem filter_cases (raw : String) :
    (∃ field rest entry, FieldParts raw field rest ∧ IsEntry rest entry) ∨
    (∃ field rest value boost, FieldParts raw field rest ∧ BoostParts rest value boost ∧
      ∀ n, ¬IsNumber boost n) ∨
    ¬∃ field rest, FieldParts raw field rest := by
  by_cases hfield : ∃ field rest, FieldParts raw field rest
  · obtain ⟨field, rest, h⟩ := hfield
    by_cases hcaret : '^' ∈ rest.toList
    · obtain ⟨value, boost, hparts⟩ := exists_boostParts hcaret
      by_cases hnumber : ∃ n, IsNumber boost n
      · obtain ⟨n, hn⟩ := hnumber
        exact Or.inl ⟨field, rest, _, h, .boosted hparts hn⟩
      · exact Or.inr (Or.inl ⟨field, rest, value, boost, h, hparts, not_exists.1 hnumber⟩)
    · exact Or.inl ⟨field, rest, _, h, .plain hcaret⟩
  · exact Or.inr (Or.inr hfield)

theorem readFilter_eq_ok_iff_parts {raw field : String} {entry : Value} :
    readFilter raw = .ok (field, entry) ↔ ∃ rest, FieldParts raw field rest ∧ IsEntry rest entry := by
  constructor
  · intro h
    rcases filter_cases raw with ⟨field', rest, entry', hfield, hentry⟩ |
      ⟨_, _, _, _, hfield, hparts, hnot⟩ | hno
    · rw [readFilter_of_entry hfield hentry] at h
      obtain ⟨rfl, rfl⟩ := Prod.mk.inj (Except.ok.inj h)
      exact ⟨rest, hfield, hentry⟩
    · rw [readFilter_of_no_number hfield hparts hnot] at h
      exact nomatch h
    · rw [readFilter_of_no_field hno] at h
      exact nomatch h
  · rintro ⟨rest, hfield, hentry⟩
    exact readFilter_of_entry hfield hentry

theorem readFilter_eq_filter_iff {raw : String} :
    readFilter raw = .error (.filter raw) ↔ ¬∃ field rest, FieldParts raw field rest := by
  constructor
  · rintro h ⟨field, rest, hfield⟩
    rcases filter_cases raw with ⟨_, _, _, hfield, hentry⟩ | ⟨_, _, _, _, hfield, hparts, hnot⟩ | hno
    · rw [readFilter_of_entry hfield hentry] at h
      exact nomatch h
    · rw [readFilter_of_no_number hfield hparts hnot] at h
      exact nomatch h
    · exact hno ⟨field, rest, hfield⟩
  · exact readFilter_of_no_field

theorem readFilter_eq_boost_iff {raw : String} : readFilter raw = .error (.boost raw) ↔
    ∃ field rest value boost, FieldParts raw field rest ∧ BoostParts rest value boost ∧
      ∀ n, ¬IsNumber boost n := by
  constructor
  · intro h
    rcases filter_cases raw with ⟨_, _, _, hfield, hentry⟩ | hspoilt | hno
    · rw [readFilter_of_entry hfield hentry] at h
      exact nomatch h
    · exact hspoilt
    · rw [readFilter_of_no_field hno] at h
      exact nomatch h
  · rintro ⟨_, _, _, _, hfield, hparts, hnot⟩
    exact readFilter_of_no_number hfield hparts hnot

theorem error_of_readFilter {raw : String} {e : Failure.BadArgument}
    (h : readFilter raw = .error e) : e = .filter raw ∨ e = .boost raw := by
  rcases filter_cases raw with ⟨_, _, _, hfield, hentry⟩ | ⟨_, _, _, _, hfield, hparts, hnot⟩ | hno
  · rw [readFilter_of_entry hfield hentry] at h
    exact nomatch h
  · rw [readFilter_of_no_number hfield hparts hnot] at h
    exact Or.inr (Except.error.inj h).symm
  · rw [readFilter_of_no_field hno] at h
    exact Or.inl (Except.error.inj h).symm

/-- **The grammar of filters.** A filter is read exactly from a field, the first equality sign, and a
    text without carets or else a value, the last caret and a literal of a number. What is read is the
    field with the text, or with the value and the number. A text without a field is refused, and so is
    one with anything else behind the last caret, with a complaint. -/
theorem filter_grammar (raw : String) :
    (∀ field entry, readFilter raw = .ok (field, entry) ↔
      ∃ rest, FieldParts raw field rest ∧ IsEntry rest entry) ∧
    (readFilter raw = .error (.filter raw) ↔ ¬∃ field rest, FieldParts raw field rest) ∧
    (readFilter raw = .error (.boost raw) ↔
      ∃ field rest value boost, FieldParts raw field rest ∧ BoostParts rest value boost ∧
        (∀ n, ¬Literal.IsInt boost n) ∧ ∀ x, ¬Literal.IsFloat boost x) ∧
    ∀ e, readFilter raw = .error e → (e = .filter raw ∨ e = .boost raw) ∧
      ∃ s, (Problem.argument e).complaint? = some s := by
  refine ⟨fun _ _ => readFilter_eq_ok_iff_parts, readFilter_eq_filter_iff, ?_, ?_⟩
  · simp only [readFilter_eq_boost_iff, not_isNumber_iff]
  · intro e he
    exact ⟨error_of_readFilter he, _, rfl⟩

/-- The first equality sign counts, and the last caret. -/
example : readFilter "a=b=c^d^ 1_0" = .ok ("a", weighted "b=c^d" (.int 10)) := rfl

end SearchClient.CommandLine
