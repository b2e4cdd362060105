import Mathlib
import SearchClient.Proofs.Except
import SearchClient.Proofs.Split
import SearchClient.Query.Filter

set_option autoImplicit false

/-! # Clauses of filters

An entry of a filter gives no clause exactly if it is null or wraps null (`unset`), and the query of
a filter is empty exactly if all its entries are. -/

namespace SearchClient.Query

open Text

/-! ## Rendered clauses -/

theorem Clause.render_ne_nil (c : Clause) : c.render ≠ [] := by
  cases c with
  | equals field value boost => cases boost <;> simp [render]
  | compares field comparison bound => simp [render]

theorem renderClauses_eq_joinOn (cs : List Clause) :
    renderClauses cs = joinOn ' ' (cs.map Clause.render) :=
  Value.joinWith_eq_joinOn rfl _

theorem renderClauses_eq_nil_iff {cs : List Clause} : renderClauses cs = [] ↔ cs = [] := by
  rw [renderClauses_eq_joinOn, joinOn_eq_nil_iff, List.map_eq_nil_iff]
  constructor
  · rintro (hnil | hone)
    · exact hnil
    · obtain ⟨c, -, hc⟩ := List.map_eq_singleton_iff.1 hone
      exact absurd hc c.render_ne_nil
  · exact Or.inl

/-! ## Entries of a filter -/

/-- An entry of a filter that is null or wraps null. -/
def Unset (entry : Value) : Prop :=
  match entry with
  | .null => True
  | .record .weighted .. => entry.member "value" = .null
  | .map es => Entries.get? es "value" = some .null
  | _ => False

theorem weighted_eq_null_iff (entry : Value) : (weighted entry).1 = .null ↔ Unset entry := by
  cases entry with
  | map es =>
    cases h : Entries.get? es "value" <;> simp [weighted, Unset, h]
  | record model fields extra given => cases model <;> simp [weighted, Unset]
  | _ => simp [weighted, Unset]

/-- **An entry gives a clause unless it is null or wraps null.** -/
theorem filterClause_eq_none_iff (field : String) (entry : Value) :
    filterClause field entry = none ↔ Unset entry := by
  rw [← weighted_eq_null_iff]
  unfold filterClause
  split
  · next h => simp [h]
  · next h => simp_all
  · next h => simp_all

/-- The clauses of the entries of a filter. -/
def filterClauses (entries : Entries Value) : List Clause :=
  entries.filterMap fun (field, entry) => filterClause field entry

theorem filterClauses_cons (field : String) (entry : Value) (entries : Entries Value) :
    filterClauses ((field, entry) :: entries) =
      (filterClause field entry).toList ++ filterClauses entries := by
  unfold filterClauses
  cases h : filterClause field entry <;> simp [h]

theorem filterClauses_eq_nil_iff {entries : Entries Value} :
    filterClauses entries = [] ↔ ∀ e ∈ entries, Unset e.2 := by
  rw [filterClauses, List.filterMap_eq_nil_iff]
  exact forall₂_congr fun e _ => filterClause_eq_none_iff e.1 e.2

theorem filterClauses_append (entries later : Entries Value) :
    filterClauses (entries ++ later) = filterClauses entries ++ filterClauses later :=
  List.filterMap_append

theorem rangeEntryClauses_append (entries later : Entries Value) :
    rangeEntryClauses (entries ++ later) = (do
      let front ← rangeEntryClauses entries
      let back ← rangeEntryClauses later
      return front ++ back) := by
  induction entries with
  | nil =>
    rw [List.nil_append]
    cases rangeEntryClauses later <;> rfl
  | cons e entries ih =>
      rw [List.cons_append, rangeEntryClauses, rangeEntryClauses, ih]
      cases rangeClauses e.1 e.2 <;> cases rangeEntryClauses entries <;>
        cases rangeEntryClauses later <;> simp [bind, Except.bind, pure, Except.pure]

theorem entriesOf_map (entries : Entries Value) : entriesOf (.map entries) = .ok entries := by
  cases entries <;> rfl

/-- The clauses of a filter and a range come from either of them alone. -/
theorem clauses_eq (filter range : Value) : clauses filter range = (do
    let equals ← (entriesOf filter).map filterClauses
    let bounds ← entriesOf range >>= rangeEntryClauses
    return equals ++ bounds) := by
  unfold clauses
  cases entriesOf filter <;> cases entriesOf range <;> rfl

/-- The query of a filter without a range. -/
theorem buildFilter_map_null (entries : Entries Value) :
    buildFilter (.map entries) .null =
      .ok (String.ofList (renderClauses (filterClauses entries))) := by
  simp only [buildFilter, clauses, entriesOf_map]
  simp [entriesOf, Value.truthy, rangeEntryClauses, bind, Except.bind, pure, Except.pure,
    Except.map, filterClauses]

/-- The query of a filter counts as present exactly if an entry is set. -/
theorem truthy_filterQuery_iff {entries : Entries Value} :
    (Value.text (String.ofList (renderClauses (filterClauses entries)))).truthy = true ↔
      ∃ e ∈ entries, ¬Unset e.2 := by
  have hempty : renderClauses (filterClauses entries) = [] ↔ ∀ e ∈ entries, Unset e.2 :=
    renderClauses_eq_nil_iff.trans filterClauses_eq_nil_iff
  rw [← not_iff_not]
  push Not
  rw [← hempty]
  simp [Value.truthy]

end SearchClient.Query
