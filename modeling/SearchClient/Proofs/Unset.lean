import Mathlib
import SearchClient.Proofs.CommandSearch

set_option autoImplicit false

/-! # What is not set

Null means that something is not set: an entry of a filter that is null or wraps null, a bound that
is null, an entry of a range without bounds. Leaving all of this out (`setEntries`, `setRanges`)
changes no query, and every other value gives a clause of its own, so that a query is empty only if
nothing is set. A filter selects the same documents in a search and in a deletion. The main theorem
is `only_null_is_unset`. -/

namespace SearchClient

namespace Query

open CommandLine (joined queryParts compile_eq entriesOf_entriesOrNull)

/-! ## Entries of a filter -/

/-- The entries of a filter that are set. -/
def setEntries (filter : Entries Value) : Entries Value :=
  filter.filter fun e => !(valueOf e.2).isNull

/-- The clause of an entry that is set. -/
def equalClause (e : String × Value) : Clause :=
  .equals e.1 (formatValue (valueOf e.2)) (textOf? (boostOf e.2))

theorem isNull_iff {v : Value} : v.isNull = true ↔ v = .null :=
  ⟨Value.eq_null_of_isNull, fun h => h ▸ rfl⟩

theorem isNull_valueOf_iff (entry : Value) : (valueOf entry).isNull = true ↔ Unset entry := by
  rw [isNull_iff]
  cases entry with
  | map es => cases h : Entries.get? es "value" <;> simp [valueOf, Unset, h]
  | record model fields extra given => cases model <;> simp [valueOf, Unset]
  | _ => simp [valueOf, Unset]

theorem mem_setEntries_iff {filter : Entries Value} {e : String × Value} :
    e ∈ setEntries filter ↔ e ∈ filter ∧ ¬Unset e.2 := by
  rw [setEntries, List.mem_filter, ← isNull_valueOf_iff, Bool.not_eq_true', Bool.not_eq_true]

theorem askedEqual_eq (e : String × Value) :
    askedEqual e = if (valueOf e.2).isNull then none else some (equalClause e) := by
  unfold askedEqual equalClause
  rw [textOf?.eq_1 (valueOf e.2)]
  split <;> rfl

/-- The clauses of a filter are those of its entries that are set, one each. -/
theorem filterMap_askedEqual (filter : Entries Value) :
    filter.filterMap askedEqual = (setEntries filter).map equalClause := by
  induction filter with
  | nil => rfl
  | cons e filter ih =>
      rw [List.filterMap_cons, askedEqual_eq, setEntries, List.filter_cons, ih]
      cases (valueOf e.2).isNull <;> rfl

theorem setEntries_setEntries (filter : Entries Value) :
    setEntries (setEntries filter) = setEntries filter := by
  rw [setEntries, setEntries, List.filter_filter]
  simp only [Bool.and_self]

/-! ## Entries of a range -/

/-- The sides on which an entry of a range has a bound that is set. -/
def boundedSides (entry : Value) : List Comparison :=
  Comparison.all.filter fun c => !(boundOf entry c.name).isNull

/-- The clauses of the bounds that are set. -/
def setClauses (e : String × Value) : List Clause :=
  (boundedSides e.2).map fun c => .compares e.1 c (formatValue (boundOf e.2 c.name))

/-- An entry of a range without the bounds that are null. In a record these are no longer given. -/
def withoutNulls (entry : Value) : Value :=
  match entry with
  | .map bounds => .map (bounds.filter fun e => !(boundOf entry e.1).isNull)
  | .record .bounds fields extra given =>
    .record .bounds fields extra (given.filter fun name => !(boundOf entry name).isNull)
  | v => v

/-- The entries of a range that have bounds, without the bounds that are null. -/
def setRanges (range : Entries Value) : Entries Value :=
  (range.map fun e => (e.1, withoutNulls e.2)).filter fun e => !(boundedSides e.2).isEmpty

/-- Bounds are what they were before the ones that are null were left out. -/
theorem boundOf_withoutNulls (entry : Value) (name : String) :
    boundOf (withoutNulls entry) name = boundOf entry name := by
  cases entry with
  | map bounds =>
    show Value.ofOption (Entries.get? (bounds.filter fun e =>
      !(boundOf (.map bounds) e.1).isNull) name) = _
    rw [Entries.get?_filter fun name => !(boundOf (.map bounds) name).isNull]
    split
    · rfl
    · next hnull => exact (isNull_iff.1 (by simpa using hnull)).symm
  | record model fields extra given => cases model <;> rfl
  | _ => rfl

theorem setClauses_withoutNulls (field : String) (entry : Value) :
    setClauses (field, withoutNulls entry) = setClauses (field, entry) := by
  simp only [setClauses, boundedSides, boundOf_withoutNulls]

theorem boundedSides_withoutNulls (entry : Value) :
    boundedSides (withoutNulls entry) = boundedSides entry := by
  simp only [boundedSides, boundOf_withoutNulls]

theorem isRangeEntry_withoutNulls {entry : Value} (h : IsRangeEntry entry) :
    IsRangeEntry (withoutNulls entry) := by
  unfold IsRangeEntry at h
  split at h
  · trivial
  · trivial
  · trivial
  · exact h.elim

theorem isRangeEntry_of_mem_setRanges {range : Entries Value} (h : ∀ e ∈ range, IsRangeEntry e.2) :
    ∀ e ∈ setRanges range, IsRangeEntry e.2 := by
  intro e he
  obtain ⟨d, hd, rfl⟩ := List.mem_map.1 (List.mem_filter.1 he).1
  exact isRangeEntry_withoutNulls (h d hd)

theorem askedBounds_eq_setClauses (e : String × Value) : askedBounds e = setClauses e := by
  unfold askedBounds setClauses boundedSides Comparison.all
  -- on any list of sides
  induction [Comparison.above, .atLeast, .below, .atMost] with
  | nil => rfl
  | cons c cs ih =>
      rw [List.filterMap_cons, List.filter_cons, ih, textOf?]
      cases (boundOf e.2 c.name).isNull <;> rfl

/-- Leaving out what is null keeps all clauses of a range. -/
theorem flatMap_setRanges (range : Entries Value) :
    (setRanges range).flatMap setClauses = range.flatMap setClauses := by
  induction range with
  | nil => rfl
  | cons e range ih =>
      have hcons : setRanges (e :: range) =
          if (boundedSides e.2).isEmpty then setRanges range
          else (e.1, withoutNulls e.2) :: setRanges range := by
        rw [setRanges, List.map_cons, List.filter_cons, boundedSides_withoutNulls]
        cases (boundedSides e.2).isEmpty <;> rfl
      rw [List.flatMap_cons, ← ih, hcons]
      split
      · next hempty =>
        rw [setClauses, List.isEmpty_iff.1 hempty]
        rfl
      · rw [List.flatMap_cons, setClauses_withoutNulls]

theorem setRanges_eq_nil_iff {range : Entries Value} :
    setRanges range = [] ↔ ∀ e ∈ range, boundedSides e.2 = [] := by
  rw [setRanges, List.filter_eq_nil_iff, List.forall_mem_map]
  simp only [boundedSides_withoutNulls, Bool.not_eq_true', Bool.not_eq_false, List.isEmpty_iff]

/-! ## Values that are written -/

/-- Whether all that is set can be written: the values of a filter with their weights, and the bounds
    of a range. -/
def CanBeWritten (filter range : Entries Value) : Prop :=
  (∀ e ∈ filter, ¬Unset e.2 → (valueOf e.2).isShort = true ∧ (boostOf e.2).isShort = true) ∧
    ∀ e ∈ range, ∀ c : Comparison, (boundOf e.2 c.name).isShort = true

theorem forall_shownByFilter_iff (entry : Value) :
    (∀ v ∈ shownByFilter entry, v.isShort = true) ↔
      (¬Unset entry → (valueOf entry).isShort = true ∧ (boostOf entry).isShort = true) := by
  rw [← isNull_valueOf_iff, shownByFilter, weighted_eq]
  cases valueOf entry <;> simp [Value.isNull]

theorem forall_shownByRange_iff {entry : Value} (h : IsRangeEntry entry) :
    (∀ v ∈ shownByRange entry, v.isShort = true) ↔
      ∀ c : Comparison, (boundOf entry c.name).isShort = true := by
  obtain ⟨bounds, hbounds, hget⟩ := boundsOf_eq_ok h
  have hall : ∀ c, c ∈ Comparison.all := by
    intro c
    cases c <;> decide
  simp only [shownByRange, hbounds, ← hget, List.mem_filterMap]
  constructor
  · intro hshown c
    cases hvalue : Entries.get? bounds c.name with
    | none => rfl
    | some v => exact hshown v ⟨c, hall c, hvalue⟩
  · rintro hshort v ⟨c, -, hvalue⟩
    have hc := hshort c
    rw [show Entries.get? bounds c.name = some v from hvalue] at hc
    exact hc

/-- The values that clauses show are those of all that is set. -/
theorem forall_shownInClauses_iff {filter range : Entries Value}
    (hrange : ∀ e ∈ range, IsRangeEntry e.2) :
    (∀ v ∈ shownInClauses (.map filter) (.map range), v.isShort = true) ↔
      CanBeWritten filter range := by
  simp only [shownInClauses, entriesOf_map, Except.toOption, Option.getD_some,
    List.forall_mem_append, List.forall_mem_flatMap, forall_shownByFilter_iff]
  exact and_congr_right fun _ => forall₂_congr fun e he => forall_shownByRange_iff (hrange e he)

/-- Leaving out what is null leaves out nothing that is written. -/
theorem canBeWritten_of_set_iff (filter range : Entries Value) :
    CanBeWritten (setEntries filter) (setRanges range) ↔ CanBeWritten filter range := by
  refine and_congr ?_ ?_
  · simp only [mem_setEntries_iff]
    exact ⟨fun h e he hset => h e ⟨he, hset⟩ hset, fun h e he => h e he.1⟩
  · simp only [setRanges, List.mem_filter, List.mem_map]
    constructor
    · intro h e he c
      cases hnull : (boundOf e.2 c.name).isNull with
      | true =>
        rw [isNull_iff.1 hnull]
        rfl
      | false =>
        have hside : c ∈ boundedSides e.2 :=
          List.mem_filter.2 ⟨by cases c <;> decide, by rw [hnull]; rfl⟩
        rw [← boundOf_withoutNulls]
        refine h (e.1, withoutNulls e.2) ⟨⟨e, he, rfl⟩, ?_⟩ c
        rw [boundedSides_withoutNulls, Bool.not_eq_true', List.isEmpty_eq_false_iff]
        exact List.ne_nil_of_mem hside
    · rintro h e ⟨⟨d, hd, rfl⟩, -⟩ c
      rw [boundOf_withoutNulls]
      exact h d hd c

/-! ## Queries -/

/-- The clauses of all that is set: one for each entry of the filter, then one for each bound. -/
def clausesSet (filter range : Entries Value) : List Clause :=
  (setEntries filter).map equalClause ++ range.flatMap setClauses

theorem asked_eq_clausesSet (filter range : Entries Value) :
    asked filter range = clausesSet filter range := by
  rw [asked, clausesSet, filterMap_askedEqual,
    List.flatMap_congr fun e _ => askedBounds_eq_setClauses e]

/-- **Leaving out what is null** keeps all clauses. -/
theorem clausesSet_of_set (filter range : Entries Value) :
    clausesSet (setEntries filter) (setRanges range) = clausesSet filter range := by
  rw [clausesSet, clausesSet, setEntries_setEntries, flatMap_setRanges]

/-- There is no clause exactly if nothing is set. -/
theorem clausesSet_eq_nil_iff {filter range : Entries Value} :
    clausesSet filter range = [] ↔ setEntries filter = [] ∧ setRanges range = [] := by
  rw [clausesSet, List.append_eq_nil_iff, List.map_eq_nil_iff, List.flatMap_eq_nil_iff,
    setRanges_eq_nil_iff]
  simp only [setClauses, List.map_eq_nil_iff]

theorem equalClause_mem {filter : Entries Value} {e : String × Value} (he : e ∈ filter)
    (hset : ¬Unset e.2) (range : Entries Value) : equalClause e ∈ clausesSet filter range :=
  List.mem_append_left _ (List.mem_map_of_mem (mem_setEntries_iff.2 ⟨he, hset⟩))

theorem compares_mem {range : Entries Value} {e : String × Value} (he : e ∈ range) {c : Comparison}
    (hset : boundOf e.2 c.name ≠ .null) (filter : Entries Value) :
    .compares e.1 c (formatValue (boundOf e.2 c.name)) ∈ clausesSet filter range := by
  have hside : c ∈ boundedSides e.2 := by
    refine List.mem_filter.2 ⟨by cases c <;> decide, ?_⟩
    rw [Bool.not_eq_true', ← Bool.not_eq_true, isNull_iff]
    exact hset
  exact List.mem_append_right _ (List.mem_flatMap.2 ⟨e, he, List.mem_map.2 ⟨c, hside, rfl⟩⟩)

/-- **The query** of a text, a filter and a range is put together from the text and the clauses of
    all that is set. -/
theorem compile_map (q : Option String) {filter range : Entries Value}
    (hrange : ∀ e ∈ range, IsRangeEntry e.2) :
    compile (.ofText? q) (.map filter) (.map range) =
      .ok (joined (queryParts (q.getD "") (clausesSet filter range))) := by
  rw [← asked_eq_clausesSet, ← compile_eq q hrange]
  simp only [compile, buildFilter, clauses, entriesOf_map, entriesOf_entriesOrNull]

theorem joined_eq_none_iff {parts : List String} : joined parts = none ↔ parts = [] := by
  cases parts <;> simp [joined]

theorem queryParts_eq_nil_iff {text : String} {cs : List Clause} :
    queryParts text cs = [] ↔ text = "" ∧ cs = [] := by
  by_cases htext : text = "" <;> simp [queryParts, htext]

theorem ne_empty_of_mem_queryParts {text part : String} {cs : List Clause}
    (h : part ∈ queryParts text cs) : part ≠ "" := by
  rcases List.mem_append.1 h with htext | hclause
  · simpa using (List.mem_filter.1 htext).2
  · obtain ⟨c, -, rfl⟩ := List.mem_map.1 hclause
    exact mt String.ofList_eq_empty_iff.1 c.render_ne_nil

/-- The first of some parts stands at the front of their query. -/
theorem prefix_of_joined {part query : String} {parts : List String}
    (h : joined (part :: parts) = some query) : part.toList <+: query.toList := by
  obtain rfl := Option.some.inj h
  rw [String.toList_intercalate]
  cases parts with
  | nil => simp
  | cons next parts =>
    rw [List.map_cons, List.map_cons, List.intercalate_cons_cons, List.append_assoc]
    exact List.prefix_append _ _

/-- A query that is there is not empty, and starts with its text. -/
theorem ne_empty_of_joined {text query : String} {cs : List Clause}
    (h : joined (queryParts text cs) = some query) :
    query ≠ "" ∧ text.toList <+: query.toList := by
  cases hparts : queryParts text cs with
  | nil =>
    rw [hparts] at h
    exact nomatch h
  | cons part parts =>
    have hpart : part ≠ "" := ne_empty_of_mem_queryParts (hparts ▸ List.mem_cons_self)
    rw [hparts] at h
    have hprefix := prefix_of_joined h
    constructor
    · rintro rfl
      exact hpart (String.toList_eq_nil_iff.1 (List.prefix_nil.1 hprefix))
    · by_cases htext : text = ""
      · rw [htext]
        exact List.nil_prefix
      · have hfirst : queryParts text cs = text :: cs.map fun c => String.ofList c.render := by
          simp [queryParts, htext]
        rw [hfirst] at hparts
        rwa [(List.cons.inj hparts).1]

end Query

namespace Client

open Query Schema
open CommandLine (joined queryParts)

/-! ## The same filter in a search and in a deletion -/

/-- The parameters of a search that is given a filter alone. -/
def filteredParams (filter : Entries Value) : Value :=
  .record .search
    [("q", .null), ("filter", .map filter), ("range", .null), ("offset", .null), ("limit", .null),
     ("page", .null), ("sort", .null), ("attributes_to_retrieve", .null),
     ("attributes_to_exclude", .null)] [] ["filter"]

theorem check_filter (filter : Entries Value) :
    Record.check .search (.map [("filter", .map filter)]) = .ok (filteredParams filter) := by
  have hfilter : (Shape.optional (.map .anything)).check (.map filter) = .ok (.map filter) :=
    map_eq_ok_iff.2 ⟨filter, checkEntries_eq_self fun _ _ => rfl, rfl⟩
  have hfields : checkFields (fieldsOf .search) [("filter", .map filter)] =
      ⟨[], [("q", .null), ("filter", .map filter), ("range", .null), ("offset", .null),
        ("limit", .null), ("page", .null), ("sort", .null), ("attributes_to_retrieve", .null),
        ("attributes_to_exclude", .null)], ["filter"]⟩ := by
    simp [fieldsOf, searchFields, checkFields, FieldRule.nullable, suppliedAs, Entries.has,
      Entries.get?, hfilter, Filled.omit, Filled.give, Filled.empty]
  rw [Record.check, Shape.check, hfields]
  rfl

theorem searchParams_filter (filter : Entries Value) :
    Operation.searchParams .null [("filter", .map filter)] = .ok (filteredParams filter) := by
  rw [Operation.searchParams, check_filter]
  rfl

/-- The values that the clauses of a filter alone show are those of all that is set in it. -/
theorem forall_shownInClauses_null_iff (filter : Entries Value) :
    (∀ v ∈ shownInClauses (.map filter) .null, v.isShort = true) ↔ CanBeWritten filter [] :=
  forall_shownInClauses_iff fun _ h => absurd h List.not_mem_nil

theorem isLegible_search_filter (index : Value) (filter : Entries Value) :
    (Operation.search index .null [("filter", .map filter)]).isLegible = true ↔
      index.isShort = true ∧ CanBeWritten filter [] := by
  have hshown : (Operation.search index .null [("filter", .map filter)]).shown =
      index :: (shownInClauses (.map filter) .null ++ [.null, .null, .null] ++ [] ++ [] ++ []) := by
    simp only [Operation.shown, searchParams_filter]
    rfl
  rw [Operation.isLegible, hshown, List.all_eq_true, List.forall_mem_cons, List.append_nil,
    List.append_nil, List.append_nil, List.forall_mem_append, forall_shownInClauses_null_iff]
  simp [Value.isShort]

theorem isLegible_delete_filter (index : Value) (filter : Entries Value) :
    (Operation.deleteDocuments index .null (.map filter)).isLegible = true ↔
      index.isShort = true ∧ CanBeWritten filter [] := by
  have hshown : (Operation.deleteDocuments index .null (.map filter)).shown =
      index :: shownInClauses (.map filter) .null := rfl
  rw [Operation.isLegible, hshown, List.all_eq_true, List.forall_mem_cons,
    forall_shownInClauses_null_iff]

/-- The query of a filter alone. -/
theorem compile_filter (filter : Entries Value) :
    compile .null (.map filter) .null = .ok (joined (queryParts "" (clausesSet filter []))) := by
  exact compile_map none fun _ h => absurd h List.not_mem_nil

/-- The parameters of a search with a filter alone are its query, if it has one. -/
theorem params_search_filter (index : Value) (filter : Entries Value) :
    ∃ c, (Operation.search index .null [("filter", .map filter)]).call = .ok c ∧
      c.params = (joined (queryParts "" (clausesSet filter []))).toList.map ("q", .text ·) := by
  have hpairs : searchPairs (filteredParams filter) =
      .ok ((joined (queryParts "" (clausesSet filter []))).map ("q", ·)).toList := by
    have hquery : parameter (filteredParams filter) "filter" = .ok (.map filter) := rfl
    have hnull : ∀ name ∈ ["q", "range", "offset", "limit", "page", "sort",
        "attributes_to_retrieve", "attributes_to_exclude"],
        parameter (filteredParams filter) name = .ok .null := by
      intro name hname
      simp only [List.mem_cons, List.not_mem_nil, or_false] at hname
      rcases hname with rfl | rfl | rfl | rfl | rfl | rfl | rfl | rfl <;> rfl
    simp only [List.forall_mem_cons] at hnull
    obtain ⟨hq, hrange, hoffset, hlimit, hpage, hsort, hretrieve, hexclude, -⟩ := hnull
    simp only [searchPairs, numberPair, hquery, hq, hrange, hoffset, hlimit, hpage, hsort,
      hretrieve, hexclude, bind, Except.bind, compile_filter]
    exact congrArg Except.ok (by simp [repeated])
  refine ⟨_, bind_eq_ok_iff.2 ⟨_, searchParams_filter filter,
    bind_eq_ok_iff.2 ⟨_, mapError_eq_ok_iff.2 hpairs, rfl⟩⟩, ?_⟩
  cases joined (queryParts "" (clausesSet filter [])) <;> rfl

/-- The parameters of a deletion with a filter alone are the same query, under the name of a
    filter. -/
theorem params_delete_filter (index : Value) (filter : Entries Value) :
    ∃ c, (Operation.deleteDocuments index .null (.map filter)).call = .ok c ∧
      c.params = (joined (queryParts "" (clausesSet filter []))).toList.map ("filter", .text ·) := by
  have hfilter : Operation.deleteFilter (.map filter) = .ok
      ((joined (queryParts "" (clausesSet filter []))).toList.map ("filter", .text ·)) := by
    have hquery : buildFilter (.map filter) .null =
        .ok (String.ofList (renderClauses (clausesSet filter []))) := by
      rw [← asked_eq_clausesSet]
      exact buildFilter_eq_asked fun _ h => absurd h List.not_mem_nil
    rw [Operation.deleteFilter, hquery, ← CommandLine.joined_queryParts]
    refine congrArg Except.ok ?_
    by_cases hempty : String.ofList (renderClauses (clausesSet filter [])) = ""
    · simp [hempty, Operation.present, Value.truthy, joined]
    · simp [hempty, Operation.present, Value.truthy, joined]
  refine ⟨_, bind_eq_ok_iff.2 ⟨[], rfl, bind_eq_ok_iff.2 ⟨_, mapError_eq_ok_iff.2 hfilter, rfl⟩⟩, rfl⟩

/-- **Only null is unset.** Leaving out what is null changes no query, nor whether its values can be
    written. A query that can be written is nothing exactly if its text is empty and nothing is left,
    starts with its text, and has a clause for every other value. A deletion with a filter alone has
    the query of the search with it for its filter, and is written wherever that one is. -/
theorem only_null_is_unset (filter : Entries Value) :
    (∀ (q : Option String) (range : Entries Value), (∀ e ∈ range, IsRangeEntry e.2) →
      (CanBeWritten (setEntries filter) (setRanges range) ↔ CanBeWritten filter range) ∧
      (CanBeWritten filter range → ∃ (query? : Option String) (clauses : List Clause),
        compile (.ofText? q) (.map filter) (.map range) = .ok query? ∧
        compile (.ofText? q) (.map (setEntries filter)) (.map (setRanges range)) = .ok query? ∧
        (query? = none ↔ (q = none ∨ q = some "") ∧ setEntries filter = [] ∧ setRanges range = []) ∧
        (∀ query, query? = some query →
          query ≠ "" ∧ ∀ text, q = some text → text.toList <+: query.toList) ∧
        query? = joined (queryParts (q.getD "") clauses) ∧
        (∀ e ∈ filter, ¬Unset e.2 → equalClause e ∈ clauses) ∧
        ∀ e ∈ range, ∀ c : Comparison, boundOf e.2 c.name ≠ .null →
          .compares e.1 c (formatValue (boundOf e.2 c.name)) ∈ clauses)) ∧
    ∀ index other : Value,
      let deletion := Operation.deleteDocuments index .null (.map filter)
      let search := Operation.search other .null [("filter", .map filter)]
      (deletion.isLegible = true ↔ index.isShort = true ∧ CanBeWritten filter []) ∧
      (search.isLegible = true ↔ other.isShort = true ∧ CanBeWritten filter []) ∧
      ∃ (query? : Option String) (deleted searched : Call),
        deletion.call = .ok deleted ∧ search.call = .ok searched ∧
        deleted.params = query?.toList.map ("filter", .text ·) ∧
        searched.params = query?.toList.map ("q", .text ·) := by
  constructor
  · intro q range hrange
    refine ⟨canBeWritten_of_set_iff filter range, fun _ => ?_⟩
    refine ⟨_, clausesSet filter range, compile_map q hrange, ?_, ?_, ?_, rfl, ?_, ?_⟩
    · rw [compile_map q (isRangeEntry_of_mem_setRanges hrange), clausesSet_of_set]
    · rw [joined_eq_none_iff, queryParts_eq_nil_iff, clausesSet_eq_nil_iff]
      refine and_congr_left fun _ => ?_
      cases q <;> simp
    · intro query hquery
      obtain ⟨hne, hprefix⟩ := ne_empty_of_joined hquery
      refine ⟨hne, ?_⟩
      rintro text rfl
      exact hprefix
    · exact fun e he hset => equalClause_mem he hset range
    · exact fun e he c hset => compares_mem he hset filter
  · intro index other deletion search
    obtain ⟨deleted, hdeleted, hfilter⟩ := params_delete_filter index filter
    obtain ⟨searched, hsearched, hquery⟩ := params_search_filter other filter
    exact ⟨isLegible_delete_filter index filter, isLegible_search_filter other filter, _, deleted,
      searched, hdeleted, hsearched, hfilter, hquery⟩

/-- Zero, falsehood, the empty text and empty containers are set, beside all forms of null. -/
theorem only_null_is_unset_of_empty_values :
    ∃ (filter range : Entries Value) (query : String),
      filter = [("a", .null), ("b", .map [("value", .null), ("boost", .int 2)]), ("c", .int 0),
        ("d", .bool false), ("e", .text ""), ("f", .list []), ("g", .map []),
        ("h", .record .weighted [("value", .null), ("boost", .null)] [] ["value"])] ∧
      range = [("i", .null), ("j", .map [("gt", .null), ("lt", .int 0)]),
        ("k", .record .bounds [("gt", .null), ("gte", .null), ("lt", .null), ("lte", .text "")] []
          ["gt", "lte"]), ("l", .map [("gte", .null)])] ∧
      (∀ e ∈ range, IsRangeEntry e.2) ∧
      query = "dune c:0 d:false e: f:[] g:\x7b\x7d j:<0 k:<=" ∧
      compile (.text "dune") (.map filter) (.map range) = .ok (some query) ∧
      compile (.text "dune") (.map (setEntries filter)) (.map (setRanges range)) = .ok (some query) := by
  let filter : Entries Value := [("a", .null), ("b", .map [("value", .null), ("boost", .int 2)]),
    ("c", .int 0), ("d", .bool false), ("e", .text ""), ("f", .list []), ("g", .map []),
    ("h", .record .weighted [("value", .null), ("boost", .null)] [] ["value"])]
  let range : Entries Value := [("i", .null), ("j", .map [("gt", .null), ("lt", .int 0)]),
    ("k", .record .bounds [("gt", .null), ("gte", .null), ("lt", .null), ("lte", .text "")] []
      ["gt", "lte"]), ("l", .map [("gte", .null)])]
  have hrange : ∀ e ∈ range, IsRangeEntry e.2 := by
    simp [range, IsRangeEntry]
  have hquery : compile (.text "dune") (.map filter) (.map range) =
      .ok (some "dune c:0 d:false e: f:[] g:\x7b\x7d j:<0 k:<=") := by
    obtain ⟨query?, hcompile, hsame⟩ := exists_ok_of_toOption (f := id)
      (x := compile (.text "dune") (.map filter) (.map range))
      (b := some "dune c:0 d:false e: f:[] g:\x7b\x7d j:<0 k:<=") (by decide +kernel)
    rw [hcompile, ← hsame, id]
  have hwritten : CanBeWritten filter range := by
    refine (forall_shownInClauses_iff hrange).1 ?_
    decide +kernel
  obtain ⟨query?, -, hcompile, hleft, -⟩ :=
    ((only_null_is_unset filter).1 (some "dune") range hrange).2 hwritten
  obtain rfl := Except.ok.inj (hcompile.symm.trans hquery)
  exact ⟨filter, range, _, rfl, rfl, hrange, rfl, hquery, hleft⟩

end Client

end SearchClient
