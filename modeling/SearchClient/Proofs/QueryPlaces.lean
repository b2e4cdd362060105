import Mathlib
import SearchClient.Proofs.ClauseReader

set_option autoImplicit false

/-! # Places for numbers in queries

A number in a filter or a range is the value that a field has to match, the weight of a value, or a
bound, alone, in a map or in a record. Wherever it stands, the query is the same for all numbers but
for the text of the number (`Place.showsNumbers`). -/

namespace SearchClient.Query

open Text

/-! ## Places for a value -/

/-- Entries of which one is left open. -/
structure Gap where
  before : Entries Value
  name : String
  after : Entries Value
  fresh : name ∉ before.names

namespace Gap

/-- The entries with a value in the gap. -/
def fill (g : Gap) (v : Value) : Entries Value :=
  g.before ++ (g.name, v) :: g.after

/-- The entries around the gap. -/
def others (g : Gap) : Entries Value :=
  g.before ++ g.after

theorem get?_fill (g : Gap) (v : Value) (name : String) :
    (g.fill v).get? name = if name = g.name then some v else g.others.get? name := by
  rw [fill, others, Entries.get?_append, Entries.get?_append, Entries.get?]
  split
  · next h => rw [Entries.get?_eq_none_iff.2 (h ▸ g.fresh), Option.none_or, if_pos h.symm]
  · next h => rw [if_neg (Ne.symm h)]

end Gap

/-- What holds the members of an entry. -/
inductive Holder where
  | map
  | record (given : List String)

/-- The members of a record or a map. -/
def Holder.hold (h : Holder) (model : Model) (members : Entries Value) : Value :=
  match h with
  | map => .map members
  | record given => .record model members [] given

theorem valueOf_hold {members : Entries Value} {v : Value} (h : members.get? "value" = some v)
    (holder : Holder) : valueOf (holder.hold .weighted members) = v := by
  cases holder <;> simp [Holder.hold, valueOf, Value.member, Value.member?, Value.ofOption, h]

theorem boostOf_hold {members : Entries Value} {v : Value} (h : members.get? "value" = some v)
    (holder : Holder) :
    boostOf (holder.hold .weighted members) = .ofOption (members.get? "boost") := by
  cases holder <;>
    simp [Holder.hold, boostOf, Value.member, Value.member?, Entries.has, Entries.get?, h]

/-- Where a value stands in an entry of a filter or of a range. -/
inductive Place where
  /-- A value alone, to be matched. -/
  | bare
  /-- A value to be matched that may have a weight. -/
  | value (holder : Holder) (members : Gap) (named : members.name = "value")
  /-- The weight of a value that is set. -/
  | boost (holder : Holder) (members : Gap) (named : members.name = "boost")
    (weighs : ∃ v ≠ .null, members.others.get? "value" = some v)
  /-- A bound. -/
  | bound (holder : Holder) (members : Gap) (comparison : Comparison)
    (named : members.name = comparison.name)

namespace Place

/-- The entry with a value in its place. -/
def entry (v : Value) : Place → Value
  | bare => v
  | value holder members _ => holder.hold .weighted (members.fill v)
  | boost holder members _ _ => holder.hold .weighted (members.fill v)
  | bound holder members _ _ => holder.hold .bounds (members.fill v)

/-- The query of a filter or a range with such an entry among others, and of the other one of the
    two. -/
def query (p : Place) (entries : Gap) (other v : Value) : Except Misuse String :=
  match p with
  | bound .. => buildFilter other (.map (entries.fill (p.entry v)))
  | _ => buildFilter (.map (entries.fill (p.entry v))) other

end Place

/-! ## Clauses that show a number -/

/-- An integer or a floating point number. -/
def IsNumber (v : Value) : Prop :=
  match v with
  | .int _ | .float _ => True
  | _ => False

theorem textOf?_of_ne_null {v : Value} (h : v ≠ .null) : textOf? v = some (formatValue v) := by
  cases v <;> first | exact absurd rfl h | rfl

theorem IsNumber.ne_null {v : Value} (h : IsNumber v) : v ≠ .null := by
  rintro rfl
  exact h

/-- A clause that shows a text as it is. -/
def Shows (clause : String → Clause) : Prop :=
  ∃ front back, ∀ text : String, (clause text).render = front ++ text.toList ++ back

section

variable (field : String)

theorem shows_value (boost : Option String) : Shows fun text => .equals field text boost := by
  cases boost with
  | none => exact ⟨field.toList ++ [':'], [], fun text => by simp [Clause.render]⟩
  | some boost =>
    exact ⟨field.toList ++ [':'], '^' :: boost.toList, fun text => by simp [Clause.render]⟩

theorem shows_boost (value : String) : Shows fun text => .equals field value (some text) :=
  ⟨field.toList ++ ':' :: value.toList ++ ['^'], [], fun text => by simp [Clause.render]⟩

theorem shows_bound (c : Comparison) : Shows fun text => .compares field c text :=
  ⟨field.toList ++ ':' :: c.sign.toList, [], fun text => by simp [Clause.render]⟩

theorem filterClause_bare {v : Value} (h : IsNumber v) :
    filterClause field v = some (.equals field (formatValue v) none) := by
  cases v <;> first | exact h.elim | rfl

theorem filterClause_value (holder : Holder) {members : Gap} (hname : members.name = "value")
    {v : Value} (h : IsNumber v) : filterClause field (holder.hold .weighted (members.fill v)) =
      some (.equals field (formatValue v) (textOf? (.ofOption (members.others.get? "boost")))) := by
  have hvalue : (members.fill v).get? "value" = some v := by
    rw [Gap.get?_fill, if_pos hname.symm]
  have hboost : (members.fill v).get? "boost" = members.others.get? "boost" := by
    rw [Gap.get?_fill, hname, if_neg (by decide)]
  rw [filterClause_eq_asked (field, _), askedEqual, valueOf_hold hvalue, boostOf_hold hvalue, hboost,
    textOf?_of_ne_null h.ne_null]
  rfl

theorem filterClause_boost (holder : Holder) {members : Gap} (hname : members.name = "boost")
    {value : Value} (hset : value ≠ .null) (hvalue : members.others.get? "value" = some value)
    {v : Value} (h : IsNumber v) : filterClause field (holder.hold .weighted (members.fill v)) =
      some (.equals field (formatValue value) (some (formatValue v))) := by
  have hvalue' : (members.fill v).get? "value" = some value := by
    rw [Gap.get?_fill, hname, if_neg (by decide), hvalue]
  have hboost : (members.fill v).get? "boost" = some v := by
    rw [Gap.get?_fill, if_pos hname.symm]
  rw [filterClause_eq_asked (field, _), askedEqual, valueOf_hold hvalue', boostOf_hold hvalue',
    hboost, textOf?_of_ne_null hset, Value.ofOption, textOf?_of_ne_null h.ne_null]
  rfl

end

theorem boundOf_fill_of_ne (holder : Holder) (members : Gap) (v : Value) {name : String}
    (h : name ≠ members.name) : boundOf (holder.hold .bounds (members.fill v)) name =
      boundOf (holder.hold .bounds members.others) name := by
  cases holder <;>
    simp [Holder.hold, boundOf, Value.member, Value.member?, Gap.get?_fill, h]

theorem boundOf_fill (holder : Holder) (members : Gap) {v : Value} (h : IsNumber v) :
    boundOf (holder.hold .bounds (members.fill v)) members.name = v := by
  have hdump : Record.dump {} v = v := by
    cases v <;> first | exact h.elim | rfl
  cases holder <;>
    simp [Holder.hold, boundOf, Value.member, Value.member?, Gap.get?_fill, Value.ofOption, hdump]

/-- A bound shows in a clause among those of the other bounds. -/
theorem exists_rangeClauses_bound (field : String) (holder : Holder) (members : Gap)
    (c : Comparison) (hname : members.name = c.name) : ∃ before after : List Clause, ∀ v, IsNumber v →
      rangeClauses field (holder.hold .bounds (members.fill v)) =
        .ok (before ++ .compares field c (formatValue v) :: after) := by
  -- the comparisons in the order in which they are written, cut at this one
  obtain ⟨before, after, hall, hother⟩ : ∃ before after,
      [Comparison.above, .atLeast, .below, .atMost] = before ++ c :: after ∧
        ∀ d ∈ before ++ after, d.name ≠ c.name := by
    cases c with
    | above => exact ⟨[], _, rfl, by decide⟩
    | atLeast => exact ⟨[_], _, rfl, by decide⟩
    | below => exact ⟨[_, _], _, rfl, by decide⟩
    | atMost => exact ⟨[_, _, _], _, rfl, by decide⟩
  let written (entry : Value) (d : Comparison) : Option Clause :=
    (textOf? (boundOf entry d.name)).map fun text => .compares field d text
  refine ⟨before.filterMap (written (holder.hold .bounds members.others)),
    after.filterMap (written (holder.hold .bounds members.others)), fun v hv => ?_⟩
  have hentry : IsRangeEntry (holder.hold .bounds (members.fill v)) := by
    cases holder <;> trivial
  have hsame : ∀ d ∈ before ++ after, written (holder.hold .bounds (members.fill v)) d =
      written (holder.hold .bounds members.others) d := by
    intro d hd
    simp only [written, boundOf_fill_of_ne holder members v (hname ▸ hother d hd)]
  have hhere : written (holder.hold .bounds (members.fill v)) c =
      some (.compares field c (formatValue v)) := by
    simp only [written, ← hname, boundOf_fill holder members hv, textOf?_of_ne_null hv.ne_null,
      Option.map_some]
  rw [List.forall_mem_append] at hsame
  rw [rangeClauses_eq_asked (e := (field, holder.hold .bounds (members.fill v))) hentry, askedBounds,
    hall, List.filterMap_append, List.filterMap_cons_some hhere]
  exact congrArg Except.ok (congrArg₂ (· ++ _ :: ·) (List.filterMap_congr hsame.1)
    (List.filterMap_congr hsame.2))

/-! ## Frames -/

/-- A query in which numbers show as their texts, in a frame that is the same for all of them; or none
    at all, for the same reason. -/
def ShowsNumbers (query : Value → Except Misuse String) : Prop :=
  ∃ frame : Except Misuse (String × String), ∀ v, IsNumber v →
    query v = frame.map fun (front, back) => front ++ formatValue v ++ back

theorem exists_joinOn (c : Char) (parts later : List (List Char)) :
    ∃ front back, ∀ part, joinOn c (parts ++ part :: later) = front ++ part ++ back := by
  induction parts with
  | nil =>
    cases later with
    | nil => exact ⟨[], [], fun part => by simp [joinOn]⟩
    | cons next later => exact ⟨[], c :: joinOn c (next :: later), fun part => rfl⟩
  | cons first parts ih =>
      obtain ⟨front, back, h⟩ := ih
      refine ⟨first ++ c :: front, back, fun part => ?_⟩
      have hcons : joinOn c (first :: (parts ++ part :: later)) =
          first ++ c :: joinOn c (parts ++ part :: later) := by
        cases parts <;> rfl
      rw [List.cons_append, hcons, h]
      simp

/-- The clauses around one that shows a text are around that text. -/
theorem exists_renderClauses {clause : String → Clause} (h : Shows clause) (before after : List Clause) :
    ∃ front back : String, ∀ text, String.ofList (renderClauses (before ++ clause text :: after)) =
      front ++ text ++ back := by
  obtain ⟨first, last, hclause⟩ := h
  obtain ⟨front, back, hjoin⟩ :=
    exists_joinOn ' ' (before.map Clause.render) (after.map Clause.render)
  refine ⟨String.ofList (front ++ first), String.ofList (last ++ back), fun text => ?_⟩
  rw [renderClauses_eq_joinOn, List.map_append, List.map_cons, hjoin, hclause, ← String.toList_inj]
  simp

/-- Numbers show in a query if they show in a clause among others that are the same for all of
    them. -/
theorem showsNumbers_of_clauses {clause : String → Clause} (hshows : Shows clause)
    (parts : Except Misuse (List Clause × List Clause)) {filter range : Value → Value}
    (h : ∀ v, IsNumber v → clauses (filter v) (range v) =
      parts.map fun (before, after) => before ++ clause (formatValue v) :: after) :
    ShowsNumbers fun v => buildFilter (filter v) (range v) := by
  cases parts with
  | error e =>
    refine ⟨.error e, fun v hv => ?_⟩
    simp only [buildFilter, h v hv]
    rfl
  | ok parts =>
    obtain ⟨front, back, htext⟩ := exists_renderClauses hshows parts.1 parts.2
    refine ⟨.ok (front, back), fun v hv => ?_⟩
    simp only [buildFilter, h v hv]
    exact congrArg Except.ok (htext (formatValue v))

theorem showsNumbers_of_filter {clause : String → Clause} (hshows : Shows clause) (entries : Gap)
    (entry : Value → Value)
    (h : ∀ v, IsNumber v → filterClause entries.name (entry v) = some (clause (formatValue v)))
    (other : Value) : ShowsNumbers fun v => buildFilter (.map (entries.fill (entry v))) other := by
  refine showsNumbers_of_clauses hshows ((entriesOf other >>= rangeEntryClauses).map fun bounds =>
    (filterClauses entries.before, filterClauses entries.after ++ bounds)) fun v hv => ?_
  rw [clauses_eq, entriesOf_map, Gap.fill, Except.map, filterClauses_append, filterClauses_cons,
    h v hv]
  cases entriesOf other >>= rangeEntryClauses <;>
    simp [bind, Except.bind, pure, Except.pure, Except.map]

theorem showsNumbers_of_range {clause : String → Clause} (hshows : Shows clause) (entries : Gap)
    (entry : Value → Value) {before after : List Clause}
    (h : ∀ v, IsNumber v →
      rangeClauses entries.name (entry v) = .ok (before ++ clause (formatValue v) :: after))
    (other : Value) : ShowsNumbers fun v => buildFilter other (.map (entries.fill (entry v))) := by
  refine showsNumbers_of_clauses hshows (do
    let equals ← (entriesOf other).map filterClauses
    let front ← rangeEntryClauses entries.before
    let back ← rangeEntryClauses entries.after
    return (equals ++ front ++ before, after ++ back)) fun v hv => ?_
  rw [clauses_eq, entriesOf_map, Gap.fill]
  simp only [bind, Except.bind, rangeEntryClauses_append, rangeEntryClauses, h v hv]
  cases (entriesOf other).map filterClauses <;> cases rangeEntryClauses entries.before <;>
    cases rangeEntryClauses entries.after <;>
      simp [pure, Except.pure, Except.map]

/-- **Numbers show in queries** as their texts, wherever they stand. -/
theorem Place.showsNumbers (p : Place) (entries : Gap) (other : Value) :
    ShowsNumbers (p.query entries other) := by
  cases p with
  | bare =>
    exact showsNumbers_of_filter (shows_value entries.name none) entries (fun v => v)
      (fun v hv => filterClause_bare entries.name hv) other
  | value holder members named =>
    exact showsNumbers_of_filter (shows_value entries.name _) entries
      (fun v => holder.hold .weighted (members.fill v))
      (fun v hv => filterClause_value entries.name holder named hv) other
  | boost holder members named weighs =>
    obtain ⟨value, hset, hvalue⟩ := weighs
    exact showsNumbers_of_filter (shows_boost entries.name (formatValue value)) entries
      (fun v => holder.hold .weighted (members.fill v))
      (fun v hv => filterClause_boost entries.name holder named hset hvalue hv) other
  | bound holder members c named =>
    obtain ⟨before, after, hbound⟩ := exists_rangeClauses_bound entries.name holder members c named
    exact showsNumbers_of_range (shows_bound entries.name c) entries
      (fun v => holder.hold .bounds (members.fill v)) hbound other

end SearchClient.Query
