import Mathlib
import SearchClient.Proofs.ClauseReader
import SearchClient.Proofs.Criteria
import SearchClient.Proofs.Overrides

set_option autoImplicit false

/-! # Plain forms of the parts of a search

A value with a weight, bounds and a field to sort on are records, or plain data of the same content.
A record may stand for its plain form anywhere in the parameters of a search (`PlainMember`), or not:
the parameters are accepted alike and give the same named texts. The main theorem is
`search_plain_forms_alike`. -/

namespace SearchClient

open Schema

/-! ## Made records -/

namespace Record

variable {model : Model} {data : Entries Value} {r : Value} {f : FieldRule}

/-- The data of a made record fit its fields. -/
theorem exists_check_of_get? (h : check model (.map data) = .ok r) (hf : f ∈ fieldsOf model)
    (hwire : f.wire = f.name) {v : Value} (hv : data.get? f.name = some v) :
    ∃ w, f.shape.check v = .ok w := by
  have hfits := (check_map_eq_ok_iff.1 h).1 f hf
  rwa [FieldOf.Fits, FieldOf.supplied?, hwire, Option.or_self, hv] at hfits

/-- A member whose shape takes what the data say as it is, is that or its default. -/
theorem member?_of_taken (h : check model (.map data) = .ok r) (hf : f ∈ fieldsOf model)
    (hwire : f.wire = f.name)
    (htaken : ∀ v, data.get? f.name = some v → f.shape.check v = .ok v) :
    r.member? f.name = (data.get? f.name).or f.default := by
  rw [member?_eq_checked? h hf, FieldOf.checked?, FieldOf.supplied?, hwire, Option.or_self]
  cases hget : data.get? f.name with
  | none => rfl
  | some v => simp only [htaken v hget, Except.toOption, Option.some_or]

/-- A model that ignores what it does not declare makes records without undeclared members. -/
theorem eq_record_of_check (h : check model (.map data) = .ok r) (hignored : extrasOf model = .ignored) :
    ∃ fields given, r = .record model fields [] given := by
  obtain ⟨-, -, -, rfl⟩ := check_map_eq_ok_iff.1 h
  have hextra : extraOf model data = [] := by
    rw [extraOf, hignored]
    rfl
  rw [hextra]
  exact ⟨_, _, rfl⟩

end Record

namespace Query

open CommandLine (displayText_text)

/-! ## Records and their plain forms -/

/-- A value without parts. -/
def IsScalar : Value → Prop
  | .null | .bool _ | .int _ | .float _ | .text _ | .date _ | .dateTime _ | .symbol _ => True
  | _ => False

/-- A weight that is a number, or none. -/
def IsWeight : Value → Prop
  | .null | .int _ | .float _ => True
  | _ => False

/-- An entry of a filter, or the plain form of its value with a weight: a map of the same value and
    weight. A weight that is null may be missing. -/
inductive PlainEqual : Value → Value → Prop where
  | same (entry : Value) : PlainEqual entry entry
  | weighted {data es : Entries Value} {r : Value}
      (made : Record.check .weighted (.map data) = .ok r)
      (weight : IsWeight (.ofOption (data.get? "boost")))
      (value : es.get? "value" = data.get? "value")
      (boost : Value.ofOption (es.get? "boost") = .ofOption (data.get? "boost")) :
      PlainEqual r (.map es)

/-- An entry of a range, or the plain form of its bounds: a map of the same bounds, in any order.
    Bounds that are null may be missing. -/
inductive PlainBounds : Value → Value → Prop where
  | same (entry : Value) : PlainBounds entry entry
  | bounds {data es : Entries Value} {r : Value}
      (made : Record.check .bounds (.map data) = .ok r)
      (scalar : ∀ c : Comparison, IsScalar (.ofOption (data.get? c.name)))
      (alike : ∀ c : Comparison, Value.ofOption (es.get? c.name) = .ofOption (data.get? c.name)) :
      PlainBounds r (.map es)

/-- A field to sort on, or one of its plain forms: a map of the same field and order, or a text, with
    a minus sign at the front for descending order. -/
inductive PlainSort : Value → Value → Prop where
  | same (v : Value) : PlainSort v v
  | map {data es : Entries Value} {field : String} {r : Value}
      (made : Record.check .sortKey (.map data) = .ok r)
      (text : data.get? "field" = some (.text field))
      (alike : es.get? "field" = data.get? "field")
      (order : es.get? "order" = data.get? "order") : PlainSort r (.map es)
  | ascending {data : Entries Value} {field : String} {r : Value}
      (made : Record.check .sortKey (.map data) = .ok r)
      (text : data.get? "field" = some (.text field))
      (order : data.get? "order" = none ∨ data.get? "order" = some (.text "asc")) :
      PlainSort r (.text field)
  | descending {data : Entries Value} {field : String} {r : Value}
      (made : Record.check .sortKey (.map data) = .ok r)
      (text : data.get? "field" = some (.text field))
      (order : data.get? "order" = some (.text "desc")) : PlainSort r (.text ("-" ++ field))

/-- Entries of the same names in the same order whose values are related. -/
def Related (R : String → Value → Value → Prop) : Entries Value → Entries Value → Prop :=
  List.Forall₂ fun e d => e.1 = d.1 ∧ R e.1 e.2 d.2

/-- A member of the parameters of a search, in which any of its parts may be in plain form. -/
inductive PlainMember : String → Value → Value → Prop where
  | same (name : String) (v : Value) : PlainMember name v v
  | filter {entries plain : Entries Value} (parts : Related (fun _ => PlainEqual) entries plain) :
      PlainMember "filter" (.map entries) (.map plain)
  | range {entries plain : Entries Value} (parts : Related (fun _ => PlainBounds) entries plain) :
      PlainMember "range" (.map entries) (.map plain)
  | sort {keys plain : List Value} (parts : List.Forall₂ PlainSort keys plain) :
      PlainMember "sort" (.list keys) (.list plain)

/-! ## Texts of plain forms -/

theorem ofOption_or_null (v : Option Value) : Value.ofOption (v.or (some .null)) = .ofOption v := by
  cases v <;> rfl

theorem weighted_of_check {data : Entries Value} {r : Value}
    (made : Record.check .weighted (.map data) = .ok r)
    (weight : IsWeight (.ofOption (data.get? "boost"))) :
    ∃ v, data.get? "value" = some v ∧ weighted r = (v, .ofOption (data.get? "boost")) := by
  have hvalue : FieldRule.required "value" .anything ∈ fieldsOf .weighted := by
    simp [fieldsOf, weightedFields]
  have hboost : FieldRule.nullable "boost" .number ∈ fieldsOf .weighted := by
    simp [fieldsOf, weightedFields]
  have hweight : ∀ v, data.get? "boost" = some v → (Shape.optional .number).check v = .ok v := by
    intro v hv
    rw [hv] at weight
    cases v <;> first | rfl | exact weight.elim
  obtain ⟨v, hv, -⟩ := Record.member?_of_check made hvalue
  have hget := (Record.member?_of_taken made hvalue rfl fun _ _ => rfl).symm.trans hv
  have hmember := Record.member?_of_taken made hboost rfl hweight
  obtain ⟨fields, given, rfl⟩ := Record.eq_record_of_check made rfl
  refine ⟨v, (Option.or_none).symm.trans hget, Prod.ext (congrArg Value.ofOption hv) ?_⟩
  exact (congrArg Value.ofOption hmember).trans (ofOption_or_null _)

theorem weighted_of_plain {entry plain : Value} (h : PlainEqual entry plain) :
    weighted plain = weighted entry := by
  cases h with
  | same => rfl
  | weighted made weight value boost =>
    obtain ⟨v, hv, hweighted⟩ := weighted_of_check made weight
    rw [hweighted, weighted, value, hv, ← boost]

theorem filterClause_of_plain {entry plain : Value} (h : PlainEqual entry plain) (field : String) :
    filterClause field plain = filterClause field entry := by
  rw [filterClause, filterClause, weighted_of_plain h]

theorem dump_of_isScalar {v : Value} (h : IsScalar v) : Record.dump {} v = v := by
  cases v <;> first | rfl | exact h.elim

theorem rangeClauses_of_plain {entry plain : Value} (h : PlainBounds entry plain) (field : String) :
    rangeClauses field plain = rangeClauses field entry := by
  cases h with
  | same => rfl
  | @bounds data es r made scalar alike =>
    have hmember : ∀ c : Comparison, entry.member c.name = .ofOption (data.get? c.name) := by
      intro c
      have hfield : FieldRule.defaulted c.name .anything .null ∈ fieldsOf .bounds := by
        cases c <;> simp [fieldsOf, boundsFields, Comparison.name]
      have hmember := Record.member?_of_taken made hfield rfl fun _ _ => rfl
      exact (congrArg Value.ofOption hmember).trans (ofOption_or_null _)
    obtain ⟨fields, given, rfl⟩ := Record.eq_record_of_check made rfl
    have hbound : ∀ c : Comparison, boundOf (.map es) c.name =
        boundOf (.record .bounds fields [] given) c.name := by
      intro c
      simp only [boundOf, alike, hmember, dump_of_isScalar (scalar c)]
    have hasked : askedBounds (field, .map es) =
        askedBounds (field, .record .bounds fields [] given) := by
      simp only [askedBounds, hbound]
    rw [rangeClauses_eq_asked (e := (field, .map es)) trivial,
      rangeClauses_eq_asked (e := (field, .record .bounds fields [] given)) trivial, hasked]

/-- The text of a field to sort on that was made of data. -/
theorem sortField_of_check {data : Entries Value} {field : String} {r : Value}
    (made : Record.check .sortKey (.map data) = .ok r)
    (text : data.get? "field" = some (.text field)) :
    sortField r = orderedField field ((data.get? "order").or (some (.text "asc"))) := by
  have hfield : FieldRule.required "field" .text ∈ fieldsOf .sortKey := by
    simp [fieldsOf, sortKeyFields]
  have horder : FieldRule.defaulted "order" (.oneOf ["asc", "desc"]) (.text "asc") ∈
      fieldsOf .sortKey := by
    simp [fieldsOf, sortKeyFields]
  have htaken : ∀ v, data.get? "order" = some v → (Shape.oneOf ["asc", "desc"]).check v = .ok v := by
    intro v hv
    obtain ⟨w, hw⟩ := Record.exists_check_of_get? made horder rfl hv
    obtain ⟨s, -, rfl, rfl⟩ := exists_option_of_check hw
    exact hw
  have htext : ∀ v, data.get? "field" = some v → Shape.text.check v = .ok v := by
    intro v hv
    obtain rfl := Option.some.inj (text.symm.trans hv)
    rfl
  have hmember : r.member? "field" = some (.text field) := by
    rw [← Option.or_none (o := some _), ← text]
    exact Record.member?_of_taken made hfield rfl htext
  have hsorted : r.member? "order" = (data.get? "order").or (some (.text "asc")) :=
    Record.member?_of_taken made horder rfl htaken
  obtain ⟨fields, given, rfl⟩ := Record.eq_record_of_check made rfl
  rw [sortField, Value.member, hmember, hsorted]
  exact congrArg (orderedField · _) (displayText_text field)

theorem orderedField_or_ascending (field : String) (order : Option Value) :
    orderedField field (order.or (some (.text "asc"))) = orderedField field order := by
  cases order <;> rfl

theorem sortField_of_plain {key plain : Value} (h : PlainSort key plain) :
    sortField plain = sortField key := by
  cases h with
  | same => rfl
  | map made text alike order =>
    rw [sortField_of_check made text, sortField, alike, text, order, orderedField_or_ascending]
    exact congrArg (orderedField · _) (displayText_text _)
  | ascending made text order =>
    rw [sortField_of_check made text]
    rcases order with horder | horder <;> rw [horder] <;> exact displayText_text _
  | descending made text order =>
    rw [sortField_of_check made text, order]
    exact displayText_text _

/-! ## Compiled plain forms -/

theorem filterClauses_of_plain {entries plain : Entries Value}
    (h : Related (fun _ => PlainEqual) entries plain) :
    filterClauses plain = filterClauses entries := by
  induction h with
  | nil => rfl
  | @cons e d entries plain hfirst _ ih =>
      obtain ⟨field, entry⟩ := d
      obtain ⟨rfl, hentry⟩ := hfirst
      rw [filterClauses_cons, filterClause_of_plain hentry, ih, ← filterClauses_cons]

theorem rangeEntryClauses_of_plain {entries plain : Entries Value}
    (h : Related (fun _ => PlainBounds) entries plain) :
    rangeEntryClauses plain = rangeEntryClauses entries := by
  induction h with
  | nil => rfl
  | @cons e d _ _ hfirst _ ih =>
      have hhere : rangeClauses d.1 d.2 = rangeClauses e.1 e.2 := by
        rw [← hfirst.1, rangeClauses_of_plain hfirst.2]
      rw [rangeEntryClauses, rangeEntryClauses, hhere, ih]

theorem map_sortField_of_plain {keys plain : List Value} (h : List.Forall₂ PlainSort keys plain) :
    plain.map sortField = keys.map sortField := by
  induction h with
  | nil => rfl
  | cons hfirst _ ih => rw [List.map_cons, List.map_cons, sortField_of_plain hfirst, ih]

/-- Only a filter, a range and a sorting have plain forms of their parts. -/
theorem PlainMember.eq {name : String} {v plain : Value} (h : PlainMember name v plain)
    (hname : name ∉ ["filter", "range", "sort"]) : plain = v := by
  cases h with
  | same => rfl
  | _ => exact absurd (by decide) hname

theorem PlainMember.filter_cases {v plain : Value} (h : PlainMember "filter" v plain) :
    plain = v ∨ ∃ entries others, v = .map entries ∧ plain = .map others ∧
      Related (fun _ => PlainEqual) entries others := by
  generalize hname : "filter" = name at h
  cases h with
  | same => exact Or.inl rfl
  | filter parts => exact Or.inr ⟨_, _, rfl, rfl, parts⟩
  | _ => exact absurd hname (by decide)

theorem PlainMember.range_cases {v plain : Value} (h : PlainMember "range" v plain) :
    plain = v ∨ ∃ entries others, v = .map entries ∧ plain = .map others ∧
      Related (fun _ => PlainBounds) entries others := by
  generalize hname : "range" = name at h
  cases h with
  | same => exact Or.inl rfl
  | range parts => exact Or.inr ⟨_, _, rfl, rfl, parts⟩
  | _ => exact absurd hname (by decide)

theorem PlainMember.sort_cases {v plain : Value} (h : PlainMember "sort" v plain) :
    plain = v ∨ ∃ keys others, v = .list keys ∧ plain = .list others ∧
      List.Forall₂ PlainSort keys others := by
  generalize hname : "sort" = name at h
  cases h with
  | same => exact Or.inl rfl
  | sort parts => exact Or.inr ⟨_, _, rfl, rfl, parts⟩
  | _ => exact absurd hname (by decide)

theorem clauses_of_plain {filter filter' range range' : Value}
    (hfilter : PlainMember "filter" filter filter') (hrange : PlainMember "range" range range') :
    clauses filter' range' = clauses filter range := by
  have hequals : (entriesOf filter').map filterClauses = (entriesOf filter).map filterClauses := by
    rcases hfilter.filter_cases with rfl | ⟨entries, others, rfl, rfl, parts⟩
    · rfl
    · rw [entriesOf_map, entriesOf_map]
      exact congrArg Except.ok (filterClauses_of_plain parts)
  have hbounds : entriesOf range' >>= rangeEntryClauses = entriesOf range >>= rangeEntryClauses := by
    rcases hrange.range_cases with rfl | ⟨entries, others, rfl, rfl, parts⟩
    · rfl
    · rw [entriesOf_map, entriesOf_map]
      exact rangeEntryClauses_of_plain parts
  rw [clauses_eq, clauses_eq, hequals, hbounds]

theorem sortFields_of_plain {sort sort' : Value} (h : PlainMember "sort" sort sort') :
    sortFields sort' = sortFields sort := by
  rcases h.sort_cases with rfl | ⟨keys, others, rfl, rfl, parts⟩
  · rfl
  · have hempty : others.isEmpty = keys.isEmpty := by
      cases parts <;> rfl
    unfold sortFields
    rw [Value.truthy, Value.truthy, hempty]
    exact ite_congr rfl (fun _ => congrArg Except.ok (map_sortField_of_plain parts)) fun _ => rfl

/-! ## Parameters with plain forms -/

/-- Parameters of the same members, in some of which parts are in plain form. -/
def PlainParams (params plain : Value) : Prop :=
  ∀ name, Option.Rel (PlainMember name) (params.member? name) (plain.member? name)

/-- Steps on related members of such parameters give the same if what they do with them is the
    same. -/
theorem bind_parameter_of_plain {params plain : Value} (h : PlainParams params plain) (name : String)
    {β : Type} {k k' : Value → Except Misuse β}
    (hk : ∀ v v', PlainMember name v v' → k' v' = k v) :
    parameter plain name >>= k' = parameter params name >>= k := by
  have hname := h name
  unfold parameter
  cases hparams : params.member? name <;> cases hplain : plain.member? name <;>
    rw [hparams, hplain] at hname <;> cases hname
  · rfl
  · next hmember => exact hk _ _ hmember

theorem numberPair_of_plain {params plain : Value} (h : PlainParams params plain) {name : String}
    (hname : name ∉ ["filter", "range", "sort"]) : numberPair plain name = numberPair params name := by
  refine bind_parameter_of_plain h name fun v v' hmember => ?_
  rw [hmember.eq hname]

theorem compile_of_plain {filter filter' range range' : Value} (q : Value)
    (hfilter : PlainMember "filter" filter filter') (hrange : PlainMember "range" range range') :
    compile q filter' range' = compile q filter range := by
  rw [compile, compile, buildFilter, buildFilter, clauses_of_plain hfilter hrange]

/-- **Plain forms give the same texts.** -/
theorem searchPairs_of_plain {params plain : Value} (h : PlainParams params plain) :
    searchPairs plain = searchPairs params := by
  have hnumber : ∀ name ∈ ["offset", "limit", "page"],
      numberPair plain name = numberPair params name := by
    intro name hname
    refine numberPair_of_plain h ?_
    revert name
    decide
  unfold searchPairs
  refine bind_parameter_of_plain h "q" fun q q' hq => ?_
  refine bind_parameter_of_plain h "filter" fun filter filter' hfilter => ?_
  refine bind_parameter_of_plain h "range" fun range range' hrange => ?_
  rw [hq.eq (by decide), compile_of_plain q hfilter hrange, hnumber "offset" (by decide),
    hnumber "limit" (by decide), hnumber "page" (by decide)]
  refine bind_congr fun query => bind_congr fun offset => bind_congr fun limit =>
    bind_congr fun page => ?_
  refine bind_parameter_of_plain h "sort" fun sort sort' hsort => ?_
  rw [sortFields_of_plain hsort]
  refine bind_congr fun sorted => ?_
  refine bind_parameter_of_plain h "attributes_to_retrieve" fun retrieve retrieve' hretrieve => ?_
  rw [hretrieve.eq (by decide)]
  refine bind_congr fun retrieved => ?_
  refine bind_parameter_of_plain h "attributes_to_exclude" fun exclude exclude' hexclude => ?_
  rw [hexclude.eq (by decide)]

/-! ## Accepted parameters -/

theorem get?_of_related {R : String → Value → Value → Prop} {es ds : Entries Value}
    (h : Related R es ds) (name : String) : Option.Rel (R name) (es.get? name) (ds.get? name) := by
  induction h with
  | nil => exact .none
  | @cons e d es ds hfirst _ ih =>
      obtain ⟨other, v⟩ := d
      obtain ⟨rfl, hvalue⟩ := hfirst
      by_cases hname : e.1 = name
      · subst hname
        simpa only [Entries.get?, if_true] using .some hvalue
      · simpa only [Entries.get?, hname, if_false] using ih

theorem names_of_related {R : String → Value → Value → Prop} {es ds : Entries Value}
    (h : Related R es ds) : ds.names = es.names := by
  induction h with
  | nil => rfl
  | cons hfirst _ ih => exact List.cons_eq_cons.2 ⟨hfirst.1.symm, ih⟩

/-- Plain forms are taken where their parts are, and both as they are. -/
theorem check_of_plain : ∀ f ∈ fieldsOf .search, ∀ v plain, PlainMember f.name v plain →
    plain = v ∨ f.shape.check v = .ok v ∧ f.shape.check plain = .ok plain := by
  have hmap : ∀ es : Entries Value, (Shape.optional (.map .anything)).check (.map es) =
      .ok (.map es) := fun es => map_eq_ok_iff.2 ⟨es, checkEntries_eq_self fun _ _ => rfl, rfl⟩
  have hlist : ∀ vs : List Value, (Shape.optional (.list .anything)).check (.list vs) =
      .ok (.list vs) := fun vs => map_eq_ok_iff.2 ⟨vs, checkItems_eq_self (fun _ _ => rfl) 0, rfl⟩
  have hother : ∀ name, name ∉ ["filter", "range", "sort"] → ∀ (shape : Shape) v plain,
      PlainMember name v plain →
        plain = v ∨ shape.check v = .ok v ∧ shape.check plain = .ok plain :=
    fun name hname _ _ _ h => Or.inl (h.eq hname)
  simp only [fieldsOf, searchFields, List.forall_mem_cons]
  refine ⟨hother _ (by decide) _, ?_, ?_, hother _ (by decide) _, hother _ (by decide) _,
    hother _ (by decide) _, ?_, hother _ (by decide) _, hother _ (by decide) _,
    fun _ h => absurd h List.not_mem_nil⟩
  · intro v plain h
    rcases h.filter_cases with rfl | ⟨entries, others, rfl, rfl, -⟩
    · exact Or.inl rfl
    · exact Or.inr ⟨hmap entries, hmap others⟩
  · intro v plain h
    rcases h.range_cases with rfl | ⟨entries, others, rfl, rfl, -⟩
    · exact Or.inl rfl
    · exact Or.inr ⟨hmap entries, hmap others⟩
  · intro v plain h
    rcases h.sort_cases with rfl | ⟨keys, others, rfl, rfl, -⟩
    · exact Or.inl rfl
    · exact Or.inr ⟨hlist keys, hlist others⟩

/-- What a check makes of a member is in plain form where the member is. -/
theorem checked?_of_plain {data plain : Entries Value} (h : Related PlainMember data plain)
    {f : FieldRule} (hf : f ∈ fieldsOf .search) :
    Option.Rel (PlainMember f.name) (f.checked? data) (f.checked? plain) := by
  have hget := get?_of_related h f.name
  have hfield := overridable_search f hf
  rw [FieldOf.checked?, FieldOf.checked?, hfield.supplied?, hfield.supplied?]
  cases hdata : data.get? f.name <;> cases hplain : plain.get? f.name <;>
    rw [hdata, hplain] at hget <;> cases hget
  · simp only [hfield.default]
    exact .some (.same _ _)
  · next v w hmember =>
    rcases check_of_plain f hf v w hmember with rfl | ⟨hv, hw⟩
    -- the same member, whatever a check makes of it
    · dsimp only
      cases f.shape.check w with
      | error => exact .none
      | ok u => exact .some (.same _ u)
    · simp only [hv, hw]
      exact .some hmember

theorem fits_of_plain {data plain : Entries Value} (h : Related PlainMember data plain) :
    Record.Fits .search plain ↔ Record.Fits .search data := by
  refine forall₂_congr fun f hf => ?_
  rw [FieldOf.fits_iff, FieldOf.fits_iff]
  have hchecked := checked?_of_plain h hf
  generalize f.checked? data = made, f.checked? plain = other at hchecked
  cases hchecked <;> simp

/-- Data are parameters of a search exactly if they fit their members, and name no other ones. -/
theorem exists_check_search_iff {data : Entries Value} :
    (∃ params, Record.check .search (.map data) = .ok params) ↔
      Record.Fits .search data ∧ ∀ name ∈ data.names, Record.isForeign name = false := by
  have hleft : leftover (fieldsOf .search) data = [] ↔
      ∀ name ∈ data.names, Record.isForeign name = false := by
    rw [Record.leftover_search, List.filter_eq_nil_iff, Entries.names, List.forall_mem_map]
    simp only [Bool.not_eq_true]
  rw [← hleft]
  constructor
  · rintro ⟨params, hparams⟩
    obtain ⟨hfits, hnone, -, -⟩ := Record.check_map_eq_ok_iff.1 hparams
    exact ⟨hfits, hnone rfl⟩
  · rintro ⟨hfits, hnone⟩
    exact ⟨_, Record.check_map_eq_ok_iff.2 ⟨hfits, fun _ => hnone, rfl, rfl⟩⟩

theorem plainParams_of_check {data plain : Entries Value} (h : Related PlainMember data plain)
    {params others : Value} (hparams : Record.check .search (.map data) = .ok params)
    (hothers : Record.check .search (.map plain) = .ok others) : PlainParams params others := by
  intro name
  by_cases hname : name ∈ (fieldsOf .search).map (·.name)
  · obtain ⟨f, hf, rfl⟩ := List.mem_map.1 hname
    rw [Record.member?_eq_checked? hparams hf, Record.member?_eq_checked? hothers hf]
    exact checked?_of_plain h hf
  · obtain ⟨-, -, -, rfl⟩ := Record.check_map_eq_ok_iff.1 hparams
    obtain ⟨-, -, -, rfl⟩ := Record.check_map_eq_ok_iff.1 hothers
    rw [Value.member?, Value.member?, get?_membersOf_of_notMem hname,
      get?_membersOf_of_notMem hname]
    exact .none

/-- **Plain forms are alike.** Where any of the values with weights, bounds and fields to sort on in
    the parameters of a search are replaced by plain forms, the parameters are accepted exactly if
    they were, and give the same named texts. -/
theorem search_plain_forms_alike {data plain : Entries Value} (h : Related PlainMember data plain) :
    ((∃ others, Record.check .search (.map plain) = .ok others) ↔
        ∃ params, Record.check .search (.map data) = .ok params) ∧
      ∀ params others, Record.check .search (.map data) = .ok params →
        Record.check .search (.map plain) = .ok others → searchPairs others = searchPairs params := by
  refine ⟨?_, fun params others hparams hothers => ?_⟩
  · rw [exists_check_search_iff, exists_check_search_iff, names_of_related h, fits_of_plain h]
  · exact searchPairs_of_plain (plainParams_of_check h hparams hothers)

/-- Two plain forms of the same sorting, and bounds in another order, without the one that is null. -/
theorem search_plain_forms_alike_of_each :
    let day : Value := .date ⟨1965, 8, 1⟩
    let fault : Value := .symbol (.kind .notFound)
    ∃ weighted bounds key params others : Value,
      Record.check .weighted (.map [("value", day), ("boost", .float (.ofInt 2))]) = .ok weighted ∧
      Record.check .bounds (.map [("lt", fault), ("gt", .null), ("gte", day)]) = .ok bounds ∧
      Record.check .sortKey (.map [("field", .text "-price"), ("order", .text "desc")]) = .ok key ∧
      Record.check .search (.map [("q", .text "dune"), ("filter", .map [("published", weighted)]),
        ("range", .map [("at", bounds)]), ("sort", .list [key, key, .text "title"])]) = .ok params ∧
      Record.check .search (.map [("q", .text "dune"),
        ("filter", .map [("published", .map [("value", day), ("boost", .float (.ofInt 2))])]),
        ("range", .map [("at", .map [("gte", day), ("lt", fault)])]),
        ("sort", .list [.map [("order", .text "desc"), ("field", .text "-price")], .text "--price",
          .text "title"])]) = .ok others ∧
      searchPairs others = searchPairs params ∧
      searchPairs others = .ok
        [("q", "dune published:1965-08-01^2 at:>=1965-08-01 at:<not_found"), ("sort[]", "--price"),
          ("sort[]", "--price"), ("sort[]", "title")] := by
  intro day fault
  obtain ⟨weighted, hweighted⟩ : ∃ r, Record.check .weighted
    (.map [("value", day), ("boost", .float (.ofInt 2))]) = .ok r := ⟨_, rfl⟩
  obtain ⟨bounds, hbounds⟩ : ∃ r, Record.check .bounds
    (.map [("lt", fault), ("gt", .null), ("gte", day)]) = .ok r := ⟨_, rfl⟩
  obtain ⟨key, hkey⟩ : ∃ r, Record.check .sortKey
    (.map [("field", .text "-price"), ("order", .text "desc")]) = .ok r := ⟨_, rfl⟩
  have hfilter : PlainMember "filter" (.map [("published", weighted)])
      (.map [("published", .map [("value", day), ("boost", .float (.ofInt 2))])]) :=
    .filter (.cons ⟨rfl, .weighted hweighted trivial rfl rfl⟩ .nil)
  have hrange : PlainMember "range" (.map [("at", bounds)])
      (.map [("at", .map [("gte", day), ("lt", fault)])]) := by
    refine .range (.cons ⟨rfl, .bounds hbounds ?_ ?_⟩ .nil) <;> intro c <;> cases c <;> trivial
  have hsort : PlainMember "sort" (.list [key, key, .text "title"])
      (.list [.map [("order", .text "desc"), ("field", .text "-price")], .text "--price",
        .text "title"]) :=
    .sort (.cons (.map hkey rfl rfl rfl) (.cons (.descending hkey rfl rfl)
      (.cons (.same _) .nil)))
  let data : Entries Value :=
    [("q", .text "dune"), ("filter", .map [("published", weighted)]),
      ("range", .map [("at", bounds)]), ("sort", .list [key, key, .text "title"])]
  let plain : Entries Value :=
    [("q", .text "dune"),
      ("filter", .map [("published", .map [("value", day), ("boost", .float (.ofInt 2))])]),
      ("range", .map [("at", .map [("gte", day), ("lt", fault)])]),
      ("sort", .list [.map [("order", .text "desc"), ("field", .text "-price")], .text "--price",
        .text "title"])]
  have hplain : Related PlainMember data plain :=
    .cons ⟨rfl, .same _ _⟩ (.cons ⟨rfl, hfilter⟩ (.cons ⟨rfl, hrange⟩ (.cons ⟨rfl, hsort⟩ .nil)))
  obtain ⟨haccepted, hsame⟩ := search_plain_forms_alike hplain
  obtain ⟨params, hparams⟩ : ∃ params, Record.check .search (.map data) = .ok params := ⟨_, rfl⟩
  obtain ⟨others, hothers⟩ := haccepted.2 ⟨params, hparams⟩
  refine ⟨weighted, bounds, key, params, others, hweighted, hbounds, hkey, hparams, hothers,
    hsame params others hparams hothers, ?_⟩
  obtain rfl := Except.ok.inj hothers
  decide +kernel

end Query

end SearchClient
