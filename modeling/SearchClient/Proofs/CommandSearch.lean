import Mathlib
import SearchClient.CommandLine.Run
import SearchClient.Proofs.Criteria
import SearchClient.Proofs.Overrides
import SearchClient.Proofs.Parameters

set_option autoImplicit false

/-! # Searches on the command line

The arguments of a search become parameters that are accepted as they are, unless a number is
negative, and these are compiled into the parameters of a request. What is sent is stated from the
arguments alone (`SearchArguments.asked`): the query text and the clauses of the criteria with
blanks between them, the numbers, the sort fields just as they were given, and the fields to return
or to leave out. The main theorem is `search_arguments_sent`. -/

namespace SearchClient

open Schema

/-! ## Data that are accepted as they are -/

/-- Data of a search that give every member a value which its shape takes as it is. -/
structure Record.Verbatim (data : Entries Value) : Prop where
  known : ∀ name ∈ data.names, isForeign name = false
  values : ∀ f ∈ fieldsOf .search, ∃ v, data.get? f.name = some v ∧ f.shape.check v = .ok v

theorem Record.Verbatim.check {data : Entries Value} (h : Record.Verbatim data) :
    ∃ params, Record.check .search (.map data) = .ok params ∧
      ∀ f ∈ fieldsOf .search, params.member? f.name = data.get? f.name := by
  have hsupplied : ∀ f ∈ fieldsOf .search, f.supplied? data = data.get? f.name :=
    fun f hf => (overridable_search f hf).supplied? data
  have hfits : Record.Fits .search data := by
    intro f hf
    obtain ⟨v, hv, hcheck⟩ := h.values f hf
    rw [FieldOf.Fits, hsupplied f hf, hv]
    exact ⟨v, hcheck⟩
  have hleft : leftover (fieldsOf .search) data = [] := by
    rw [Record.leftover_search, List.filter_eq_nil_iff]
    intro e he
    rw [h.known e.1 (List.mem_map_of_mem he)]
    exact Bool.false_ne_true
  obtain ⟨params, hparams⟩ : ∃ params, Record.check .search (.map data) = .ok params :=
    ⟨_, Record.check_map_eq_ok_iff.2 ⟨hfits, fun _ => hleft, rfl, rfl⟩⟩
  refine ⟨params, hparams, fun f hf => ?_⟩
  obtain ⟨v, hv, hcheck⟩ := h.values f hf
  rw [Record.member?_eq_checked? hparams hf, FieldOf.checked?, hsupplied f hf, hv]
  simp only [hcheck, Except.toOption]

namespace CommandLine

open Query

theorem check_ofText? (s : Option String) : (Shape.optional .text).check (.ofText? s) = .ok (.ofText? s) := by
  cases s <;> rfl

theorem check_entriesOrNull (es : Entries Value) :
    (Shape.optional (.map .anything)).check (entriesOrNull es) = .ok (entriesOrNull es) := by
  unfold entriesOrNull
  split
  · rfl
  · exact map_eq_ok_iff.2 ⟨es, checkEntries_eq_self fun _ _ => rfl, rfl⟩

theorem check_listOrNull {item : Shape} {vs : List Value} (h : ∀ v ∈ vs, item.check v = .ok v) :
    (Shape.optional (.list item)).check (listOrNull vs) = .ok (listOrNull vs) := by
  unfold listOrNull
  split
  · rfl
  · exact map_eq_ok_iff.2 ⟨vs, checkItems_eq_self h 0, rfl⟩

theorem check_intOrNull {n : Option Int} (h : ∀ m, n = some m → 0 ≤ m) :
    (Shape.optional (.integer (some 0))).check (intOrNull n) = .ok (intOrNull n) := by
  cases n with
  | none => rfl
  | some m =>
    refine check_optional_of_check (check_integer_eq_ok_iff.2 ⟨m, rfl, ?_, rfl⟩)
    rintro _ ⟨⟩
    exact h m rfl

theorem nonneg_of_check {n : Option Int} {w : Value}
    (h : (Shape.optional (.integer (some 0))).check (intOrNull n) = .ok w) :
    ∀ m, n = some m → 0 ≤ m := by
  rintro m rfl
  obtain ⟨k, hk, hleast, -⟩ := check_integer_eq_ok_iff.1 (check_of_optional h rfl)
  rw [Value.int.inj (Except.ok.inj hk)]
  exact hleast 0 rfl

/-- No number of the arguments is negative. -/
def SearchArguments.Counts (a : SearchArguments) : Prop :=
  ∀ n : Int, a.offset = some n ∨ a.limit = some n ∨ a.page = some n → 0 ≤ n

/-- The data of the parameters, from a filter and a range that have been read. -/
def SearchArguments.dataOf (a : SearchArguments) (filter range : Entries Value) : Entries Value :=
  [("q", .ofText? a.query), ("filter", entriesOrNull filter), ("range", entriesOrNull range),
   ("offset", intOrNull a.offset), ("limit", intOrNull a.limit), ("page", intOrNull a.page),
   ("sort", listOrNull (a.sort.map readSort)),
   ("attributes_to_retrieve", listOrNull (a.retrieve.map .text)),
   ("attributes_to_exclude", listOrNull (a.exclude.map .text))]

variable {a : SearchArguments} {filter range : Entries Value}

theorem verbatim_dataOf (h : a.Counts) : Record.Verbatim (a.dataOf filter range) := by
  have htexts : ∀ texts : List String, ∀ v ∈ texts.map Value.text, Shape.text.check v = .ok v := by
    intro texts v hv
    obtain ⟨s, -, rfl⟩ := List.mem_map.1 hv
    rfl
  constructor
  · have hnames : (a.dataOf filter range).names = (fieldsOf .search).map (·.name) := rfl
    rw [hnames]
    decide
  · simp only [fieldsOf, searchFields, List.forall_mem_cons]
    exact ⟨⟨_, rfl, check_ofText? _⟩, ⟨_, rfl, check_entriesOrNull _⟩,
      ⟨_, rfl, check_entriesOrNull _⟩,
      ⟨_, rfl, check_intOrNull fun n hn => h n (Or.inl hn)⟩,
      ⟨_, rfl, check_intOrNull fun n hn => h n (Or.inr (Or.inl hn))⟩,
      ⟨_, rfl, check_intOrNull fun n hn => h n (Or.inr (Or.inr hn))⟩,
      ⟨_, rfl, check_listOrNull fun _ _ => rfl⟩, ⟨_, rfl, check_listOrNull (htexts _)⟩,
      ⟨_, rfl, check_listOrNull (htexts _)⟩, fun _ hf => absurd hf List.not_mem_nil⟩

/-- Parameters with a negative number are refused. -/
theorem counts_of_check {params : Value}
    (h : Record.check .search (.map (a.dataOf filter range)) = .ok params) : a.Counts := by
  obtain ⟨hfits, -⟩ := Record.check_map_eq_ok_iff.1 h
  have hnonneg : ∀ name n, FieldRule.nullable name (.integer (some 0)) ∈ fieldsOf .search →
      (a.dataOf filter range).get? name = some (intOrNull n) → ∀ m, n = some m → 0 ≤ m := by
    intro name n hf hget
    have hfit := hfits _ hf
    have hname : (FieldRule.nullable name (.integer (some 0))).name = name := rfl
    unfold FieldOf.Fits at hfit
    rw [(overridable_search _ hf).supplied?, hname] at hfit
    rw [hget] at hfit
    obtain ⟨w, hw⟩ := hfit
    exact nonneg_of_check hw
  rintro n (hn | hn | hn)
  · exact hnonneg "offset" a.offset (by simp [fieldsOf, searchFields]) rfl n hn
  · exact hnonneg "limit" a.limit (by simp [fieldsOf, searchFields]) rfl n hn
  · exact hnonneg "page" a.page (by simp [fieldsOf, searchFields]) rfl n hn

/-! ## What is compiled -/

/-- The parts of a query: its free text, if there is any, and its clauses. -/
def queryParts (text : String) (clauses : List Clause) : List String :=
  [text].filter (· ≠ "") ++ clauses.map fun c => String.ofList c.render

/-- Parts with blanks between them; no parts are nothing. -/
def joined : List String → Option String
  | [] => none
  | parts => some (" ".intercalate parts)

theorem ofList_renderClauses (cs : List Clause) :
    String.ofList (renderClauses cs) = " ".intercalate (cs.map fun c => String.ofList c.render) := by
  rw [← String.toList_inj, String.toList_ofList, renderClauses_eq_joinOn, String.toList_intercalate,
    List.map_map]
  simp [Text.intercalate_eq_joinOn, Function.comp_def]

theorem ofList_renderClauses_ne {cs : List Clause} (h : cs ≠ []) :
    String.ofList (renderClauses cs) ≠ "" :=
  mt String.ofList_eq_empty_iff.1 (mt renderClauses_eq_nil_iff.1 h)

/-- Free text and the text of clauses are put together like the text and the clauses. -/
theorem joined_queryParts (text : String) (cs : List Clause) :
    joined ([text, String.ofList (renderClauses cs)].filter (· ≠ "")) =
      joined (queryParts text cs) := by
  cases cs with
  | nil =>
    have hempty : String.ofList (renderClauses []) = "" := rfl
    by_cases htext : text = "" <;> simp [queryParts, hempty, htext]
  | cons c cs =>
    have hne := ofList_renderClauses_ne (List.cons_ne_nil c cs)
    by_cases htext : text = ""
    · have hquery : " ".intercalate [String.ofList (renderClauses (c :: cs))] =
          String.ofList (renderClauses (c :: cs)) := by
        rw [← String.toList_inj, String.toList_intercalate]
        simp
      simp only [queryParts, htext, ne_eq, not_true_eq_false, decide_false, hne, not_false_eq_true,
        decide_true, List.filter_cons_of_pos, Bool.false_eq_true, List.filter_cons_of_neg,
        List.filter_nil, List.nil_append]
      exact congrArg some (hquery.trans (ofList_renderClauses (c :: cs)))
    · have hjoin : " ".intercalate [text, String.ofList (renderClauses (c :: cs))] =
          " ".intercalate (text :: (c :: cs).map fun c => String.ofList c.render) := by
        rw [ofList_renderClauses, ← String.toList_inj]
        simp [String.toList_intercalate]
      simp only [queryParts, ne_eq, htext, hne, not_false_eq_true, decide_true,
        List.filter_cons_of_pos, List.filter_nil]
      exact congrArg some hjoin

theorem entriesOf_entriesOrNull (es : Entries Value) : entriesOf (entriesOrNull es) = .ok es := by
  cases es <;> rfl

theorem freeText_ofText? (q : Option String) : freeText (.ofText? q) = .ok (q.getD "") := by
  cases q with
  | none => rfl
  | some s =>
    show freeText (.text s) = .ok s
    unfold freeText
    cases hs : s.isEmpty <;> simp_all [Value.truthy, Value.asText?]

/-- **The query** is what the text, the filter and the range ask for. -/
theorem compile_eq (q : Option String) (hrange : ∀ e ∈ range, IsRangeEntry e.2) :
    compile (.ofText? q) (entriesOrNull filter) (entriesOrNull range) =
      .ok (joined (queryParts (q.getD "") (asked filter range))) := by
  have hbuild : buildFilter (entriesOrNull filter) (entriesOrNull range) =
      .ok (String.ofList (renderClauses (asked filter range))) := by
    rw [← buildFilter_eq_asked hrange]
    simp only [buildFilter, clauses, entriesOf_entriesOrNull, entriesOf_map]
  rw [← joined_queryParts, compile, hbuild, freeText_ofText?]
  simp only [bind, Except.bind]
  generalize List.filter _ _ = parts
  cases parts <;> rfl

/-! ### Sort fields and names of fields -/

/-- A sort field is told as it was read. -/
theorem sortField_readSort (s : String) : sortField (readSort s) = s := by
  unfold readSort
  split
  · next field hs =>
    show "-" ++ (Value.text (String.ofList field)).displayText = s
    rw [displayText_text, ← String.toList_inj, hs]
    simp
  · exact displayText_text s

theorem sortFields_listOrNull (texts : List String) :
    sortFields (listOrNull (texts.map readSort)) = .ok texts := by
  cases texts with
  | nil => rfl
  | cons s texts =>
    refine congrArg Except.ok ((List.map_map).trans ?_)
    rw [show sortField ∘ readSort = id from funext sortField_readSort, List.map_id]

theorem displayed_listOrNull (texts : List String) :
    displayed (listOrNull (texts.map .text)) = .ok texts := by
  cases texts with
  | nil => rfl
  | cons s texts =>
    refine congrArg Except.ok ((List.map_map).trans ?_)
    rw [show Value.displayText ∘ Value.text = id from funext displayText_text, List.map_id]

/-! ### Parameters -/

/-- The pair of a number that is given. -/
def numberAsked (name : String) (n : Option Int) : List (String × String) :=
  n.toList.map fun m => (name, String.ofList (Decimal.ofInt m))

theorem numberPair_intOrNull {params : Value} {name : String} {n : Option Int}
    (h : params.member? name = some (intOrNull n)) :
    numberPair params name = .ok (numberAsked name n) := by
  rw [numberPair, parameter_of_member? h]
  cases n <;> rfl

/-- What the arguments of a search ask for, with what their criteria spell. -/
def SearchArguments.asked (a : SearchArguments) (filters : List Filter) (bounds : List Bound) :
    List (String × String) :=
  let query := joined (queryParts (a.query.getD "") (Filter.asked filters ++ Bound.asked bounds))
  (query.map ("q", ·)).toList ++ numberAsked "offset" a.offset ++ numberAsked "limit" a.limit ++
    numberAsked "page" a.page ++ a.sort.map ("sort[]", ·) ++
    a.retrieve.map ("attributesToRetrieve[]", ·) ++ a.exclude.map ("attributesToExclude[]", ·)

theorem searchPairs_eq {params : Value}
    (h : ∀ f ∈ fieldsOf .search, params.member? f.name = (a.dataOf filter range).get? f.name)
    (hrange : ∀ e ∈ range, IsRangeEntry e.2) {filters : List Filter} {bounds : List Bound}
    (hasked : Query.asked filter range = Filter.asked filters ++ Bound.asked bounds) :
    searchPairs params = .ok (a.asked filters bounds) := by
  have hmember : ∀ name v, name ∈ (fieldsOf .search).map (·.name) →
      (a.dataOf filter range).get? name = some v → params.member? name = some v := by
    intro name v hname hget
    obtain ⟨f, hf, rfl⟩ := List.mem_map.1 hname
    rw [h f hf, hget]
  have hparameter : ∀ name v, name ∈ (fieldsOf .search).map (·.name) →
      (a.dataOf filter range).get? name = some v → parameter params name = .ok v :=
    fun name v hname hget => parameter_of_member? (hmember name v hname hget)
  rw [searchPairs, hparameter "q" _ (by decide) rfl, hparameter "filter" _ (by decide) rfl,
    hparameter "range" _ (by decide) rfl, hparameter "sort" _ (by decide) rfl,
    hparameter "attributes_to_retrieve" _ (by decide) rfl,
    hparameter "attributes_to_exclude" _ (by decide) rfl,
    numberPair_intOrNull (hmember "offset" _ (by decide) rfl),
    numberPair_intOrNull (hmember "limit" _ (by decide) rfl),
    numberPair_intOrNull (hmember "page" _ (by decide) rfl)]
  simp only [bind, Except.bind, compile_eq _ hrange, sortFields_listOrNull, displayed_listOrNull, hasked]
  rfl

/-! ## What is sent -/

theorem data_eq {filters : List Filter} {ranges : Entries Value}
    (hfilters : List.Forall₂ Filter.Spelled a.filters filters)
    (hranges : a.ranges.foldlM addRange [] = .ok ranges) :
    a.data = .ok (a.dataOf (Entries.ofPairs (filters.map fun f => (f.field, f.entry))) ranges) := by
  rw [SearchArguments.data, mapM_readFilter hfilters, hranges]
  rfl

open Client Http Http.Params Failure

theorem texts_of_pairs (pairs : List (String × String)) :
    texts (pairs.map fun p => (p.1, .text p.2)) = pairs := by
  rw [texts, List.map_map]
  refine Eq.trans (List.map_congr_left fun p _ => ?_) (List.map_id pairs)
  exact Prod.ext rfl (displayText_text p.2)

theorem exists_spelled_filters {raws : List String} (h : ∀ raw ∈ raws, ∃ e, readFilter raw = .ok e) :
    ∃ filters, List.Forall₂ Filter.Spelled raws filters :=
  exists_forall₂ fun raw hraw => by
    obtain ⟨e, he⟩ := h raw hraw
    obtain ⟨f, hf, -⟩ := readFilter_eq_ok_iff.1 he
    exact ⟨f, hf⟩

theorem exists_spelled_bounds {raws : List String} (h : ∀ raw ∈ raws, ∃ e, readRange raw = .ok e) :
    ∃ bounds, List.Forall₂ Bound.Spelled raws bounds :=
  exists_forall₂ fun raw hraw => by
    obtain ⟨⟨field, comparison, text⟩, he⟩ := h raw hraw
    exact ⟨⟨field, comparison, text⟩, spelled_of_readRange he⟩

/-- **Arguments become parameters** that ask for what the arguments do, or are refused for a negative
    number. -/
theorem searchParams_of_spelled {filters : List Filter} {bounds : List Bound}
    (hfilters : List.Forall₂ Filter.Spelled a.filters filters)
    (hbounds : List.Forall₂ Bound.Spelled a.ranges bounds) :
    (a.Counts → ∃ params, a.params = .ok params ∧ Operation.searchParams params [] = .ok params ∧
      searchPairs params = .ok (a.asked filters bounds)) ∧
    (¬a.Counts → ∃ refusal, a.params = .error (.refused refusal)) := by
  obtain ⟨ranges, hread, hholds⟩ := holds_nil.foldlM hbounds
  have hparams : a.params = (Record.check .search (.map (a.dataOf
      (Entries.ofPairs (filters.map fun f => (f.field, f.entry))) ranges))).mapError .refused := by
    rw [SearchArguments.params, data_eq hfilters hread]
    rfl
  constructor
  · intro hcounts
    obtain ⟨params, hcheck, hmembers⟩ := (verbatim_dataOf hcounts).check
    refine ⟨params, by rw [hparams, hcheck]; rfl, ?_, ?_⟩
    · obtain ⟨-, -, -, rfl⟩ := Record.check_map_eq_ok_iff.1 hcheck
      rfl
    · refine searchPairs_eq hmembers (fun e he => ?_) ?_
      · have hnodup : ranges.names.Nodup := hholds.names ▸ nodup_eraseDups _
        exact (hholds.entries e.1 e.2 (Entries.get?_of_mem hnodup he)).isRangeEntry
      · rw [Query.asked, filterMap_askedEqual hfilters, hholds.flatMap_askedBounds]
        rfl
  · intro hnot
    cases hcheck : Record.check .search (.map (a.dataOf
        (Entries.ofPairs (filters.map fun f => (f.field, f.entry))) ranges)) with
    | ok params => exact absurd (counts_of_check hcheck) hnot
    | error refusal => exact ⟨refusal, by rw [hparams, hcheck]; rfl⟩

/-- A search whose parameters ask for pairs is sent with just these pairs. -/
theorem search_sent_with {s : Settings} {x : Executor} (hx : (connection s).executor = .ok x)
    {index params : Value} {pairs : List (String × String)}
    (hsearch : Operation.searchParams params [] = .ok params)
    (hpairs : searchPairs params = .ok pairs) (outcome : Outcome) :
    let trace := ((Operation.search index params []).plan x).run outcome
    trace.Sent ∧ ∀ r ∈ trace.requests, ∃ address : Address, r.url = String.ofList address.render ∧
      (pairs ≠ [] → address.pairs? = some pairs) ∧
      (pairs = [] → '?' ∉ s.baseUrl.toList → address.pairs? = none) := by
  intro trace
  obtain ⟨c, hc, hbody, htexts⟩ : ∃ c, (Operation.search index params []).call = .ok c ∧
      c.body = .none ∧ c.params.texts = pairs := by
    refine ⟨_, bind_eq_ok_iff.2 ⟨params, hsearch, bind_eq_ok_iff.2
      ⟨pairs, by rw [hpairs]; rfl, rfl⟩⟩, rfl, ?_⟩
    exact texts_of_pairs pairs
  refine ⟨Operation.sent_of_call hc hbody outcome, fun r hr => ?_⟩
  obtain ⟨address, hsends⟩ := Operation.sends_of_mem hr
  obtain ⟨c', hc', haddress⟩ := hsends.call
  rw [hc] at hc'
  obtain rfl := Except.ok.inj hc'
  refine ⟨address, hsends.url, fun hne => ?_, fun hnil hquery => ?_⟩
  · have hsome : c.params ≠ [] := by
      intro hnil
      rw [hnil] at htexts
      exact hne htexts.symm
    rw [Executor.pairs_of_address haddress hsome, Operation.byName_texts hc, htexts]
  · have hnone : c.params = [] := by
      rw [hnil] at htexts
      exact List.map_eq_nil_iff.1 htexts
    rw [hnone] at haddress
    exact Executor.queryless_of_address (isBase_of_executor hx hquery) (Operation.notMem_path _) haddress

/-- **Arguments of a search are sent.** If all filters and ranges can be read, and no number is
    negative, one request is sent, whose parameters are what the arguments ask for: the query text,
    for each field of the filters the last value and boost, for each field of the ranges the last
    bound on each side, and the sort fields as they were given. With a negative number nothing is
    sent. No bound is lost except to a later one of its field on its side. -/
theorem search_arguments_sent {s : Settings} {x : Executor} (hx : (connection s).executor = .ok x)
    {a : SearchArguments} (hfilters : ∀ raw ∈ a.filters, ∃ e, readFilter raw = .ok e)
    (hranges : ∀ raw ∈ a.ranges, ∃ e, readRange raw = .ok e) (h : Host) (input : String) :
    ∃ filters bounds, List.Forall₂ Filter.Spelled a.filters filters ∧
      List.Forall₂ Bound.Spelled a.ranges bounds ∧
      (a.Counts → ∀ outcome, (((Command.search a).plan h input s).run outcome).Sent ∧
        ∀ r ∈ (((Command.search a).plan h input s).run outcome).requests, ∃ address : Address,
          r.url = String.ofList address.render ∧
          (a.asked filters bounds ≠ [] → address.pairs? = some (a.asked filters bounds)) ∧
          (a.asked filters bounds = [] → '?' ∉ s.baseUrl.toList → address.pairs? = none)) ∧
      (¬a.Counts → ∃ refusal, ∀ outcome,
        (((Command.search a).plan h input s).run outcome).Fails (.refused refusal)) ∧
      ∀ before b after, bounds = before ++ b :: after →
        (∀ d ∈ after, ¬(d.field = b.field ∧ d.comparison = b.comparison)) →
          .compares b.field b.comparison b.text ∈ Bound.asked bounds := by
  obtain ⟨filters, hfilters⟩ := exists_spelled_filters hfilters
  obtain ⟨bounds, hbounds⟩ := exists_spelled_bounds hranges
  obtain ⟨hcounted, hrefused⟩ := searchParams_of_spelled hfilters hbounds
  refine ⟨filters, bounds, hfilters, hbounds, fun hcounts outcome => ?_, fun hnot => ?_, ?_⟩
  · obtain ⟨params, hparams, hsearch, hpairs⟩ := hcounted hcounts
    have hplan : (Command.search a).plan h input s =
        (Operation.search (.text a.index) params []).plan x := by
      rw [Command.plan, Command.operation, hparams, hx]
      rfl
    rw [hplan]
    exact search_sent_with hx hsearch hpairs outcome
  · obtain ⟨refusal, hrefusal⟩ := hrefused hnot
    refine ⟨refusal, fun outcome => ?_⟩
    have hplan : (Command.search a).plan h input s = .refuse (.refused refusal) := by
      rw [Command.plan, Command.operation, hrefusal, hx]
      rfl
    rw [hplan]
    exact Plan.fails_run rfl outcome
  · rintro before b after rfl hlater
    exact Bound.mem_asked hlater

/-- Fields that take turns, bounds that are given again, signs in a value, and a sort field with two
    dashes. -/
theorem search_arguments_sent_of_repeated_bounds :
    let a : SearchArguments :=
      { index := "books", query := some "dune", offset := none, limit := some 5, page := none
        filters := ["kind=novel", "author=Herbert^2", "kind=a=b"]
        ranges := ["year>=1960", "pages<300", "year<1980", "year>=1965"]
        sort := ["--year", "title"], retrieve := [], exclude := [] }
    let s : Settings := ⟨"http://bright.test", "", .ofInt 30, "info", "json"⟩
    ∃ (filters : List Filter) (bounds : List Bound),
      a.asked filters bounds =
        [("q", "dune kind:a=b author:Herbert^2 year:>=1965 year:<1980 pages:<300"), ("limit", "5"),
          ("sort[]", "--year"), ("sort[]", "title")] ∧
      ∀ h input outcome, (((Command.search a).plan h input s).run outcome).Sent ∧
        ∀ r ∈ (((Command.search a).plan h input s).run outcome).requests, ∃ address : Address,
          r.url = String.ofList address.render ∧ address.pairs? = some (a.asked filters bounds) := by
  intro a s
  let filters : List Filter :=
    [⟨"kind", "novel", none⟩, ⟨"author", "Herbert", some (.int 2)⟩, ⟨"kind", "a=b", none⟩]
  let bounds : List Bound :=
    [⟨"year", .atLeast, "1960"⟩, ⟨"pages", .below, "300"⟩, ⟨"year", .below, "1980"⟩,
      ⟨"year", .atLeast, "1965"⟩]
  have hplain : ∀ field value : String, field ≠ "" → '=' ∉ field.toList → '^' ∉ value.toList →
      ∀ raw, raw = field ++ "=" ++ value → Filter.Spelled raw ⟨field, value, none⟩ := by
    rintro field value hne hfield hvalue _ rfl
    exact .plain hne hfield hvalue
  have hboosted : Filter.Spelled "author=Herbert^2" ⟨"author", "Herbert", some (.int 2)⟩ := by
    have heq : "author=Herbert^2" = "author" ++ "=" ++ "Herbert" ++ "^" ++ "2" := by decide +kernel
    rw [heq]
    exact .boosted (by decide) (by decide) (by decide) rfl
  have hfilters : List.Forall₂ Filter.Spelled a.filters filters :=
    .cons (hplain _ _ (by decide) (by decide) (by decide) _ (by decide +kernel))
      (.cons hboosted
        (.cons (hplain _ _ (by decide) (by decide) (by decide) _ (by decide +kernel)) .nil))
  have hbounds : List.Forall₂ Bound.Spelled a.ranges bounds :=
    .cons ⟨by decide +kernel, by decide, by simp [isSignChar], by decide +kernel⟩
      (.cons ⟨by decide +kernel, by decide, by simp [isSignChar], by decide +kernel⟩
        (.cons ⟨by decide +kernel, by decide, by simp [isSignChar], by decide +kernel⟩
          (.cons ⟨by decide +kernel, by decide, by simp [isSignChar], by decide +kernel⟩ .nil)))
  have hasked : a.asked filters bounds =
      [("q", "dune kind:a=b author:Herbert^2 year:>=1965 year:<1980 pages:<300"), ("limit", "5"),
        ("sort[]", "--year"), ("sort[]", "title")] := by
    decide +kernel
  have hx : (connection s).executor = .ok rootExecutor := executor_root
  have hreadFilters : ∀ raw ∈ a.filters, ∃ e, readFilter raw = .ok e := by
    intro raw hraw
    obtain ⟨f, -, hf⟩ := exists_mem_of_forall₂ hfilters hraw
    exact ⟨_, readFilter_of_spelled hf⟩
  have hreadRanges : ∀ raw ∈ a.ranges, ∃ e, readRange raw = .ok e := by
    intro raw hraw
    obtain ⟨b, -, hb⟩ := exists_mem_of_forall₂ hbounds hraw
    exact ⟨_, readRange_of_spelled hb⟩
  have hcounts : a.Counts := by
    rintro n (hn | hn | hn)
    · exact nomatch hn
    · rw [← Option.some.inj hn]
      decide
    · exact nomatch hn
  refine ⟨filters, bounds, hasked, fun h input outcome => ?_⟩
  obtain ⟨filters', bounds', hfilters', hbounds', hsent, -⟩ :=
    search_arguments_sent hx hreadFilters hreadRanges h input
  obtain rfl := List.right_unique_forall₂' Filter.spelled_unique hfilters hfilters'
  obtain rfl := List.right_unique_forall₂' Bound.spelled_unique hbounds hbounds'
  refine ⟨(hsent hcounts outcome).1, fun r hr => ?_⟩
  obtain ⟨address, hurl, hpairs, -⟩ := (hsent hcounts outcome).2 r hr
  exact ⟨address, hurl, hpairs (by rw [hasked]; exact List.cons_ne_nil _ _)⟩

end CommandLine

end SearchClient
