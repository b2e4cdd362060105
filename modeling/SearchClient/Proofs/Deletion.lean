import Mathlib
import SearchClient.Proofs.Addressing
import SearchClient.Proofs.Clauses
import SearchClient.Proofs.Form

set_option autoImplicit false

/-! # Deletions with a scope

A deletion of documents has the whole index for its scope unless its query carries an id or a
filter. It does so exactly if an id was given, or a filter with an entry that is set, or a filter
that is a text and not empty (`Selecting`): an empty list of ids and a filter whose entries are all
unset are lost on the way. -/

namespace SearchClient.Value

theorem truthy_of_elements {v first : Value} {rest : List Value}
    (h : v.elements = .ok (first :: rest)) : v.truthy = true := by
  cases v with
  | text s =>
    simp only [elements, characters, Except.ok.injEq] at h
    cases hs : s.toList with
    | nil => simp [hs] at h
    | cons c cs =>
      have hne : s ≠ "" := by
        rintro rfl
        simp at hs
      simp [truthy, hne]
  | list items | map items | octets items =>
    cases items <;> simp_all [elements, truthy]
  | symbol | pair | record => rfl
  | _ => simp [elements] at h

end SearchClient.Value

namespace SearchClient.Client

open Http

/-! ## Scopes -/

/-- A filter that leaves something to select by. -/
def SelectingFilter (filter : Value) : Prop :=
  match filter with
  | .map entries => ∃ e ∈ entries, ¬Query.Unset e.2
  | v => v.truthy = true

/-- Arguments of a deletion that leave something to select by: an id or a filter. -/
def Selecting (ids filter : Value) : Prop :=
  (∃ v vs, ids.elements = .ok (v :: vs)) ∨ SelectingFilter filter

/-- A parameter that narrows a deletion. -/
def isSelector (name : String) : Prop :=
  name = "ids[]" ∨ name = "filter"

/-- An address whose query narrows a deletion. -/
def Selects (a : Address) : Prop :=
  ∃ query, a.query = some query ∧ ∃ p ∈ Form.read query, isSelector p.1

namespace Operation

/-! ## Parameters -/

theorem deleteIds_eq_ok {ids : Value} {ps : Params} (h : deleteIds ids = .ok ps) :
    (∀ p ∈ ps, p.1 = "ids[]") ∧ (ps ≠ [] ↔ ∃ v vs, ids.elements = .ok (v :: vs)) := by
  unfold deleteIds at h
  split at h
  · obtain ⟨vs, hvs, rfl⟩ := map_eq_ok_iff.1 h
    refine ⟨fun p hp => ?_, ?_⟩
    · obtain ⟨v, -, rfl⟩ := List.mem_map.1 hp
      rfl
    · rw [hvs, Ne, List.map_eq_nil_iff]
      cases vs <;> simp
  · next hfalsy =>
    obtain rfl := Except.ok.inj h
    refine ⟨by simp, ?_⟩
    simp only [ne_eq, not_true_eq_false, false_iff]
    rintro ⟨v, vs, hvs⟩
    exact hfalsy (Value.truthy_of_elements hvs)

theorem mem_present {name : String} {v : Value} {p : String × Value} (h : p ∈ present name v) :
    p.1 = name := by
  unfold present at h
  split at h
  · rw [List.mem_singleton.1 h]
  · exact absurd h List.not_mem_nil

theorem present_ne_nil_iff {name : String} {v : Value} : present name v ≠ [] ↔ v.truthy = true := by
  unfold present
  split <;> simp_all

theorem deleteFilter_eq_ok {filter : Value} {ps : Params} (h : deleteFilter filter = .ok ps) :
    (∀ p ∈ ps, p.1 = "filter") ∧ (ps ≠ [] ↔ SelectingFilter filter) := by
  unfold deleteFilter at h
  split at h
  · next entries =>
    rw [Query.buildFilter_map_null] at h
    obtain rfl := Except.ok.inj h
    refine ⟨fun p hp => mem_present hp, ?_⟩
    exact present_ne_nil_iff.trans Query.truthy_filterQuery_iff
  · next hmap =>
    obtain rfl := Except.ok.inj h
    refine ⟨fun p hp => mem_present hp, ?_⟩
    rw [present_ne_nil_iff]
    cases filter with
    | map entries => exact absurd rfl (hmap entries)
    | _ => rfl

/-- The parameters of a deletion are selectors, and there are some if the arguments leave one. -/
theorem params_of_deleteDocuments {index ids filter : Value} {c : Call}
    (h : (deleteDocuments index ids filter).call = .ok c) :
    (∀ p ∈ c.params, isSelector p.1) ∧ (c.params ≠ [] ↔ Selecting ids filter) := by
  obtain ⟨idParams, hids, h⟩ := bind_eq_ok_iff.1 h
  obtain ⟨filterParams, hfilter, h⟩ := bind_eq_ok_iff.1 h
  obtain rfl := Except.ok.inj h
  obtain ⟨hidNames, hidSome⟩ := deleteIds_eq_ok (mapError_eq_ok_iff.1 hids)
  obtain ⟨hfilterNames, hfilterSome⟩ := deleteFilter_eq_ok (mapError_eq_ok_iff.1 hfilter)
  refine ⟨fun p hp => (List.mem_append.1 hp).imp (hidNames p) (hfilterNames p), ?_⟩
  rw [Selecting, ← hidSome, ← hfilterSome]
  simp only [ne_eq, List.append_eq_nil_iff, not_and_or]

end Operation

/-- Parameters that are all selectors narrow a deletion as soon as there are any. -/
theorem selects_of_params {op : Operation} {x : Executor} {ps : Params} {a : Address}
    (h : x.address? op.path ps = some a) (hnames : ∀ p ∈ ps, isSelector p.1) (hne : ps ≠ []) :
    Selects a := by
  obtain ⟨p, hp⟩ := List.exists_mem_of_ne_nil ps hne
  cases hquery : ps.query? with
  | none => exact absurd (Params.query?_eq_none_iff.1 hquery) hne
  | some query =>
    have htext : (p.1, Params.sentText p.2) ∈ ps.texts := List.mem_map.2 ⟨p, hp, rfl⟩
    exact ⟨query, Executor.query_of_address h hquery, _, (Params.mem_read_query hquery).2 htext,
      hnames p hp⟩

/-- Behind a base without a query nothing but parameters narrows a deletion. -/
theorem params_of_selects {op : Operation} {x : Executor} {ps : Params} {a : Address}
    (hbase : x.base.IsBase) (h : x.address? op.path ps = some a) (hselects : Selects a) :
    ps ≠ [] := by
  rintro rfl
  obtain ⟨query, hquery, -⟩ := hselects
  rw [(Operation.parts_of_address hbase h).1] at hquery
  exact nomatch hquery

/-- **Scoped deletions.** The request of a deletion of documents carries a selector if its arguments
    leave something to select by, and behind a base without a query only then. -/
theorem deleteDocuments_scoped {x : Executor} {index ids filter : Value} {outcome : Outcome}
    {r : Request}
    (hr : r ∈ (((Operation.deleteDocuments index ids filter).plan x).run outcome).requests) :
    ∃ a, (Operation.deleteDocuments index ids filter).Sends x r a ∧ r.method = "DELETE" ∧
      (Selecting ids filter → Selects a) ∧
      ∀ baseUrl apiKey, (Connection.of baseUrl apiKey).executor = .ok x →
        '?' ∉ baseUrl.toList → Selects a → Selecting ids filter := by
  obtain ⟨a, ha⟩ := Operation.sends_of_mem hr
  obtain ⟨c, hc, haddress⟩ := ha.call
  obtain ⟨hnames, hsome⟩ := Operation.params_of_deleteDocuments hc
  refine ⟨a, ha, ha.method_eq, fun hselecting => ?_, fun baseUrl apiKey hx hquery hselects => ?_⟩
  · exact selects_of_params haddress hnames (hsome.2 hselecting)
  · exact hsome.1 (params_of_selects (isBase_of_executor hx hquery) haddress hselects)

/-- A filter is sent for its entry that is set, beside one that is not and no ids. -/
theorem deleteDocuments_scoped_of_filter :
    ∃ outcome, ∃ r ∈ (((Operation.deleteDocuments (.text "books") (.list [])
        (.map [("draft", .null), ("genre", .map [("value", .text "poetry"), ("boost", .int 2)])])).plan
          rootExecutor).run outcome).requests,
      r.url = "http://bright.test/indexes/books/documents?filter=genre%3Apoetry%5E2" ∧
        ∃ a, r.url = String.ofList a.render ∧ Selects a := by
  let filter : Value :=
    .map [("draft", .null), ("genre", .map [("value", .text "poetry"), ("boost", .int 2)])]
  have hsent : (((Operation.deleteDocuments (.text "books") (.list []) filter).plan
      rootExecutor).run (.interrupted "" "")).requests.map (·.url) =
        ["http://bright.test/indexes/books/documents?filter=genre%3Apoetry%5E2"] := by
    decide +kernel
  obtain ⟨r, hr, hurl⟩ := List.map_eq_singleton_iff.1 hsent
  have hmem : r ∈ (((Operation.deleteDocuments (.text "books") (.list []) filter).plan
      rootExecutor).run (.interrupted "" "")).requests := by
    rw [hr]
    exact List.mem_singleton_self r
  have hselecting : Selecting (.list []) filter := by
    refine Or.inr ⟨("genre", .map [("value", .text "poetry"), ("boost", .int 2)]), ?_, ?_⟩
    · simp
    · simp [Query.Unset, Entries.get?]
  obtain ⟨a, ha, -, hselects, -⟩ := deleteDocuments_scoped hmem
  exact ⟨_, r, hmem, hurl, a, ha.url, hselects hselecting⟩

/-- With an empty list of ids, and with a filter that is unset, all documents are deleted. -/
theorem deleteDocuments_unscoped :
    ((((Operation.deleteDocuments (.text "books") (.list []) .null).plan rootExecutor).run
      (.interrupted "" "")).requests.map fun r => (r.method, r.url)) =
        [("DELETE", "http://bright.test/indexes/books/documents")] ∧
    ((((Operation.deleteDocuments (.text "books") .null (.map [("genre", .null)])).plan
      rootExecutor).run (.interrupted "" "")).requests.map fun r => (r.method, r.url)) =
        [("DELETE", "http://bright.test/indexes/books/documents")] := by
  constructor
  · decide +kernel
  · decide +kernel

end SearchClient.Client
