import Mathlib
import SearchClient.Proofs.Searching
import SearchClient.Proofs.Surfaces
import SearchClient.Proofs.Writing

set_option autoImplicit false

/-! # One request, all or nothing

A call sends one request, the same for every outcome, exactly if what it sends can be made of its
arguments (`Operation.Encodable`) and can be sent there at all (`Operation.Sendable`): no integer in
the address is too long, the address with its query can be made, its host is a name, and the key is
ASCII. In all other cases nothing is sent, and the call fails in the same way for every outcome
(`one_request_or_none`). So nothing of an upload is sent if any of its documents has no line, and
nothing of a search if any override of its parameters is none that their model takes. -/

namespace SearchClient

/-! ## What can be sent -/

namespace Http

/-- A text that a header can hold. -/
def IsAscii (s : String) : Prop :=
  ∀ c ∈ s.toList, c.toNat < 128

instance (s : String) : Decidable (IsAscii s) :=
  decidable_of_iff (s.toList.all (·.toNat < 128) = true) (by simp [IsAscii])

namespace Headers

theorem notAscii?_eq_none_iff {s : String} : notAscii? s = none ↔ IsAscii s := by
  unfold notAscii?
  rw [List.span_eq_takeWhile_dropWhile]
  simp only [ite_eq_left_iff, reduceCtorEq, imp_false, not_not, List.isEmpty_iff,
    List.dropWhile_eq_nil_iff, decide_eq_true_eq, IsAscii]

theorem exists_sendable_iff {s : String} : (∃ t, sendable s = .ok t) ↔ IsAscii s := by
  rw [← notAscii?_eq_none_iff]
  unfold sendable
  cases notAscii? s <;> simp

/-- Headers can be sent exactly if all names and values are texts that a header can hold. -/
theorem exists_check_iff {es : Entries Value} : (∃ hs, check es = .ok hs) ↔
    ∀ e ∈ es, IsAscii e.1 ∧ ∃ s, e.2.asText? = some s ∧ IsAscii s := by
  induction es with
  | nil => exact ⟨fun _ => nofun, fun _ => ⟨[], rfl⟩⟩
  | cons e es ih =>
      obtain ⟨name, v⟩ := e
      rw [List.forall_mem_cons, ← ih]
      constructor
      · rintro ⟨hs, h⟩
        obtain ⟨name', hname, h⟩ := bind_eq_ok_iff.1 h
        split at h
        · next s hs =>
          obtain ⟨s', hvalue, h⟩ := bind_eq_ok_iff.1 h
          obtain ⟨rest, hrest, -⟩ := bind_eq_ok_iff.1 h
          exact ⟨⟨exists_sendable_iff.1 ⟨name', hname⟩, s, hs, exists_sendable_iff.1 ⟨s', hvalue⟩⟩,
            rest, hrest⟩
        · exact nomatch h
      · rintro ⟨⟨hname, s, hs, hvalue⟩, rest, hrest⟩
        obtain ⟨name', hname'⟩ := exists_sendable_iff.2 hname
        obtain ⟨s', hs'⟩ := exists_sendable_iff.2 hvalue
        refine ⟨(name', s') :: rest, bind_eq_ok_iff.2 ⟨name', hname', ?_⟩⟩
        simp only [hs]
        exact bind_eq_ok_iff.2 ⟨s', hs', bind_eq_ok_iff.2 ⟨rest, hrest, rfl⟩⟩

theorem build_eq (apiKey : Option String) : build apiKey [] =
    ("Content-Type", .text "application/json") ::
      (apiKey.filter (· ≠ "")).toList.map fun key => ("Authorization", .text ("Bearer " ++ key)) := by
  cases apiKey with
  | none => rfl
  | some key =>
    by_cases hkey : key = ""
    · subst hkey
      rfl
    · have hempty : key.isEmpty = false := by simpa using hkey
      simp only [build, hempty, Option.filter, hkey, ne_eq, not_false_eq_true, decide_true, if_true]
      rfl

theorem isAscii_bearer {key : String} : IsAscii ("Bearer " ++ key) ↔ IsAscii key := by
  simp only [IsAscii, String.toList_append, List.forall_mem_append]
  exact and_iff_right (show IsAscii "Bearer " by decide +kernel)

/-- The headers of a request can be sent exactly if its key is ASCII. -/
theorem exists_check_build_iff {apiKey : Option String} :
    (∃ hs, check (build apiKey []) = .ok hs) ↔ ∀ key, apiKey = some key → IsAscii key := by
  have hcontent : IsAscii "Content-Type" ∧ ∃ s, (Value.text "application/json").asText? = some s ∧
      IsAscii s := ⟨by decide +kernel, _, rfl, by decide +kernel⟩
  have hname : IsAscii "Authorization" := by decide +kernel
  rw [exists_check_iff, build_eq, List.forall_mem_cons, and_iff_right hcontent]
  cases apiKey with
  | none => simp
  | some key =>
    by_cases hkey : key = ""
    · subst hkey
      simp [IsAscii]
    · simp [Option.filter, hkey, hname, Value.asText?, isAscii_bearer]

theorem eq_of_sendable {s t : String} (h : sendable s = .ok t) : t = s := by
  unfold sendable at h
  split at h
  · exact nomatch h
  · exact (Except.ok.inj h).symm

theorem names_of_check {es : Entries Value} {hs : Headers} (h : check es = .ok hs) :
    hs.names = es.names := by
  induction es generalizing hs with
  | nil =>
    obtain rfl := Except.ok.inj h
    rfl
  | cons e es ih =>
      obtain ⟨name, hname, h⟩ := bind_eq_ok_iff.1 h
      split at h
      · obtain ⟨s, -, h⟩ := bind_eq_ok_iff.1 h
        obtain ⟨rest, hrest, h⟩ := bind_eq_ok_iff.1 h
        obtain rfl := Except.ok.inj h
        rw [eq_of_sendable hname]
        exact congrArg (e.1 :: ·) (ih hrest)
      · exact nomatch h

/-- No header of a request tells its host. -/
theorem value?_host {apiKey : Option String} {hs : Headers} (h : check (build apiKey []) = .ok hs)
    (a : Address) : (hs.forAddress a).value? "Host" = none := by
  have hnames : ∀ e ∈ hs, e.1 = "Content-Type" ∨ e.1 = "Authorization" := by
    intro e he
    have hmem : e.1 ∈ (build apiKey []).names := by
      rw [← names_of_check h]
      exact List.mem_map_of_mem he
    rw [build_eq] at hmem
    simp only [Entries.names, List.map_cons, List.map_map, List.mem_cons, List.mem_map] at hmem
    rcases hmem with hcontent | ⟨_, _, hname⟩
    · exact Or.inl hcontent
    · exact Or.inr hname.symm
  have hall : ∀ e ∈ hs.forAddress a, e.1 = "Content-Type" ∨ e.1 = "Authorization" := by
    intro e he
    unfold forAddress at he
    split at he
    · rcases List.mem_append.1 he with hold | hnew
      · exact hnames e (List.mem_filter.1 hold).1
      · rw [List.mem_singleton.1 hnew]
        exact Or.inr rfl
    · exact hnames e he
  have hnone : (hs.forAddress a).filter (fun e => sameName e.1 "Host") = [] := by
    refine List.filter_eq_nil_iff.2 fun e he => ?_
    rcases hall e he with hname | hname
    · rw [hname]
      decide +kernel
    · rw [hname]
      decide +kernel
  rw [value?, hnone]

theorem checkHost_eq_ok_iff {hs : Headers} (hhost : hs.value? "Host" = none) {a : Address} :
    checkHost hs a = .ok () ↔ (a.host ≠ [] → Host.checkDomain a.host = .ok () ∧
      IsAscii (String.ofList a.authority)) := by
  unfold checkHost
  rw [hhost, ← notAscii?_eq_none_iff]
  cases a.host with
  | nil => simp [pure, Except.pure]
  | cons c cs =>
    simp only [Option.isSome_none, List.isEmpty_cons, Bool.or_self, Bool.false_eq_true, if_false,
      bind_eq_ok_iff, mapError_eq_ok_iff, ne_eq, reduceCtorEq, not_false_eq_true, forall_const]
    cases notAscii? (String.ofList a.authority) <;>
      simp [pure, Except.pure, throw, throwThe, MonadExceptOf.throw, Unique.exists_iff]

end Headers

namespace Executor

/-- Whether a request to a path can be sent with parameters: the key is ASCII, and the address can
    be made and tells a host that can be named. -/
structure Carries (x : Executor) (path : String) (params : Params) : Prop where
  key : ∀ key, x.apiKey = some key → IsAscii key
  address : ∃ a, x.address? path params = some a ∧
    (a.host ≠ [] → Host.checkDomain a.host = .ok () ∧ IsAscii (String.ofList a.authority))

theorem exists_request_iff {x : Executor} {method path : String} {params : Params} {body : String} :
    (∃ r, x.request method path params body [] = .ok r) ↔ x.Carries path params := by
  constructor
  · rintro ⟨r, h⟩
    obtain ⟨resolved, hresolved, h⟩ := bind_eq_ok_iff.1 h
    obtain ⟨headers, hheaders, h⟩ := bind_eq_ok_iff.1 h
    obtain ⟨a, ha, h⟩ := bind_eq_ok_iff.1 h
    obtain ⟨⟨⟩, hhost, -⟩ := bind_eq_ok_iff.1 h
    rw [addressed_eq_ok_iff] at hresolved ha
    exact ⟨Headers.exists_check_build_iff.1 ⟨headers, hheaders⟩, a,
      by rw [address?, hresolved]; exact ha,
      (Headers.checkHost_eq_ok_iff (Headers.value?_host hheaders resolved)).1 hhost⟩
  · rintro ⟨hkey, a, ha, hhost⟩
    obtain ⟨headers, hheaders⟩ := Headers.exists_check_build_iff.2 hkey
    obtain ⟨resolved, hresolved, ha⟩ := Option.bind_eq_some_iff.1 ha
    rw [← Headers.checkHost_eq_ok_iff (Headers.value?_host hheaders resolved)] at hhost
    exact ⟨_, bind_eq_ok_iff.2 ⟨resolved, addressed_eq_ok_iff.2 hresolved,
      bind_eq_ok_iff.2 ⟨headers, hheaders, bind_eq_ok_iff.2 ⟨a, addressed_eq_ok_iff.2 ha,
        bind_eq_ok_iff.2 ⟨(), hhost, rfl⟩⟩⟩⟩⟩

theorem exists_bodyText_json_iff {v : Value} :
    (∃ text, bodyText (.json v) = .ok text) ↔ Json.IsContent v := by
  simp only [← Json.exists_content_iff, bodyText, mapError_eq_ok_iff]

end Executor

end Http

namespace Client

open Http Failure

namespace Operation

/-! ## What can be encoded -/

/-- The configuration of an index that can be sent. -/
def HasConfiguration (config : Value) : Prop :=
  match config with
  | .record .index .. => Json.IsContent (Record.dump { byWire := true, omitUnset := true } config)
  | v => ∃ es, v.toPairs = .ok es ∧ Value.IsObject es

/-- Whether what an operation sends can be made of its arguments: documents, data and states have a
    text without integers that are too long, ids can be gone through, and the parameters of a search
    are accepted and compiled. -/
def Encodable : Operation → Prop
  | updateIndex _ config => HasConfiguration config
  | addDocuments _ documents _ _ =>
    ∃ docs, documents.elements = .ok docs ∧ ∀ d ∈ docs, Document.HasLine d
  | updateDocument _ _ updates => Document.HasData updates
  | deleteDocuments _ ids _ => ids.truthy = true → ∃ vs, ids.elements = .ok vs
  | search _ params overrides =>
    ∃ accepted, searchParams params overrides = .ok accepted ∧
      ∃ pairs, Query.searchPairs accepted = .ok pairs
  | createIngress _ params => Document.HasData params
  | updateIngress _ _ state => Json.IsContent state
  | _ => True

theorem exists_indexData_iff {config : Value} :
    (∃ v, indexData config = .ok v ∧ Json.IsContent v) ↔ HasConfiguration config := by
  cases config with
  | record model fields extra given =>
    cases model with
    | index => simp [indexData, HasConfiguration]
    | _ => exact Value.exists_object_iff
  | _ => exact Value.exists_object_iff

/-- Data that make a body can be made and written together. -/
theorem exists_body_iff {data : Except Misuse Value} {c₀ : Call} :
    (∃ c text, (do return { c₀ with body := .json (← data.mapError Problem.misuse) }) =
        (Except.ok c : Except Problem Call) ∧ Executor.bodyText c.body = .ok text) ↔
      ∃ v, data = .ok v ∧ Json.IsContent v := by
  constructor
  · rintro ⟨c, text, hc, htext⟩
    obtain ⟨v, hv, hc⟩ := bind_eq_ok_iff.1 hc
    obtain rfl := Except.ok.inj hc
    exact ⟨v, mapError_eq_ok_iff.1 hv, Executor.exists_bodyText_json_iff.1 ⟨text, htext⟩⟩
  · rintro ⟨v, hv, hcontent⟩
    obtain ⟨text, htext⟩ := Executor.exists_bodyText_json_iff.2 hcontent
    exact ⟨_, text, bind_eq_ok_iff.2 ⟨v, mapError_eq_ok_iff.2 hv, rfl⟩, htext⟩

theorem exists_deleteIds_iff {ids : Value} :
    (∃ ps, deleteIds ids = .ok ps) ↔ (ids.truthy = true → ∃ vs, ids.elements = .ok vs) := by
  unfold deleteIds
  split
  · next htruthy => simp [htruthy, map_eq_ok_iff]
  · next hfalsy => simp [hfalsy]

/-- **What can be encoded.** An operation has a call with a body exactly if its arguments can be
    encoded. -/
theorem encodable_iff (op : Operation) :
    op.Encodable ↔ ∃ c text, op.call = .ok c ∧ Executor.bodyText c.body = .ok text := by
  cases op with
  | updateIndex id config => exact exists_indexData_iff.symm.trans exists_body_iff.symm
  | updateDocument index document updates =>
    exact (Document.exists_data_iff updates).symm.trans exists_body_iff.symm
  | createIngress index params =>
    exact (Document.exists_data_iff params).symm.trans exists_body_iff.symm
  | addDocuments index documents format primaryKey =>
    simp only [Encodable, ← Document.exists_lines_iff]
    constructor
    · rintro ⟨docs, hdocs, lines, hlines⟩
      exact ⟨_, _, bind_eq_ok_iff.2 ⟨lines,
        mapError_eq_ok_iff.2 (bind_eq_ok_iff.2 ⟨docs, hdocs, hlines⟩), rfl⟩, rfl⟩
    · rintro ⟨c, text, hc, -⟩
      obtain ⟨lines, hlines, -⟩ := bind_eq_ok_iff.1 hc
      obtain ⟨docs, hdocs, hlines⟩ := bind_eq_ok_iff.1 (mapError_eq_ok_iff.1 hlines)
      exact ⟨docs, hdocs, lines, hlines⟩
  | deleteDocuments index ids filter =>
    rw [Encodable, ← exists_deleteIds_iff]
    constructor
    · rintro ⟨ps, hps⟩
      obtain ⟨qs, hqs⟩ := exists_deleteFilter filter
      exact ⟨_, _, bind_eq_ok_iff.2 ⟨ps, mapError_eq_ok_iff.2 hps,
        bind_eq_ok_iff.2 ⟨qs, mapError_eq_ok_iff.2 hqs, rfl⟩⟩, rfl⟩
    · rintro ⟨c, text, hc, -⟩
      obtain ⟨ps, hps, -⟩ := bind_eq_ok_iff.1 hc
      exact ⟨ps, mapError_eq_ok_iff.1 hps⟩
  | search index params overrides =>
    constructor
    · rintro ⟨accepted, haccepted, pairs, hpairs⟩
      exact ⟨_, _, bind_eq_ok_iff.2 ⟨accepted, haccepted,
        bind_eq_ok_iff.2 ⟨pairs, mapError_eq_ok_iff.2 hpairs, rfl⟩⟩, rfl⟩
    · rintro ⟨c, text, hc, -⟩
      obtain ⟨accepted, haccepted, hc⟩ := bind_eq_ok_iff.1 hc
      obtain ⟨pairs, hpairs, -⟩ := bind_eq_ok_iff.1 hc
      exact ⟨accepted, haccepted, pairs, mapError_eq_ok_iff.1 hpairs⟩
  | updateIngress index ingress state =>
    have hstate : Json.IsContent (.map [("state", state)]) ↔ Json.IsContent state := by
      rw [Json.isContent_map_iff, List.forall_mem_singleton]
    rw [Encodable, ← hstate, ← Executor.exists_bodyText_json_iff]
    exact ⟨fun ⟨text, htext⟩ => ⟨_, text, rfl, htext⟩, fun ⟨_, text, hc, htext⟩ =>
      ⟨text, by rw [← Except.ok.inj hc] at htext; exact htext⟩⟩
  | _ => exact ⟨fun _ => ⟨_, _, rfl, rfl⟩, fun _ => trivial⟩

/-- Whether what an operation sends can be sent with an executor: the values in its address can be
    written, and the address can be carried. -/
def Sendable (op : Operation) (x : Executor) : Prop :=
  op.isLegible = true ∧ ∃ c, op.call = .ok c ∧ x.Carries op.path c.params

/-- **What is sent.** An operation makes an exchange exactly if its arguments can be encoded and what
    it sends can be sent. -/
theorem exists_exchange_iff {op : Operation} {x : Executor} :
    (∃ e, (op.plan x).exchange = .ok e) ↔ op.Encodable ∧ op.Sendable x := by
  rw [encodable_iff]
  constructor
  · rintro ⟨e, he⟩
    obtain ⟨c, e₀, hc, he₀, -⟩ := plan_exchange he
    obtain ⟨text, htext, hrequest, -⟩ := Executor.plan_exchange he₀
    exact ⟨⟨c, text, hc, htext⟩, isLegible_of_exchange he, c, hc,
      Executor.exists_request_iff.1 ⟨_, hrequest⟩⟩
  · rintro ⟨⟨c, text, hc, htext⟩, hlegible, c', hc', hcarries⟩
    rw [hc] at hc'
    obtain rfl := Except.ok.inj hc'
    cases he : (op.plan x).exchange with
    | ok e => exact ⟨e, rfl⟩
    | error p =>
      have hfails := request_of_exchange hc htext hlegible he
      rw [call_eq_bare hc] at hfails
      obtain ⟨r, hr⟩ := Executor.exists_request_iff.2 hcarries
      exact absurd (hr.symm.trans hfails) nofun

end Operation

/-! ## Overrides -/

/-- An override that the model of the parameters of a search takes: it has the name of a field whose
    shape takes its value. -/
def IsOverride (e : String × Value) : Prop :=
  ∃ f ∈ Schema.fieldsOf .search, f.name = e.1 ∧ ∃ w, f.shape.check e.2 = .ok w

/-- **Accepted parameters.** Data are parameters of a search exactly if a field takes each of them. -/
theorem exists_check_search_iff {es : Entries Value} :
    (∃ r, Record.check .search (.map es) = .ok r) ↔
      ∀ name v, es.get? name = some v → IsOverride (name, v) := by
  have hwire : ∀ f ∈ Schema.fieldsOf .search, f.wire = f.name := by decide
  have hsupplied : ∀ f ∈ Schema.fieldsOf .search,
      Schema.FieldOf.supplied? f es = es.get? f.name := by
    intro f hf
    rw [Schema.FieldOf.supplied?, hwire f hf, Option.or_self]
  constructor
  · rintro ⟨r, hr⟩ name v hget
    by_cases hfield : ∃ f ∈ Schema.fieldsOf .search, f.name = name
    · obtain ⟨f, hf, rfl⟩ := hfield
      have hfits := (Record.check_map_eq_ok_iff.1 hr).1 f hf
      rw [Schema.FieldOf.Fits, hsupplied f hf, hget] at hfits
      exact ⟨f, hf, rfl, hfits⟩
    · have hhas : es.has name = true := by rw [Entries.has, hget, Option.isSome_some]
      refine absurd hr (Record.not_ok_of_undeclared rfl hhas (fun f hf => ?_) r)
      have hne : f.name ≠ name := fun hname => hfield ⟨f, hf, hname⟩
      exact ⟨by rwa [hwire f hf], hne⟩
  · intro hall
    refine ⟨_, Record.check_map_eq_ok_iff.2 ⟨fun f hf => ?_, fun _ => ?_, rfl, rfl⟩⟩
    · rw [Schema.FieldOf.Fits, hsupplied f hf]
      cases hget : es.get? f.name with
      | none =>
        have hdefault : ∀ f ∈ Schema.fieldsOf .search, f.default.isSome = true := by decide
        exact Option.isSome_iff_exists.1 (hdefault f hf)
      | some v =>
        obtain ⟨g, hg, hname, hcheck⟩ := hall f.name v hget
        have hsame := List.inj_on_of_nodup_map
          (Schema.nodup_names_of_apart (Schema.apart_fieldsOf .search)) hg hf hname
        rwa [← hsame]
    · refine List.filter_eq_nil_iff.2 fun e he => ?_
      obtain ⟨v, hv⟩ := Option.isSome_iff_exists.1
        ((Entries.mem_names_iff es e.1).1 (List.mem_map_of_mem he))
      obtain ⟨f, hf, hname, -⟩ := hall e.1 v hv
      have htakes : (Schema.fieldsOf .search).any (·.takes es e.1) = true :=
        List.any_eq_true.2 ⟨f, hf, by simp [Schema.FieldOf.takes, hwire f hf, hname]⟩
      simp [htakes]

/-- The parameters of a search hold every override under its name, if there are any. -/
theorem Operation.searchParams_of_mem {params : Value} {overrides : Entries Value}
    (hnodup : overrides.names.Nodup) {e : String × Value} (he : e ∈ overrides) :
    searchParams params overrides = .error (.misuse .noMember) ∨
      ∃ es : Entries Value, es.get? e.1 = some e.2 ∧
        searchParams params overrides = (Record.check .search (.map es)).mapError .refused := by
  have hne : overrides.isEmpty = false := List.isEmpty_eq_false_iff.2 (List.ne_nil_of_mem he)
  cases params with
  | null => exact Or.inr ⟨overrides, Entries.get?_of_mem hnodup he, rfl⟩
  | record model fields extra given =>
    refine Or.inr ⟨Entries.merge (given.map fun name =>
      (name, (Value.record model fields extra given).member name)) overrides,
      Entries.get?_merge_of_mem hnodup he, ?_⟩
    simp only [searchParams, hne]
    rfl
  | _ =>
    refine Or.inl ?_
    simp only [searchParams, hne]
    rfl

theorem Operation.exists_fails_of_override {params : Value} {overrides : Entries Value}
    (hnodup : overrides.names.Nodup) {e : String × Value} (he : e ∈ overrides)
    (hnot : ¬IsOverride e) (x : Executor) (index : Value) :
    ∃ p, ∀ outcome, (((search index params overrides).plan x).run outcome).Fails p := by
  obtain ⟨p, hp⟩ : ∃ p, searchParams params overrides = .error p := by
    rcases searchParams_of_mem hnodup he with hmisuse | ⟨es, hget, hcheck⟩
    · exact ⟨_, hmisuse⟩
    · cases hr : Record.check .search (.map es) with
      | ok r => exact absurd (exists_check_search_iff.1 ⟨r, hr⟩ _ _ hget) hnot
      | error refusal => exact ⟨_, by rw [hcheck, hr]; rfl⟩
  exact ⟨p, fun outcome => fails_of_call (bind_eq_error_iff.2 (Or.inl hp)) outcome⟩

/-! ## All or nothing -/

theorem Operation.run_cases (op : Operation) (x : Executor) :
    (op.Encodable ∧ op.Sendable x → ∃ r, ∀ outcome, ((op.plan x).run outcome).requests = [r]) ∧
      (¬(op.Encodable ∧ op.Sendable x) → ∃ p, ∀ outcome, ((op.plan x).run outcome).Fails p) := by
  rw [← exists_exchange_iff]
  cases he : (op.plan x).exchange with
  | ok e => exact ⟨fun _ => ⟨e.request, Plan.requests_run he⟩, fun hnot => absurd ⟨e, rfl⟩ hnot⟩
  | error p => exact ⟨fun ⟨_, h⟩ => (nomatch h), fun _ => ⟨p, Plan.fails_run he⟩⟩

/-- **One request, all or nothing.** A call of an operation sends one request, the same for every
    outcome, if its arguments can be bound and encoded and what it sends can be sent; otherwise it
    sends nothing and fails, in the same way for every outcome. A document without a line among all
    documents, or an override that is none among all overrides, is enough for that. -/
theorem one_request_or_none {c : Connection} {x : Executor} (hx : c.executor = .ok x) (name : String)
    (args : List Value) (given : Entries Value) :
    let plan := c.plan (.client false) name args given
    let IsSent := ∃ op, (Surface.client false).operation name args given = .ok op ∧ op.Encodable ∧
      op.Sendable x
    ((IsSent → ∃ r, ∀ outcome, (plan.run outcome).requests = [r]) ∧
        (¬IsSent → ∃ p, ∀ outcome, (plan.run outcome).Fails p)) ∧
      (∀ index documents format primaryKey docs, documents.elements = .ok docs →
        (∃ d ∈ docs, ¬Document.HasLine d) → ∃ p, ∀ outcome,
          (((Operation.addDocuments index documents format primaryKey).plan x).run outcome).Fails p) ∧
      ∀ (index params : Value) (overrides : Entries Value), overrides.names.Nodup →
        (∃ e ∈ overrides, ¬IsOverride e) → ∃ p, ∀ outcome,
          (((Operation.search index params overrides).plan x).run outcome).Fails p := by
  intro plan IsSent
  refine ⟨?_, fun index documents format primaryKey docs hdocs ⟨d, hd, hnot⟩ => ?_,
    fun index params overrides hnodup ⟨e, he, hnot⟩ =>
      Operation.exists_fails_of_override hnodup he hnot x index⟩
  · have hplan : plan = _ := Connection.plan_of_ok hx
    cases hop : (Surface.client false).operation name args given with
    | error e =>
      rw [hop] at hplan
      refine ⟨fun ⟨op, h, _⟩ => absurd (hop.symm.trans h) nofun, fun _ => ⟨.misuse e, ?_⟩⟩
      rw [hplan]
      exact Plan.fails_run rfl
    | ok op =>
      rw [hop] at hplan
      have hiff : IsSent ↔ op.Encodable ∧ op.Sendable x := by
        refine ⟨fun ⟨op', h, hsent⟩ => ?_, fun hsent => ⟨op, hop, hsent⟩⟩
        rw [hop] at h
        rwa [Except.ok.inj h]
      rw [hiff, hplan]
      exact op.run_cases x
  · refine (Operation.run_cases _ x).2 fun ⟨⟨docs', hdocs', hall⟩, _⟩ => ?_
    rw [hdocs] at hdocs'
    obtain rfl := Except.ok.inj hdocs'
    exact hnot (hall d hd)

/-- Pairs are a document beside a map, octets in a list make an upload fail wherever they are, and a
    search fails for a limit below zero whatever stands beside it. -/
theorem one_request_or_none_of_mixed_documents :
    let pairs : Value := .list [.list [.text "a", .int 1]]
    let book : Value := .map [("title", .text "dune")]
    let scan : Value := .map [("pages", .list [.octets [0x89]])]
    (∃ r, ∀ outcome, (((Connection.of "http://bright.test" none).plan (.client false) "add_documents"
        [.text "books", .list [pairs, book]] []).run outcome).requests = [r]) ∧
      (∃ p, ∀ outcome, (((Operation.addDocuments (.text "books") (.list [pairs, scan, book])
        .null .null).plan rootExecutor).run outcome).Fails p) ∧
      ∃ p, ∀ outcome, (((Operation.search (.text "books") .null
        [("q", .text "dune"), ("limit", .int (-1))]).plan rootExecutor).run outcome).Fails p := by
  intro pairs book scan
  obtain ⟨⟨hone, -⟩, hdocuments, hoverrides⟩ := one_request_or_none executor_root "add_documents"
    [.text "books", .list [pairs, book]] []
  refine ⟨hone ?_, hdocuments _ _ _ _ _ rfl ⟨scan, by simp, ?_⟩,
    hoverrides _ _ _ (by decide) ⟨("limit", .int (-1)), by simp, ?_⟩⟩
  · have hop : (Surface.client false).operation "add_documents"
        [.text "books", .list [pairs, book]] [] = .ok
          (.addDocuments (.text "books") (.list [pairs, book]) (.text "jsoneachrow") .null) := rfl
    have hsent : (((Operation.addDocuments (.text "books") (.list [pairs, book])
        (.text "jsoneachrow") .null).plan rootExecutor).run (.interrupted "" "")).requests ≠ [] := by
      decide +kernel
    obtain ⟨r, hr⟩ := List.exists_mem_of_ne_nil _ hsent
    obtain ⟨e, he, -⟩ := Plan.mem_requests_run.1 hr
    exact ⟨_, hop, Operation.exists_exchange_iff.1 ⟨e, he⟩⟩
  · rintro ⟨es, hes, hobject⟩
    obtain rfl := Except.ok.inj hes
    cases (hobject _ List.mem_cons_self).2.1 with
    | list hitems => cases hitems _ List.mem_cons_self
  · intro hlimit
    have hrefused : (Record.check .search (.map [("limit", .int (-1))])).toOption.isSome = false := by
      decide +kernel
    have htaken : ∀ name v, Entries.get? [("limit", Value.int (-1))] name = some v →
        IsOverride (name, v) := by
      intro name v hget
      obtain ⟨rfl, rfl⟩ : "limit" = name ∧ Value.int (-1) = v := by
        simpa [Entries.get?] using hget
      exact hlimit
    obtain ⟨r, hr⟩ := exists_check_search_iff.2 htaken
    rw [hr] at hrefused
    exact absurd hrefused.symm Bool.false_ne_true

end Client

end SearchClient
