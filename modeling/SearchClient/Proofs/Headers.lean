import Mathlib
import SearchClient.Proofs.OneRequest

set_option autoImplicit false

/-! # Headers that override

The headers of a caller are written over the default ones by their exact names, but a name counts in
whatever letters it is written when a request is read. So a header of the caller overrides a default
one that is spelled the same, and stands beside one that is spelled otherwise. Credentials in an
address replace every authorization. A request has for each name the one value that is meant exactly
if neither gets in the way (`Executor.caller_headers_override`). -/

namespace SearchClient

namespace Http.Headers

variable {α β : Type}

/-! ## Names in any letters -/

theorem sameName_comm (a b : String) : sameName a b = sameName b a :=
  decide_eq_decide.2 eq_comm

/-- The same names are the same as any other name. -/
theorem sameName_congr {a b : String} (h : sameName a b = true) (c : String) :
    sameName c a = sameName c b :=
  decide_eq_decide.2 (by rw [of_decide_eq_true h])

/-- The entries of a name, in whatever letters it is written. -/
def named (es : Entries α) (name : String) : Entries α :=
  es.filter fun e => sameName e.1 name

/-- The values of a name, in whatever letters it is written. -/
def values (es : Entries α) (name : String) : List α :=
  (named es name).map (·.2)

/-- Entries whose names differ in more than their letters. -/
def Distinct (es : Entries α) : Prop :=
  es.Pairwise fun d e => sameName d.1 e.1 = false

instance (es : Entries α) : Decidable (Distinct es) :=
  inferInstanceAs (Decidable (es.Pairwise _))

theorem mem_named_iff {es : Entries α} {name : String} {e : String × α} :
    e ∈ named es name ↔ e ∈ es ∧ sameName e.1 name = true :=
  List.mem_filter

theorem named_merge (es upper : Entries α) (name : String) :
    named (es.merge upper) name = (named es name).merge (named upper name) :=
  Entries.filter_merge (sameName · name) es upper

theorem named_map (f : α → β) (es : Entries α) (name : String) :
    named (es.map fun e => (e.1, f e.2)) name = (named es name).map fun e => (e.1, f e.2) := by
  rw [named, List.filter_map]
  rfl

theorem values_map (f : α → β) (es : Entries α) (name : String) :
    values (es.map fun e => (e.1, f e.2)) name = (values es name).map f := by
  rw [values, named_map, values, List.map_map, List.map_map]
  rfl

/-- No two of such entries are of one name. -/
theorem named_of_distinct {es : Entries α} (h : Distinct es) (name : String) :
    named es name = [] ∨ ∃ e, named es name = [e] := by
  induction es with
  | nil => exact Or.inl rfl
  | cons e es ih =>
      obtain ⟨hfirst, hrest⟩ := List.pairwise_cons.1 h
      by_cases he : sameName e.1 name = true
      · have hnone : named es name = [] := by
          refine List.filter_eq_nil_iff.2 fun d hd hsame => ?_
          have hother : sameName e.1 d.1 = true := by rwa [sameName_congr hsame]
          exact absurd ((hfirst d hd).symm.trans hother) Bool.false_ne_true
        refine Or.inr ⟨e, ?_⟩
        rw [named, List.filter_cons, if_pos he]
        exact congrArg (e :: ·) hnone
      · rw [named, List.filter_cons, if_neg he]
        exact ih hrest

theorem Distinct.nodup_names {es : Entries α} (h : Distinct es) : es.names.Nodup := by
  refine List.pairwise_map.2 (h.imp fun hother heq => ?_)
  simp [sameName, heq] at hother

/-- All values of a name are read as one. -/
theorem value?_eq (hs : Headers) (name : String) :
    hs.value? name = if values hs name = [] then none
      else some (", ".intercalate (values hs name)) := by
  unfold value?
  split
  · next hnone =>
    have hvalues : values hs name = [] := List.map_eq_nil_iff.2 hnone
    rw [if_pos hvalues]
  · next hsome =>
    have hvalues : values hs name ≠ [] := fun h => hsome (List.map_eq_nil_iff.1 h)
    rw [if_neg hvalues]
    rfl

/-! ## What is meant -/

/-- The default value of a name: content is JSON, and a key is a bearer token. -/
def default? (apiKey : Option String) (name : String) : Option String :=
  if sameName "Content-Type" name then some "application/json"
  else if sameName "Authorization" name then (apiKey.filter (· ≠ "")).map ("Bearer " ++ ·)
  else none

/-- The value that a name is meant to have: that of the caller, or else the default one. -/
def meant? (apiKey : Option String) (extra : Entries Value) (name : String) : Option String :=
  match (named extra name).head? with
  | some e => e.2.asText?
  | none => default? apiKey name

theorem distinct_defaults (apiKey : Option String) : Distinct (build apiKey []) := by
  have hother : sameName "Content-Type" "Authorization" = false := by decide +kernel
  rw [build_eq]
  cases apiKey with
  | none => simp [Distinct]
  | some key => by_cases hkey : key = "" <;> simp [Distinct, Option.filter, hkey, hother]

theorem default?_eq (apiKey : Option String) (name : String) :
    default? apiKey name = (named (build apiKey []) name).head?.bind fun e => e.2.asText? := by
  rw [build_eq, default?, named, List.filter_cons]
  by_cases hcontent : sameName "Content-Type" name = true
  · simp [hcontent, Value.asText?]
  · cases apiKey with
    | none => simp [hcontent]
    | some key =>
      by_cases hkey : key = "" <;> by_cases hname : sameName "Authorization" name = true <;>
        simp [hcontent, Option.filter, hkey, hname, Value.asText?]

theorem build_eq_merge (apiKey : Option String) (extra : Entries Value) :
    build apiKey extra = (build apiKey []).merge extra :=
  rfl

/-! ## What is sent -/

theorem texts_of_check {es : Entries Value} {hs : Headers} (h : check es = .ok hs) :
    hs.map (fun e : String × String => (e.1, some e.2)) = es.map fun e => (e.1, e.2.asText?) := by
  induction es generalizing hs with
  | nil =>
    obtain rfl := Except.ok.inj h
    rfl
  | cons e es ih =>
      obtain ⟨name, hname, h⟩ := bind_eq_ok_iff.1 h
      split at h
      · next s hs =>
        obtain ⟨s', hs', h⟩ := bind_eq_ok_iff.1 h
        obtain ⟨rest, hrest, h⟩ := bind_eq_ok_iff.1 h
        obtain rfl := Except.ok.inj h
        rw [eq_of_sendable hname, eq_of_sendable hs', List.map_cons, List.map_cons, ih hrest, hs]
      · exact nomatch h

/-- The texts of a name are those that were checked. -/
theorem values_of_check {es : Entries Value} {hs : Headers} (h : check es = .ok hs) (name : String) :
    (values hs name).map some = (values es name).map Value.asText? := by
  rw [← values_map, ← values_map, texts_of_check h]

/-- Whether the headers of a caller spell a name like the default one of that name. -/
def SpellsDefault (apiKey : Option String) (extra : Entries Value) (name : String) : Prop :=
  ∀ e ∈ named extra name, ∀ d ∈ named (build apiKey []) name, e.1 = d.1

theorem values_build_iff (apiKey : Option String) {extra : Entries Value} (hdistinct : Distinct extra)
    (htext : ∀ e ∈ extra, ∃ s, e.2.asText? = some s) (name : String) :
    (values (build apiKey extra) name).map Value.asText? =
        (meant? apiKey extra name).toList.map some ↔ SpellsDefault apiKey extra name := by
  rw [values, build_eq_merge, named_merge, meant?, default?_eq, SpellsDefault]
  have hdefault : ∀ d ∈ named (build apiKey []) name, ∃ s, d.2.asText? = some s := by
    intro d hd
    obtain ⟨s, hs⟩ := text_of_mem_build apiKey d (mem_named_iff.1 hd).1
    exact ⟨s, by rw [hs]; rfl⟩
  have hextra : ∀ e ∈ named extra name, ∃ s, e.2.asText? = some s :=
    fun e he => htext e (mem_named_iff.1 he).1
  -- At most one default entry and at most one of the caller's are of the name.
  rcases named_of_distinct (distinct_defaults apiKey) name with hd | ⟨d, hd⟩ <;>
    rcases named_of_distinct hdistinct name with he | ⟨e, he⟩ <;>
    rw [hd] at hdefault ⊢ <;> rw [he] at hextra ⊢
  · simp [Entries.merge]
  · obtain ⟨s, hs⟩ := hextra e List.mem_cons_self
    simp [Entries.merge, Entries.put, hs]
  · obtain ⟨s, hs⟩ := hdefault d List.mem_cons_self
    simp [Entries.merge, hs]
  · obtain ⟨s, hs⟩ := hextra e List.mem_cons_self
    by_cases hname : d.1 = e.1
    · simp [Entries.merge, Entries.put, hs, hname]
    · simp [Entries.merge, Entries.put, hs, hname, Ne.symm hname]

/-- Credentials in an address are its only authorization, and change nothing else. -/
theorem values_forAddress (hs : Headers) (a : Address) (name : String) :
    values (hs.forAddress a) name =
      match credentials? a with
      | some value => if sameName "Authorization" name then [value] else values hs name
      | none => values hs name := by
  unfold forAddress
  cases credentials? a with
  | none => rfl
  | some value =>
    show ((hs.filter _ ++ [("Authorization", value)]).filter _).map _ = _
    rw [List.filter_append, List.filter_filter, List.filter_singleton]
    by_cases hname : sameName "Authorization" name = true
    · have hnone : hs.filter (fun e => sameName e.1 name && !sameName e.1 "Authorization") = [] := by
        refine List.filter_eq_nil_iff.2 fun e _ => ?_
        rw [← sameName_congr hname, Bool.and_not_self]
        exact Bool.false_ne_true
      rw [hnone]
      simp [hname]
    · have hsame : hs.filter (fun e => sameName e.1 name && !sameName e.1 "Authorization") =
          named hs name := by
        refine List.filter_congr fun e _ => ?_
        by_cases he : sameName e.1 name = true
        · rw [← sameName_congr he, sameName_comm] at hname
          simp [he, hname]
        · simp [he]
      rw [hsame]
      simp [hname, values]

/-- Whether the value that is meant for a name is the one that gets to an address. -/
def Prevails (apiKey : Option String) (extra : Entries Value) (a : Address) (name : String) : Prop :=
  match credentials? a with
  | some value =>
    if sameName "Authorization" name then meant? apiKey extra name = some value
    else SpellsDefault apiKey extra name
  | none => SpellsDefault apiKey extra name

theorem values_eq_meant_iff {apiKey : Option String} {extra : Entries Value}
    (hdistinct : Distinct extra) {hs : Headers} (h : check (build apiKey extra) = .ok hs)
    (a : Address) (name : String) :
    values (hs.forAddress a) name = (meant? apiKey extra name).toList ↔
      Prevails apiKey extra a name := by
  have htext : ∀ e ∈ extra, ∃ s, e.2.asText? = some s := by
    intro e he
    have hmem : e ∈ build apiKey extra :=
      Entries.mem_of_get? (Entries.get?_merge_of_mem hdistinct.nodup_names he)
    obtain ⟨-, s, hs, -⟩ := exists_check_iff.1 ⟨hs, h⟩ e hmem
    exact ⟨s, hs⟩
  have hspells : values hs name = (meant? apiKey extra name).toList ↔
      SpellsDefault apiKey extra name := by
    rw [← values_build_iff apiKey hdistinct htext, ← values_of_check h]
    exact (List.map_injective_iff.2 (Option.some_injective _)).eq_iff.symm
  rw [values_forAddress, Prevails]
  cases credentials? a with
  | none => exact hspells
  | some value =>
    by_cases hname : sameName "Authorization" name = true
    · simp only [hname, if_true]
      cases meant? apiKey extra name <;> simp [eq_comm]
    · simp only [hname]
      exact hspells

end Http.Headers

namespace Http.Executor

variable {x : Executor} {method path : String} {params : Params} {extra : Entries Value}

theorem headers_of_request {body : String} {r : Request}
    (h : x.request method path params body extra = .ok r) :
    ∃ a hs, x.base.resolve? path = some a ∧
      Headers.check (Headers.build x.apiKey extra) = .ok hs ∧ r.headers = hs.forAddress a := by
  obtain ⟨a, ha, h⟩ := bind_eq_ok_iff.1 h
  obtain ⟨hs, hhs, h⟩ := bind_eq_ok_iff.1 h
  obtain ⟨b, -, h⟩ := bind_eq_ok_iff.1 h
  obtain ⟨-, -, h⟩ := bind_eq_ok_iff.1 h
  obtain rfl := Except.ok.inj h
  exact ⟨a, hs, addressed_eq_ok_iff.1 ha, hhs, rfl⟩

open Headers in
/-- **Headers that override.** A request that is sent has, under a name in any letters, just the one
    value that is meant, or none if none is meant, exactly if the caller spells the name as its
    default is spelled, and, where the name is that of the authorization, the address brings no
    other credentials. -/
theorem caller_headers_override (hdistinct : Distinct extra) {body : Body} {outcome : Outcome}
    {r : Request} (hr : r ∈ ((x.plan method path params body extra).run outcome).requests) :
    ∃ a, x.base.resolve? path = some a ∧ ∀ name,
      (values r.headers name = (meant? x.apiKey extra name).toList ↔
        Prevails x.apiKey extra a name) := by
  obtain ⟨e, he, rfl⟩ := Plan.mem_requests_run.1 hr
  obtain ⟨text, -, hrequest, -⟩ := plan_exchange he
  obtain ⟨a, hs, ha, hcheck, hheaders⟩ := headers_of_request hrequest
  refine ⟨a, ha, fun name => ?_⟩
  rw [hheaders]
  exact values_eq_meant_iff hdistinct hcheck a name

open Headers in
/-- A credential that is spelled like the default one, and a name that has no default. -/
theorem caller_headers_override_of_canonical :
    let x : Executor := ⟨Client.rootExecutor.base, some "k"⟩
    let extra : Entries Value := [("x-Trace", .text "7"), ("Authorization", .text "Bearer other")]
    Distinct extra ∧
      ∃ r ∈ ((x.plan "GET" "/indexes" [] .none extra).run (.interrupted "" "")).requests,
        values r.headers "authorization" = ["Bearer other"] ∧ values r.headers "X-Trace" = ["7"] ∧
          values r.headers "content-type" = ["application/json"] := by
  intro x extra
  have hdistinct : Distinct extra := by decide +kernel
  have hsent : ((x.plan "GET" "/indexes" [] .none extra).run (.interrupted "" "")).requests ≠ [] := by
    decide +kernel
  have hresolved : (x.base.resolve? "/indexes").map credentials? = some none := by decide +kernel
  obtain ⟨r, hr⟩ := List.exists_mem_of_ne_nil _ hsent
  obtain ⟨a, ha, hprevails⟩ := caller_headers_override hdistinct hr
  rw [ha, Option.map_some, Option.some_inj] at hresolved
  have hspells : ∀ name ∈ ["authorization", "X-Trace", "content-type"],
      Prevails (some "k") extra a name := by
    unfold Prevails
    rw [hresolved]
    unfold SpellsDefault
    decide +kernel
  have hmeant : ["authorization", "X-Trace", "content-type"].map (meant? (some "k") extra) =
      [some "Bearer other", some "7", some "application/json"] := by
    decide +kernel
  simp only [List.map_cons, List.map_nil, List.cons.injEq, and_true] at hmeant
  refine ⟨hdistinct, r, hr, ?_, ?_, ?_⟩
  · rw [(hprevails _).2 (hspells _ (by simp)), hmeant.1]
    rfl
  · rw [(hprevails _).2 (hspells _ (by simp)), hmeant.2.1]
    rfl
  · rw [(hprevails _).2 (hspells _ (by simp)), hmeant.2.2]
    rfl

/-- A credential that is spelled in small letters is joined to the default one. -/
theorem caller_headers_joined_of_lower :
    let x : Executor := ⟨Client.rootExecutor.base, some "k"⟩
    ((x.plan "GET" "/indexes" [] .none [("authorization", .text "Bearer other")]).run
      (.interrupted "" "")).requests.map Request.authorization = [some "Bearer k, Bearer other"] := by
  decide +kernel

end Http.Executor

end SearchClient
