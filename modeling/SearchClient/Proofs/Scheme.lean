import Mathlib
import SearchClient.Proofs.Sending

set_option autoImplicit false

/-! # Addresses with a scheme

A scheme that was read holds no colon and no slash, and whatever replaces the path and query of an
address leaves its scheme alone. So behind a base with a scheme every request goes to an address
that names one, and a response counts. -/

namespace SearchClient.Http

open Text.Percent

namespace Address

/-- A scheme that ends where the first colon is. -/
structure HasScheme (a : Address) : Prop where
  nonempty : a.scheme ≠ []
  plain : ∀ c ∈ a.scheme, c ≠ ':' ∧ c ≠ '/'

theorem mem_splitScheme {cs : List Char} {c : Char} (h : c ∈ (splitScheme cs).1) :
    (c.isAlphanum || c = '+' || c = '.' || c = '-') = true := by
  unfold splitScheme at h
  simp only [List.span_eq_takeWhile_dropWhile] at h
  split at h
  · split_ifs at h
    · exact List.mem_takeWhile_imp
        (p := fun c => c.isAlphanum || c = '+' || c = '.' || c = '-') h
    · exact absurd h List.not_mem_nil
  · exact absurd h List.not_mem_nil

theorem toLower_schemeChar {c : Char}
    (h : (c.isAlphanum || c = '+' || c = '.' || c = '-') = true) :
    c.toLower ≠ ':' ∧ c.toLower ≠ '/' := by
  have hascii : c.toNat < 128 := by
    -- the plus sign is the only one that is not unreserved as well
    by_cases hplus : c = '+'
    · rw [hplus]
      decide
    · refine toNat_lt_of_isUnreserved ?_
      simp only [Bool.or_eq_true, decide_eq_true_eq] at h
      simp only [isUnreserved, Bool.or_eq_true, decide_eq_true_eq]
      tauto
  exact forall_ascii
    (p := fun c => (c.isAlphanum || c = '+' || c = '.' || c = '-') = true →
      c.toLower ≠ ':' ∧ c.toLower ≠ '/') (by decide) hascii h

theorem plain_of_parse? {s : String} {a : Address} (h : parse? s = some a) :
    ∀ c ∈ a.scheme, c ≠ ':' ∧ c ≠ '/' := by
  unfold parse? at h
  simp only [] at h
  split_ifs at h with hlong
  split at h
  · rw [withPath?_eq_some h]
    intro c hc
    obtain ⟨d, hd, rfl⟩ := List.mem_map.1 hc
    exact toLower_schemeChar (mem_splitScheme hd)
  · exact nomatch h

theorem scheme_of_withTarget? {a b : Address} {target : List Char}
    (h : a.withTarget? target = some b) : b.scheme = a.scheme := by
  obtain ⟨c, hc, h⟩ := Option.bind_eq_some_iff.1 h
  obtain ⟨host, -, rfl⟩ := Option.map_eq_some_iff.1 hc
  split at h
  · split at h
    · exact nomatch h
    · rw [withPath?_eq_some h]
  · split at h
    · exact nomatch h
    · rw [withPath?_eq_some h]

theorem scheme_of_asBase? {a base : Address} (h : a.asBase? = some base) :
    base.scheme = a.scheme := by
  unfold asBase? at h
  split at h
  · rw [← Option.some.inj h]
  · exact scheme_of_withTarget? h

theorem scheme_of_withQuery? {a b : Address} {query : List Char}
    (h : a.withQuery? query = some b) : b.scheme = a.scheme := by
  obtain ⟨c, hc, h⟩ := Option.bind_eq_some_iff.1 h
  obtain ⟨host, -, rfl⟩ := Option.map_eq_some_iff.1 hc
  split at h
  · exact nomatch h
  · rw [← Option.some.inj h]

theorem hasScheme_of_eq {a b : Address} (h : b.scheme = a.scheme) (ha : a.HasScheme) :
    b.HasScheme :=
  ⟨h ▸ ha.nonempty, h ▸ ha.plain⟩

/-- A path that is a full address has a scheme of its own; any other gets that of the base. -/
theorem hasScheme_of_resolve? {base a : Address} {path : String} (hbase : base.HasScheme)
    (h : base.resolve? path = some a) : a.HasScheme := by
  obtain ⟨b, hb, h⟩ := Option.bind_eq_some_iff.1 h
  split at h
  · next hfull =>
    obtain rfl := Option.some.inj h
    refine ⟨?_, plain_of_parse? hb⟩
    intro hnil
    simp [hnil] at hfull
  · exact hasScheme_of_eq (scheme_of_withTarget? h) hbase

/-- The text of an address with a scheme says so. -/
theorem namesScheme_render {a : Address} (h : a.HasScheme) :
    Executor.namesScheme (String.ofList a.render) = true := by
  have hrender : ∃ rest, a.render = a.scheme ++ ':' :: rest := by
    simp only [render, List.isEmpty_eq_false_iff.2 h.nonempty, Bool.false_eq_true, if_false,
      List.append_assoc, List.singleton_append]
    exact ⟨_, rfl⟩
  obtain ⟨rest, hrest⟩ := hrender
  have hscheme : ∀ c ∈ a.scheme, (c != ':' && c != '/') = true := by
    intro c hc
    simpa using h.plain c hc
  have hspan : (a.scheme ++ ':' :: rest).span (fun c => c != ':' && c != '/') =
      (a.scheme, ':' :: rest) := by
    rw [List.span_eq_takeWhile_dropWhile, List.takeWhile_append_of_pos hscheme,
      List.dropWhile_append_of_pos hscheme]
    simp
  simp only [Executor.namesScheme, String.toList_ofList, hrest, hspan, List.head?_cons,
    List.isEmpty_eq_false_iff.2 h.nonempty]
  rfl

end Address

namespace Executor

theorem hasScheme_of_address? {x : Executor} {path : String} {params : Params} {a : Address}
    (hbase : x.base.HasScheme) (h : x.address? path params = some a) : a.HasScheme := by
  obtain ⟨resolved, hresolved, h⟩ := Option.bind_eq_some_iff.1 h
  have hscheme := Address.hasScheme_of_resolve? hbase hresolved
  cases hquery : params.query? with
  | none =>
    rw [hquery] at h
    rwa [← Option.some.inj h]
  | some query =>
    rw [hquery] at h
    exact Address.hasScheme_of_eq (Address.scheme_of_withQuery? h) hscheme

/-- **Requests name a scheme** as soon as the base does. -/
theorem namesScheme_of_request {x : Executor} {method path : String} {params : Params}
    {body : String} {extra : Entries Value} {r : Request} (hbase : x.base.HasScheme)
    (h : x.request method path params body extra = .ok r) : namesScheme r.url = true := by
  obtain ⟨a, ha, -, hurl⟩ := request_eq_ok h
  rw [hurl]
  exact Address.namesScheme_render (hasScheme_of_address? hbase ha)

/-- So every response to such a request counts. -/
theorem settleAt_of_request {x : Executor} {method path : String} {params : Params} {body : String}
    {extra : Entries Value} {r : Request} (hbase : x.base.HasScheme)
    (h : x.request method path params body extra = .ok r) (method' path' : String)
    (outcome : Outcome) : settleAt r.url method' path' outcome = settle method' path' outcome := by
  cases outcome with
  | interrupted => rfl
  | response _ => exact if_pos (namesScheme_of_request hbase h)

end Executor

end SearchClient.Http

namespace SearchClient.Client

theorem hasScheme_of_executor {baseUrl : String} {apiKey : Option String} {x : Http.Executor}
    (h : (Connection.of baseUrl apiKey).executor = .ok x) (hscheme : x.base.scheme ≠ []) :
    x.base.HasScheme := by
  obtain ⟨a, ha, hbase⟩ := executor_eq_ok h
  refine ⟨hscheme, ?_⟩
  rw [Http.Address.scheme_of_asBase? hbase]
  exact Http.Address.plain_of_parse? ha

/-- Behind a base with a scheme, an operation concludes from what the outcome is settled as. -/
theorem Operation.exists_settle_of_scheme {op : Operation} {x : Http.Executor} {e : Http.Exchange}
    (he : (op.plan x).exchange = .ok e) (hbase : x.base.HasScheme) :
    ∃ method path, ∀ outcome, (e.settle outcome).result =
      (op.conclude (Http.Executor.settle method path outcome).result).result := by
  obtain ⟨method, path, text, params, hrequest, hsettled⟩ := exists_settle_of_exchange he
  refine ⟨method, path, fun outcome => ?_⟩
  rw [hsettled, Http.Executor.settleAt_of_request hbase hrequest]

end SearchClient.Client
