import Mathlib
import SearchClient.Proofs.Clauses
import SearchClient.Proofs.Records
import SearchClient.Proofs.Sending

set_option autoImplicit false

/-! # Accepted searches

Parameters that are accepted are compiled into a request, but for one thing: the entries of a range
are accepted whatever they are, and only null, a map and bounds can be compiled (`Query.Ranged`). -/

namespace SearchClient

/-! ## Accepted records -/

namespace Record

open Schema

/-- A member of an accepted record is the default of its field, or what the shape makes of a value. -/
theorem member?_of_check {model : Model} {es : Entries Value} {r : Value}
    (h : check model (.map es) = .ok r) {f : FieldRule} (hf : f ∈ fieldsOf model) :
    ∃ w, r.member? f.name = some w ∧ (f.default = some w ∨ ∃ v, f.shape.check v = .ok w) := by
  obtain ⟨hfits, -⟩ := check_map_eq_ok_iff.1 h
  obtain ⟨w, hw⟩ := FieldOf.fits_iff.1 (hfits f hf)
  refine ⟨w, (member?_eq_checked? h hf).trans hw, ?_⟩
  · unfold FieldOf.checked? at hw
    split at hw
    · next v _ =>
      cases hcheck : f.shape.check v with
      | error issues =>
        rw [hcheck] at hw
        exact nomatch hw
      | ok u =>
        rw [hcheck] at hw
        exact Or.inr ⟨v, Option.some.inj hw ▸ hcheck⟩
    · exact Or.inl hw

/-- A member that may be null is so, or is what its shape makes of a value. -/
theorem member?_of_nullable {model : Model} {es : Entries Value} {r : Value}
    (h : check model (.map es) = .ok r) {name : String} {shape : Shape}
    (hf : FieldRule.nullable name shape ∈ fieldsOf model) :
    ∃ w, r.member? name = some w ∧ (w = .null ∨ ∃ v, shape.check v = .ok w) := by
  obtain ⟨w, hw, hfrom⟩ := member?_of_check h hf
  refine ⟨w, hw, ?_⟩
  rcases hfrom with hdefault | ⟨v, hv⟩
  · exact Or.inl (Option.some.inj hdefault).symm
  · cases v with
    | null => exact Or.inl (Except.ok.inj hv).symm
    | _ => exact Or.inr ⟨_, hv⟩

end Record

namespace Schema.Shape

theorem eq_map_of_check {item : Shape} {v w : Value} (h : (Shape.map item).check v = .ok w) :
    ∃ es, w = .map es := by
  unfold check at h
  split at h
  · obtain ⟨es, -, rfl⟩ := map_eq_ok_iff.1 h
    exact ⟨es, rfl⟩
  · exact nomatch h

theorem eq_list_of_check {item : Shape} {v w : Value} (h : (Shape.list item).check v = .ok w) :
    ∃ vs, w = .list vs := by
  unfold check at h
  split at h
  · obtain ⟨vs, -, rfl⟩ := map_eq_ok_iff.1 h
    exact ⟨vs, rfl⟩
  · exact nomatch h

end Schema.Shape

/-! ## Compiling them -/

namespace Query

open Schema

/-- An entry of a range that can be compiled: null, a map, or bounds. -/
def IsBounds (entry : Value) : Prop :=
  match entry with
  | .null | .map _ | .record .bounds .. => True
  | _ => False

/-- A range all of whose entries can be compiled. -/
def Ranged (range : Value) : Prop :=
  ∀ entries : Entries Value, range = .map entries → ∀ e ∈ entries, IsBounds e.2

/-- What the model of a search says about its parameters. -/
structure Searchable (params : Value) : Prop where
  q : ∃ v, params.member? "q" = some v ∧ (v = .null ∨ ∃ s, v = .text s)
  filter : ∃ v, params.member? "filter" = some v ∧ (v = .null ∨ ∃ es, v = .map es)
  range : ∃ v, params.member? "range" = some v ∧ (v = .null ∨ ∃ es, v = .map es)
  numbers : ∀ name ∈ ["offset", "limit", "page"], ∃ v, params.member? name = some v
  lists : ∀ name ∈ ["sort", "attributes_to_retrieve", "attributes_to_exclude"],
    ∃ v, params.member? name = some v ∧ (v = .null ∨ ∃ vs, v = .list vs)

theorem searchable_of_check {es : Entries Value} {params : Value}
    (h : Record.check .search (.map es) = .ok params) : Searchable params := by
  have hmember : ∀ name shape, FieldRule.nullable name shape ∈ fieldsOf .search →
      ∃ w, params.member? name = some w ∧ (w = .null ∨ ∃ v, shape.check v = .ok w) :=
    fun _ _ hf => Record.member?_of_nullable h hf
  have hmap : ∀ name, FieldRule.nullable name (.map .anything) ∈ fieldsOf .search →
      ∃ w, params.member? name = some w ∧ (w = .null ∨ ∃ es, w = .map es) := by
    intro name hf
    obtain ⟨w, hw, hfrom⟩ := hmember name _ hf
    exact ⟨w, hw, hfrom.imp_right fun ⟨v, hv⟩ => Shape.eq_map_of_check hv⟩
  have hlist : ∀ name item, FieldRule.nullable name (.list item) ∈ fieldsOf .search →
      ∃ w, params.member? name = some w ∧ (w = .null ∨ ∃ vs, w = .list vs) := by
    intro name item hf
    obtain ⟨w, hw, hfrom⟩ := hmember name _ hf
    exact ⟨w, hw, hfrom.imp_right fun ⟨v, hv⟩ => Shape.eq_list_of_check hv⟩
  refine ⟨?_, hmap "filter" (by simp [fieldsOf, searchFields]),
    hmap "range" (by simp [fieldsOf, searchFields]), ?_, ?_⟩
  · obtain ⟨w, hw, hfrom⟩ := hmember "q" .text (by simp [fieldsOf, searchFields])
    exact ⟨w, hw, hfrom.imp_right fun ⟨v, hv⟩ => exists_text_of_check hv⟩
  · intro name hname
    obtain ⟨w, hw, -⟩ := hmember name (.integer (some 0)) (by
      simp only [List.mem_cons, List.not_mem_nil, or_false] at hname
      rcases hname with rfl | rfl | rfl <;> simp [fieldsOf, searchFields])
    exact ⟨w, hw⟩
  · intro name hname
    simp only [List.mem_cons, List.not_mem_nil, or_false] at hname
    rcases hname with rfl | rfl | rfl
    · exact hlist _ .anything (by simp [fieldsOf, searchFields])
    · exact hlist _ .text (by simp [fieldsOf, searchFields])
    · exact hlist _ .text (by simp [fieldsOf, searchFields])

/-! ### Computations that hinge on a condition -/

/-- A computation that gives a result if a condition holds, and asks for a member that is not there
    if it does not. -/
structure HingesOn {α : Type} (x : Except Misuse α) (p : Prop) : Prop where
  result : p → ∃ a, x = .ok a
  failure : ¬p → x = .error .noMember

section

variable {α β : Type} {x : Except Misuse α} {f : α → Except Misuse β} {p : Prop}

/-- Steps that always give a result change nothing, after the one that decides and before it. -/
theorem HingesOn.bind (h : HingesOn x p) (hf : ∀ a, ∃ b, f a = .ok b) : HingesOn (x >>= f) p where
  result hp := exists_bind (h.result hp) hf
  failure hp := bind_eq_error_iff.2 (Or.inl (h.failure hp))

theorem hingesOn_bind {a : α} (ha : x = .ok a) (h : HingesOn (f a) p) : HingesOn (x >>= f) p := by
  rwa [ha]

theorem HingesOn.exists_iff (h : HingesOn x p) : (∃ a, x = .ok a) ↔ p := by
  refine ⟨fun ⟨a, ha⟩ => by_contra fun hp => ?_, h.result⟩
  rw [h.failure hp] at ha
  exact nomatch ha

theorem HingesOn.map {g : α → β} (h : HingesOn x p) : HingesOn (x.map g) p where
  result hp := by
    obtain ⟨a, ha⟩ := h.result hp
    exact ⟨g a, map_eq_ok_iff.2 ⟨a, ha, rfl⟩⟩
  failure hp := map_eq_error_iff.2 (h.failure hp)

end

/-! ### Ranges -/

theorem hingesOn_boundsOf (entry : Value) : HingesOn (boundsOf entry) (IsBounds entry) := by
  cases entry with
  | record model fields extra given =>
    cases model with
    | bounds =>
      refine ⟨fun _ => ?_, fun h => absurd trivial h⟩
      simp only [boundsOf]
      split <;> exact ⟨_, rfl⟩
    | _ => exact ⟨False.elim, fun _ => rfl⟩
  | null | map => exact ⟨fun _ => ⟨_, rfl⟩, fun h => absurd trivial h⟩
  | _ => exact ⟨False.elim, fun _ => rfl⟩

theorem hingesOn_rangeEntryClauses (entries : Entries Value) :
    HingesOn (rangeEntryClauses entries) (∀ e ∈ entries, IsBounds e.2) := by
  induction entries with
  | nil => exact ⟨fun _ => ⟨[], rfl⟩, fun h => absurd (by simp) h⟩
  | cons e entries ih =>
      obtain ⟨field, entry⟩ := e
      have hhere : HingesOn (rangeClauses field entry) (IsBounds entry) :=
        (hingesOn_boundsOf entry).map
      rw [List.forall_mem_cons]
      constructor
      · rintro ⟨hentry, hrest⟩
        exact exists_bind (hhere.result hentry) fun here =>
          exists_bind (ih.result hrest) fun later => ⟨_, rfl⟩
      · intro hnot
        by_cases hentry : IsBounds entry
        · obtain ⟨here, hok⟩ := hhere.result hentry
          exact bind_eq_error_iff.2 (Or.inr ⟨here, hok,
            bind_eq_error_iff.2 (Or.inl (ih.failure fun hrest => hnot ⟨hentry, hrest⟩))⟩)
        · exact bind_eq_error_iff.2 (Or.inl (hhere.failure hentry))

/-- The entries of what is null or a map. -/
theorem exists_entriesOf {v : Value} (h : v = .null ∨ ∃ es, v = .map es) :
    ∃ entries, entriesOf v = .ok entries ∧
      ∀ p : String × Value → Prop, (∀ e ∈ entries, p e) ↔
        ∀ es : Entries Value, v = .map es → ∀ e ∈ es, p e := by
  rcases h with rfl | ⟨es, rfl⟩
  · exact ⟨[], rfl, by simp⟩
  · exact ⟨es, entriesOf_map es, by simp⟩

theorem hingesOn_compile {q filter range : Value} (hq : q = .null ∨ ∃ s, q = .text s)
    (hfilter : filter = .null ∨ ∃ es, filter = .map es)
    (hrange : range = .null ∨ ∃ es, range = .map es) :
    HingesOn (compile q filter range) (Ranged range) := by
  obtain ⟨filterEntries, hfilterEntries, -⟩ := exists_entriesOf hfilter
  obtain ⟨rangeEntries, hrangeEntries, hall⟩ := exists_entriesOf hrange
  have htext : ∃ s, freeText q = .ok s := by
    rcases hq with rfl | ⟨s, rfl⟩
    · exact ⟨"", rfl⟩
    · unfold freeText
      split <;> exact ⟨_, rfl⟩
  have hclauses : HingesOn (clauses filter range) (Ranged range) := by
    rw [Ranged, ← hall]
    refine hingesOn_bind hfilterEntries (hingesOn_bind hrangeEntries ?_)
    exact (hingesOn_rangeEntryClauses rangeEntries).bind fun _ => ⟨_, rfl⟩
  refine hclauses.map.bind fun filterQuery => exists_bind htext fun text => ?_
  split <;> exact ⟨_, rfl⟩

/-! ### Parameters -/

theorem parameter_of_member? {params v : Value} {name : String} (h : params.member? name = some v) :
    parameter params name = .ok v := by
  rw [parameter, h]

theorem exists_numberPair {params v : Value} {name : String} (h : params.member? name = some v) :
    ∃ pair, numberPair params name = .ok pair := by
  rw [numberPair, parameter_of_member? h]
  cases v <;> exact ⟨_, rfl⟩

theorem exists_sortFields {v : Value} (h : v = .null ∨ ∃ vs, v = .list vs) :
    ∃ texts, sortFields v = .ok texts := by
  rcases h with rfl | ⟨vs, rfl⟩
  · exact ⟨[], rfl⟩
  · unfold sortFields
    split <;> exact ⟨_, rfl⟩

theorem exists_displayed {v : Value} (h : v = .null ∨ ∃ vs, v = .list vs) :
    ∃ texts, displayed v = .ok texts := by
  rcases h with rfl | ⟨vs, rfl⟩
  · exact ⟨[], rfl⟩
  · unfold displayed
    split <;> exact ⟨_, rfl⟩

/-- **Accepted parameters hinge on their range alone.** -/
theorem hingesOn_searchPairs {params : Value} (h : Searchable params) :
    HingesOn (searchPairs params) (Ranged (params.member "range")) := by
  obtain ⟨q, hq, hqform⟩ := h.q
  obtain ⟨filter, hfilter, hfilterform⟩ := h.filter
  obtain ⟨range, hrange, hrangeform⟩ := h.range
  obtain ⟨offset, hoffset⟩ := h.numbers "offset" (by simp)
  obtain ⟨limit, hlimit⟩ := h.numbers "limit" (by simp)
  obtain ⟨page, hpage⟩ := h.numbers "page" (by simp)
  obtain ⟨sort, hsort, hsortform⟩ := h.lists "sort" (by simp)
  obtain ⟨retrieve, hretrieve, hretrieveform⟩ := h.lists "attributes_to_retrieve" (by simp)
  obtain ⟨exclude, hexclude, hexcludeform⟩ := h.lists "attributes_to_exclude" (by simp)
  rw [Value.member, hrange]
  refine hingesOn_bind (parameter_of_member? hq) (hingesOn_bind (parameter_of_member? hfilter)
    (hingesOn_bind (parameter_of_member? hrange) ?_))
  -- the query is the one step that can fail, all later ones only read what is there
  refine (hingesOn_compile hqform hfilterform hrangeform).bind fun query => ?_
  refine exists_bind (exists_numberPair hoffset) fun _ => exists_bind (exists_numberPair hlimit)
    fun _ => exists_bind (exists_numberPair hpage) fun _ => ?_
  refine exists_ok_bind (parameter_of_member? hsort) ?_
  refine exists_bind (exists_sortFields hsortform) fun _ => ?_
  refine exists_ok_bind (parameter_of_member? hretrieve) ?_
  refine exists_bind (exists_displayed hretrieveform) fun _ => ?_
  refine exists_ok_bind (parameter_of_member? hexclude) ?_
  exact exists_bind (exists_displayed hexcludeform) fun _ => ⟨_, rfl⟩

end Query

/-! ## Sending them -/

namespace Client.Operation

open Http Failure Query

/-- **The parameters of a search**: what it is given, if nothing overrides it; else the verdict on
    entries that have all names of the overrides, unless there are no parameters to override. -/
theorem searchParams_cases (params : Value) (overrides : Entries Value) :
    searchParams params overrides = .ok params ∧ params ≠ .null ∧ overrides = [] ∨
      (∃ es : Entries Value, (∀ name, overrides.has name = true → es.has name = true) ∧
        searchParams params overrides = (Record.check .search (.map es)).mapError .refused) ∨
      searchParams params overrides = .error (.misuse .noMember) ∧ params ≠ .null ∧
        ∀ model fields extra given, params ≠ .record model fields extra given := by
  cases params with
  | null => exact Or.inr (Or.inl ⟨overrides, fun _ => id, rfl⟩)
  | record model fields extra given =>
    cases overrides with
    | nil => exact Or.inl ⟨rfl, nofun, rfl⟩
    | cons e overrides =>
      refine Or.inr (Or.inl ⟨Entries.merge _ (e :: overrides), fun name hname => ?_, rfl⟩)
      rw [Entries.has_merge, hname, Bool.or_true]
  | _ =>
    cases overrides with
    | nil => exact Or.inl ⟨rfl, nofun, rfl⟩
    | cons e overrides => exact Or.inr (Or.inr ⟨rfl, nofun, nofun⟩)

/-- A search with parameters whose compilation hinges on a condition is sent if it holds, and fails
    for them if it does not. -/
theorem run_search {x : Executor} {index params accepted : Value} {overrides : Entries Value}
    {p : Prop} (h : searchParams params overrides = .ok accepted)
    (hpairs : HingesOn (searchPairs accepted) p) (outcome : Outcome) :
    (p → (((search index params overrides).plan x).run outcome).Sent) ∧
      (¬p → (((search index params overrides).plan x).run outcome).Fails (.misuse .noMember)) := by
  constructor
  · intro hp
    obtain ⟨pairs, hok⟩ := hpairs.result hp
    have hcall : ∃ c, (search index params overrides).call = .ok c ∧ c.body = .none := by
      refine ⟨_, bind_eq_ok_iff.2 ⟨accepted, h, bind_eq_ok_iff.2 ⟨pairs, ?_, rfl⟩⟩, rfl⟩
      rw [hok]
      rfl
    obtain ⟨c, hc, hbody⟩ := hcall
    exact sent_of_call hc hbody outcome
  · intro hp
    refine fails_of_call ?_ outcome
    refine bind_eq_error_iff.2 (Or.inr ⟨accepted, h, bind_eq_error_iff.2 (Or.inl ?_)⟩)
    rw [hpairs.failure hp]
    rfl

end Client.Operation

namespace Client

open Http Failure Query Operation

/-- **Accepted searches are sent.** A search without parameters or with accepted ones, whatever
    overrides them, is refused and sends nothing, or has accepted parameters. Those are compiled and
    sent in one request exactly if every entry of their range is null, a map or bounds. -/
theorem search_sent {params : Value}
    (hparams : params = .null ∨ ∃ es, Record.check .search (.map es) = .ok params) (x : Executor)
    (index : Value) (overrides : Entries Value) (outcome : Outcome) :
    let trace := ((search index params overrides).plan x).run outcome
    (∃ refusal, searchParams params overrides = .error (.refused refusal) ∧
        trace.Fails (.refused refusal)) ∨
      ∃ es accepted, Record.check .search (.map es) = .ok accepted ∧
        searchParams params overrides = .ok accepted ∧
        ((∃ pairs, searchPairs accepted = .ok pairs) ↔ Ranged (accepted.member "range")) ∧
        (Ranged (accepted.member "range") → trace.Sent) ∧
        (¬Ranged (accepted.member "range") → trace.Fails (.misuse .noMember)) := by
  intro trace
  have haccepted : ∀ es accepted, Record.check .search (.map es) = .ok accepted →
      searchParams params overrides = .ok accepted →
        ((∃ pairs, searchPairs accepted = .ok pairs) ↔ Ranged (accepted.member "range")) ∧
          (Ranged (accepted.member "range") → trace.Sent) ∧
          (¬Ranged (accepted.member "range") → trace.Fails (.misuse .noMember)) := by
    intro es accepted hcheck hok
    have hpairs := hingesOn_searchPairs (searchable_of_check hcheck)
    exact ⟨hpairs.exists_iff, run_search hok hpairs outcome⟩
  rcases searchParams_cases params overrides with ⟨hok, hne, -⟩ | ⟨es, -, heq⟩ | ⟨-, hne, hnot⟩
  · obtain ⟨es, hcheck⟩ := hparams.resolve_left hne
    exact Or.inr ⟨es, params, hcheck, hok, haccepted es params hcheck hok⟩
  · cases hcheck : Record.check .search (.map es) with
    | ok accepted =>
      rw [hcheck] at heq
      exact Or.inr ⟨es, accepted, hcheck, heq, haccepted es accepted hcheck heq⟩
    | error refusal =>
      rw [hcheck] at heq
      exact Or.inl ⟨refusal, heq, fails_of_call (bind_eq_error_iff.2 (Or.inl heq)) outcome⟩
  · obtain ⟨es, hcheck⟩ := hparams.resolve_left hne
    obtain ⟨-, -, -, rfl⟩ := Record.check_map_eq_ok_iff.1 hcheck
    exact absurd rfl (hnot _ _ _ _)

/-- A range of bounds, beside one that is not set, is sent. -/
theorem search_sent_of_bounds :
    ∃ overrides : Entries Value,
      overrides = [("q", .text "dune"),
        ("range", .map [("year", .map [("gte", .int 1960)]), ("pages", .null)])] ∧
      (((search (.text "books") .null overrides).plan rootExecutor).run
        (.interrupted "" "")).Sent := by
  let range : Value := .map [("year", .map [("gte", .int 1960)]), ("pages", .null)]
  have hcheck : ∃ accepted, Record.check .search (.map [("q", .text "dune"), ("range", range)]) =
      .ok accepted ∧ accepted.member "range" = range := ⟨_, rfl, rfl⟩
  obtain ⟨accepted, haccepted, hrange⟩ := hcheck
  have hparams : searchParams .null [("q", .text "dune"), ("range", range)] = .ok accepted := by
    rw [searchParams, haccepted]
    rfl
  have hranged : Ranged range := by
    rintro entries hentries
    obtain rfl := Value.map.inj hentries
    simp [IsBounds]
  rcases search_sent (Or.inl rfl) rootExecutor (.text "books")
      [("q", .text "dune"), ("range", range)] (.interrupted "" "") with
    ⟨refusal, hrefused, -⟩ | ⟨es, other, -, hother, -, hsent, -⟩
  · rw [hparams] at hrefused
    exact nomatch hrefused
  · rw [hparams] at hother
    obtain rfl := Except.ok.inj hother
    exact ⟨_, rfl, hsent (by rwa [hrange])⟩

/-- An entry of a range that is a number is accepted, and nothing is sent for it. -/
theorem search_of_number_fails :
    ∃ accepted, Record.check .search (.map [("range", .map [("year", .int 5)])]) = .ok accepted ∧
      searchPairs accepted = .error .noMember ∧
      ∀ x outcome, (((search (.text "books") .null [("range", .map [("year", .int 5)])]).plan x).run
        outcome).Fails (.misuse .noMember) := by
  refine ⟨_, rfl, rfl, fun x outcome => fails_of_call ?_ outcome⟩
  rfl

end Client

end SearchClient
