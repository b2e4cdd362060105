import Mathlib
import SearchClient.Proofs.Deletion

set_option autoImplicit false

/-! # Parameters read back

A query puts the pairs of one name together, each name where it occurs first, and leaves the pairs of
a name in their order (`Params.grouped_eq_byName`). The parameters of an operation have equal names
together from the start (`Operation.inBlocks_of_call`), so its query reads as exactly them, in their
order (`parameters_read_back`). -/

namespace SearchClient.Http

namespace Params

/-! ## Pairs by name -/

/-- The pairs of each of some names, name after name. -/
def blocks (names : List String) (pairs : List (String × String)) : List (String × String) :=
  names.flatMap fun name => pairs.filter (·.1 = name)

/-- The pairs of each name together, names by their first occurrence. -/
def byName (pairs : List (String × String)) : List (String × String) :=
  blocks (pairs.map (·.1)).eraseDups pairs

theorem blocks_cons (name : String) (names : List String) (pairs : List (String × String)) :
    blocks (name :: names) pairs = pairs.filter (·.1 = name) ++ blocks names pairs :=
  List.flatMap_cons

theorem mem_blocks {names : List String} {pairs : List (String × String)} {p : String × String} :
    p ∈ blocks names pairs ↔ p ∈ pairs ∧ p.1 ∈ names := by
  simp only [blocks, List.mem_flatMap, List.mem_filter, decide_eq_true_eq]
  constructor
  · rintro ⟨name, hname, hp, rfl⟩
    exact ⟨hp, hname⟩
  · rintro ⟨hp, hname⟩
    exact ⟨p.1, hname, hp, rfl⟩

/-- Pairs of other names change nothing about blocks. -/
theorem blocks_congr {names : List String} {ps qs : List (String × String)}
    (h : ∀ name ∈ names, ps.filter (·.1 = name) = qs.filter (·.1 = name)) :
    blocks names ps = blocks names qs :=
  List.flatMap_congr h

theorem filter_eq_nil {pairs : List (String × String)} {name : String}
    (h : name ∉ pairs.map (·.1)) : pairs.filter (·.1 = name) = [] := by
  refine List.filter_eq_nil_iff.2 fun p hp hname => ?_
  exact h (List.mem_map.2 ⟨p, hp, by simpa using hname⟩)

theorem filter_blocks {names : List String} (hnames : names.Nodup) (pairs : List (String × String))
    (name : String) : (blocks names pairs).filter (·.1 = name) =
      if name ∈ names then pairs.filter (·.1 = name) else [] := by
  induction names with
  | nil => rfl
  | cons other names ih =>
      obtain ⟨hnew, hnames⟩ := List.nodup_cons.1 hnames
      rw [blocks_cons, List.filter_append, ih hnames, List.filter_filter]
      by_cases hname : name = other
      · simp [hname, hnew]
      · have hnone : pairs.filter (fun p => decide (p.1 = name) && decide (p.1 = other)) = [] := by
          refine List.filter_eq_nil_iff.2 fun p _ hboth => ?_
          simp only [Bool.and_eq_true, decide_eq_true_eq] at hboth
          exact hname (hboth.1.symm.trans hboth.2)
        simp [hnone, hname]

/-- The pairs of a name stay in their order. -/
theorem filter_byName (pairs : List (String × String)) (name : String) :
    (byName pairs).filter (·.1 = name) = pairs.filter (·.1 = name) := by
  rw [byName, filter_blocks (nodup_eraseDups _)]
  split
  · rfl
  · next hnew => exact (filter_eq_nil fun hmem => hnew (List.mem_eraseDups.2 hmem)).symm

/-! ## Grouping -/

theorem insertGrouped_append {p : String × String} {front : List (String × String)}
    (hfront : ∀ q ∈ front, q.1 ≠ p.1) (rest : List (String × String)) :
    insertGrouped p (front ++ rest) = front ++ insertGrouped p rest := by
  induction front with
  | nil => rfl
  | cons q front ih =>
      obtain ⟨hq, hfront⟩ := List.forall_mem_cons.1 hfront
      simp [insertGrouped, hq, ih hfront]

/-- A pair goes behind the block of its name. -/
theorem insertGrouped_block {p : String × String} {block rest : List (String × String)}
    (hne : block ≠ []) (hblock : ∀ q ∈ block, q.1 = p.1) (hrest : ∀ q ∈ rest, q.1 ≠ p.1) :
    insertGrouped p (block ++ rest) = block ++ p :: rest := by
  induction block with
  | nil => exact absurd rfl hne
  | cons q block ih =>
      obtain ⟨hq, hblock⟩ := List.forall_mem_cons.1 hblock
      cases block with
      | nil =>
        have hlast : rest.any (·.1 = p.1) = false := by
          simpa using hrest
        rw [List.cons_append, List.nil_append, insertGrouped, hlast]
        simp [hq]
      | cons q' block =>
        have hmore : (q' :: block ++ rest).any (·.1 = p.1) = true := by
          rw [List.cons_append, List.any_cons, hblock q' (by simp)]
          simp
        rw [List.cons_append, insertGrouped, hmore, ih (List.cons_ne_nil _ _) hblock]
        simp

/-- A further pair goes into the block of its name. -/
theorem insertGrouped_blocks {p : String × String} {pairs : List (String × String)}
    (hold : p.1 ∈ pairs.map (·.1)) {names : List String} (hnames : names.Nodup)
    (hmem : p.1 ∈ names) :
    insertGrouped p (blocks names pairs) = blocks names (pairs ++ [p]) := by
  induction names with
  | nil => exact absurd hmem List.not_mem_nil
  | cons name names ih =>
      obtain ⟨hnew, hnames⟩ := List.nodup_cons.1 hnames
      rw [blocks_cons, blocks_cons]
      by_cases hname : p.1 = name
      · -- the block is here, and no later one has the name
        have hne : pairs.filter (·.1 = name) ≠ [] := by
          obtain ⟨q, hq, hqname⟩ := List.mem_map.1 hold
          exact List.ne_nil_of_mem (List.mem_filter.2 ⟨hq, by simp [hqname, hname]⟩)
        have hlater : ∀ q ∈ blocks names pairs, q.1 ≠ p.1 := by
          intro q hq hqname
          exact hnew (hname ▸ hqname ▸ (mem_blocks.1 hq).2)
        have hkept : blocks names (pairs ++ [p]) = blocks names pairs := by
          refine blocks_congr fun other hother => ?_
          have hdifferent : p.1 ≠ other := fun heq => hnew (hname ▸ heq ▸ hother)
          simp [hdifferent]
        rw [insertGrouped_block hne (by simp [hname]) hlater, hkept]
        simp [hname]
      · have hfront : ∀ q ∈ pairs.filter (·.1 = name), q.1 ≠ p.1 := by
          intro q hq hqname
          have hsame : q.1 = name := by simpa using (List.mem_filter.1 hq).2
          exact hname (hqname.symm.trans hsame)
        have hlater : p.1 ∈ names := (List.mem_cons.1 hmem).resolve_left hname
        rw [insertGrouped_append hfront, ih hnames hlater]
        simp [hname]

/-- **Grouping** puts the pairs of each name together, names by their first occurrence. -/
theorem grouped_eq_byName (pairs : List (String × String)) : grouped pairs = byName pairs := by
  induction pairs using List.reverseRecOn with
  | nil => rfl
  | append_singleton pairs p ih =>
      have hstep : grouped (pairs ++ [p]) = insertGrouped p (grouped pairs) := by
        simp [grouped]
      rw [hstep, ih, byName, byName, List.map_append, List.map_singleton, eraseDups_concat]
      split
      · next hold =>
        exact insertGrouped_blocks hold (nodup_eraseDups _) (List.mem_eraseDups.2 hold)
      · next hnew =>
        have hnone : ∀ q ∈ byName pairs, q.1 ≠ p.1 := fun q hq hqname =>
          hnew (hqname ▸ List.mem_eraseDups.1 (mem_blocks.1 hq).2)
        have hkept : blocks (pairs.map (·.1)).eraseDups (pairs ++ [p]) = byName pairs := by
          refine blocks_congr fun name hname => ?_
          have hdifferent : p.1 ≠ name := fun heq => hnew (heq ▸ List.mem_eraseDups.1 hname)
          simp [hdifferent]
        calc insertGrouped p (byName pairs) = byName pairs ++ [p] := by
              simpa [insertGrouped] using insertGrouped_append hnone []
          _ = blocks ((pairs.map (·.1)).eraseDups ++ [p.1]) (pairs ++ [p]) := by
              rw [blocks, List.flatMap_append, ← blocks, hkept]
              simp [filter_eq_nil hnew]

/-! ## Pairs that are together already -/

/-- Pairs in blocks: those of each name together, in the order of the names. -/
def InBlocks {α : Type} : List String → List (String × α) → Prop
  | [], pairs => pairs = []
  | name :: names, pairs =>
    ∃ block rest, pairs = block ++ rest ∧ (∀ p ∈ block, p.1 = name) ∧ InBlocks names rest

theorem InBlocks.last {α : Type} {name : String} {block : List (String × α)}
    (h : ∀ p ∈ block, p.1 = name) : InBlocks [name] block :=
  ⟨block, [], (List.append_nil block).symm, h, rfl⟩

theorem InBlocks.mem {α : Type} {names : List String} {pairs : List (String × α)}
    (h : InBlocks names pairs) {p : String × α} (hp : p ∈ pairs) : p.1 ∈ names := by
  induction names generalizing pairs with
  | nil =>
      rw [h] at hp
      exact absurd hp List.not_mem_nil
  | cons name names ih =>
      obtain ⟨block, rest, rfl, hblock, hrest⟩ := h
      rcases List.mem_append.1 hp with hhere | hlater
      · exact hblock p hhere ▸ List.mem_cons_self
      · exact List.mem_cons_of_mem name (ih hrest hlater)

theorem InBlocks.map {α β : Type} {names : List String} {pairs : List (String × α)}
    (h : InBlocks names pairs) (f : α → β) :
    InBlocks names (pairs.map fun (name, a) => (name, f a)) := by
  induction names generalizing pairs with
  | nil =>
      rw [h]
      rfl
  | cons name names ih =>
      obtain ⟨block, rest, rfl, hblock, hrest⟩ := h
      refine ⟨_, _, List.map_append, fun p hp => ?_, ih hrest⟩
      obtain ⟨q, hq, rfl⟩ := List.mem_map.1 hp
      exact hblock q hq

/-- Pairs of one name in front of pairs without it stay there. -/
theorem byName_block_append {p : String × String} {block rest : List (String × String)}
    (hblock : ∀ q ∈ block, q.1 = p.1) (hapart : p.1 ∉ rest.map (·.1)) :
    byName (p :: block ++ rest) = p :: block ++ byName rest := by
  have horder : ((p :: block ++ rest).map (·.1)).eraseDups =
      p.1 :: (rest.map (·.1)).eraseDups := by
    have hhere : (block.map (·.1)).filter (fun name => !name == p.1) = [] := by
      refine List.filter_eq_nil_iff.2 fun name hname => ?_
      obtain ⟨q, hq, rfl⟩ := List.mem_map.1 hname
      simp [hblock q hq]
    have hlater : (rest.map (·.1)).filter (fun name => !name == p.1) = rest.map (·.1) := by
      refine List.filter_eq_self.2 fun name hname => ?_
      have hdifferent : name ≠ p.1 := fun heq => hapart (heq ▸ hname)
      simp [hdifferent]
    rw [List.cons_append, List.map_cons, List.eraseDups_cons, List.map_append,
      List.filter_append, hhere, hlater, List.nil_append]
  have hfirst : (p :: block ++ rest).filter (·.1 = p.1) = p :: block := by
    rw [List.filter_append, filter_eq_nil hapart, List.append_nil]
    exact List.filter_eq_self.2 (List.forall_mem_cons.2 ⟨by simp, fun q hq => by simp [hblock q hq]⟩)
  have hothers : blocks (rest.map (·.1)).eraseDups (p :: block ++ rest) = byName rest := by
    refine blocks_congr fun name hname => ?_
    have hdifferent : p.1 ≠ name := fun heq => hapart (heq ▸ List.mem_eraseDups.1 hname)
    rw [List.filter_append, filter_eq_nil, List.nil_append]
    intro hmem
    obtain ⟨q, hq, rfl⟩ := List.mem_map.1 hmem
    rcases List.mem_cons.1 hq with rfl | hq
    · exact hdifferent rfl
    · exact hdifferent (hblock q hq).symm
  rw [byName, horder, blocks_cons, hfirst, hothers]

/-- **Pairs in blocks** stay as they are. -/
theorem byName_of_inBlocks {names : List String} (hnodup : names.Nodup)
    {pairs : List (String × String)} (h : InBlocks names pairs) : byName pairs = pairs := by
  induction names generalizing pairs with
  | nil =>
      rw [h]
      rfl
  | cons name names ih =>
      obtain ⟨hnew, hnames⟩ := List.nodup_cons.1 hnodup
      obtain ⟨block, rest, rfl, hblock, hrest⟩ := h
      cases block with
      | nil => exact ih hnames hrest
      | cons p block =>
        obtain ⟨rfl, hblock⟩ := List.forall_mem_cons.1 hblock
        have hapart : p.1 ∉ rest.map (·.1) := by
          intro hmem
          obtain ⟨q, hq, hqname⟩ := List.mem_map.1 hmem
          exact hnew (hqname ▸ hrest.mem hq)
        rw [byName_block_append hblock hapart, ih hnames hrest]

end Params

/-! ## Queries -/

namespace Params

/-- What gathering pairs by their names does to them. -/
structure Gathers (pairs gathered : List (String × String)) : Prop where
  perm : gathered.Perm pairs
  stable : ∀ name, gathered.filter (·.1 = name) = pairs.filter (·.1 = name)
  /-- Names come in the order of their first occurrences, each with all its pairs. -/
  blocks_eq : gathered = blocks (pairs.map (·.1)).eraseDups pairs

theorem gathers_byName (pairs : List (String × String)) : Gathers pairs (byName pairs) where
  perm := grouped_eq_byName pairs ▸ grouped_perm pairs
  stable := filter_byName pairs
  blocks_eq := rfl

/-- The query of parameters reads as their pairs by name. -/
theorem read_query {ps : Params} (hne : ps ≠ []) :
    ∃ query, ps.query? = some query ∧ Form.read query = byName ps.texts := by
  have hsome : ps.isEmpty = false := List.isEmpty_eq_false_iff.2 hne
  refine ⟨_, by rw [query?, hsome, if_neg Bool.false_ne_true], ?_⟩
  rw [Form.read_formText, grouped_eq_byName]

end Params

namespace Address

/-- The pairs that the query of an address reads as, if there is a query. -/
def pairs? (a : Address) : Option (List (String × String)) :=
  a.query.map Form.read

/-- A path without a question mark gets no query, behind a base or as an address of its own. -/
theorem queryless_of_resolve? {base a : Address} {path : String} (hbase : base.IsBase)
    (hpath : '?' ∉ path.toList) (h : base.resolve? path = some a) : a.query = none := by
  obtain ⟨own, hown, h⟩ := Option.bind_eq_some_iff.1 h
  have hread := isRead_of_parse? hpath hown
  split at h
  · exact Option.some.inj h ▸ hread.queryless
  · refine (withTarget?_eq_some (notMem_of_kept fun c hc => ?_) h).2.1
    rcases List.mem_append.1 hc with hfront | hback
    · exact hbase.target_kept c hfront
    · exact hread.target_kept c ((List.dropWhile_sublist _).subset hback)

end Address

namespace Executor

theorem pairs_of_address {x : Executor} {path : String} {params : Params} {a : Address}
    (h : x.address? path params = some a) (hne : params ≠ []) :
    a.pairs? = some (Params.byName params.texts) := by
  obtain ⟨query, hquery, hread⟩ := Params.read_query hne
  rw [Address.pairs?, query_of_address h hquery, Option.map_some, hread]

theorem queryless_of_address {x : Executor} {path : String} {a : Address} (hbase : x.base.IsBase)
    (hpath : '?' ∉ path.toList) (h : x.address? path [] = some a) : a.pairs? = none := by
  obtain ⟨resolved, hresolved, h⟩ := Option.bind_eq_some_iff.1 h
  obtain rfl : resolved = a := Option.some.inj h
  rw [Address.pairs?, Address.queryless_of_resolve? hbase hpath hresolved, Option.map_none]

theorem address_of_mem {x : Executor} {method path : String} {params : Params} {body : Body}
    {extra : Entries Value} {outcome : Outcome} {r : Request}
    (h : r ∈ ((x.plan method path params body extra).run outcome).requests) :
    ∃ a, x.address? path params = some a ∧ r.url = String.ofList a.render := by
  obtain ⟨e, he, rfl⟩ := Plan.mem_requests_run.1 h
  obtain ⟨text, -, hrequest, -⟩ := plan_exchange he
  obtain ⟨a, ha, -, hurl⟩ := request_eq_ok hrequest
  exact ⟨a, ha, hurl⟩

end Executor

end SearchClient.Http

namespace SearchClient

open Http Http.Params

/-! ## Parameters of operations -/

namespace Query

theorem names_repeated (name : String) (texts : List String) :
    ∀ p ∈ repeated name texts, p.1 = name := by
  intro p hp
  obtain ⟨s, -, rfl⟩ := List.mem_map.1 hp
  rfl

theorem names_numberPair {params : Value} {name : String} {pairs : List (String × String)}
    (h : numberPair params name = .ok pairs) : ∀ p ∈ pairs, p.1 = name := by
  obtain ⟨v, -, h⟩ := bind_eq_ok_iff.1 h
  intro p hp
  split at h
  · obtain rfl := Except.ok.inj h
    exact absurd hp List.not_mem_nil
  · obtain rfl := Except.ok.inj h
    rw [List.mem_singleton.1 hp]

/-- The names of the parameters of a search, in their order. -/
def searchNames : List String :=
  ["q", "offset", "limit", "page", "sort[]", "attributesToRetrieve[]", "attributesToExclude[]"]

theorem inBlocks_of_searchPairs {params : Value} {pairs : List (String × String)}
    (h : searchPairs params = .ok pairs) : InBlocks searchNames pairs := by
  obtain ⟨q, -, h⟩ := bind_eq_ok_iff.1 h
  obtain ⟨filter, -, h⟩ := bind_eq_ok_iff.1 h
  obtain ⟨range, -, h⟩ := bind_eq_ok_iff.1 h
  obtain ⟨query, -, h⟩ := bind_eq_ok_iff.1 h
  obtain ⟨offset, hoffset, h⟩ := bind_eq_ok_iff.1 h
  obtain ⟨limit, hlimit, h⟩ := bind_eq_ok_iff.1 h
  obtain ⟨page, hpage, h⟩ := bind_eq_ok_iff.1 h
  obtain ⟨_, -, h⟩ := bind_eq_ok_iff.1 h
  obtain ⟨sort, -, h⟩ := bind_eq_ok_iff.1 h
  obtain ⟨_, -, h⟩ := bind_eq_ok_iff.1 h
  obtain ⟨retrieve, -, h⟩ := bind_eq_ok_iff.1 h
  obtain ⟨_, -, h⟩ := bind_eq_ok_iff.1 h
  obtain ⟨exclude, -, h⟩ := bind_eq_ok_iff.1 h
  obtain rfl := Except.ok.inj h
  simp only [List.append_assoc]
  refine ⟨_, _, rfl, ?_, _, _, rfl, names_numberPair hoffset, _, _, rfl, names_numberPair hlimit,
    _, _, rfl, names_numberPair hpage, _, _, rfl, names_repeated _ _, _, _, rfl,
    names_repeated _ _, InBlocks.last (names_repeated _ _)⟩
  simp

end Query

namespace Client

namespace Operation

/-- **Operations keep equal names together.** The parameters of an operation are in blocks. -/
theorem inBlocks_of_call {op : Operation} {c : Call} (h : op.call = .ok c) :
    ∃ names : List String, names.Nodup ∧ InBlocks names c.params := by
  have hpresent (name : String) (p : String × Value) (v : Value) :
      InBlocks [p.1, name] (p :: present name v) :=
    ⟨[p], _, rfl, by simp, InBlocks.last fun _ hq => mem_present hq⟩
  cases op with
  | createIndex id primaryKey =>
    obtain rfl := Except.ok.inj h
    exact ⟨["id", "primaryKey"], by decide, hpresent _ _ _⟩
  | addDocuments index documents format primaryKey =>
    obtain ⟨lines, -, h⟩ := bind_eq_ok_iff.1 h
    obtain rfl := Except.ok.inj h
    exact ⟨["format", "primaryKey"], by decide, hpresent _ _ _⟩
  | deleteDocuments index ids filter =>
    obtain ⟨idParams, hids, h⟩ := bind_eq_ok_iff.1 h
    obtain ⟨filterParams, hfilter, h⟩ := bind_eq_ok_iff.1 h
    obtain rfl := Except.ok.inj h
    exact ⟨["ids[]", "filter"], by decide, idParams, filterParams, rfl,
      (deleteIds_eq_ok (mapError_eq_ok_iff.1 hids)).1,
      InBlocks.last (deleteFilter_eq_ok (mapError_eq_ok_iff.1 hfilter)).1⟩
  | search index params overrides =>
    obtain ⟨accepted, -, h⟩ := bind_eq_ok_iff.1 h
    obtain ⟨pairs, hpairs, h⟩ := bind_eq_ok_iff.1 h
    obtain rfl := Except.ok.inj h
    exact ⟨Query.searchNames, by decide,
      (Query.inBlocks_of_searchPairs (mapError_eq_ok_iff.1 hpairs)).map Value.text⟩
  | updateIndex | updateDocument | createIngress =>
    obtain ⟨data, -, h⟩ := bind_eq_ok_iff.1 h
    obtain rfl := Except.ok.inj h
    exact ⟨[], List.nodup_nil, rfl⟩
  | _ =>
    obtain rfl := Except.ok.inj h
    exact ⟨[], List.nodup_nil, rfl⟩

theorem byName_texts {op : Operation} {c : Call} (h : op.call = .ok c) :
    byName c.params.texts = c.params.texts := by
  obtain ⟨names, hnames, hblocks⟩ := inBlocks_of_call h
  exact byName_of_inBlocks hnames (hblocks.map sentText)

theorem notMem_path (op : Operation) : '?' ∉ op.path.toList := by
  intro hmem
  exact absurd (isPathChar_of_mem_path hmem) (by decide)

end Operation

/-- **Parameters read back.** The query of an operation reads as exactly the pairs of its call, in
    their order; and whatever parameters a request is given, its query reads as their pairs gathered
    by name. Without parameters there is no query, unless the base or the path brings one. -/
theorem parameters_read_back {baseUrl : String} {apiKey : Option String} {x : Executor}
    (hx : (Connection.of baseUrl apiKey).executor = .ok x) :
    (∀ (op : Operation) (outcome : Outcome) (r : Request),
      r ∈ ((op.plan x).run outcome).requests →
        ∃ c a, op.call = .ok c ∧ op.Sends x r a ∧
          (c.params ≠ [] → a.pairs? = some c.params.texts) ∧
          (c.params = [] → '?' ∉ baseUrl.toList → a.pairs? = none)) ∧
    ∀ (method path : String) (params : Params) (body : Body) (extra : Entries Value)
      (outcome : Outcome) (r : Request),
      r ∈ ((x.plan method path params body extra).run outcome).requests →
        ∃ a, x.address? path params = some a ∧ r.url = String.ofList a.render ∧
          (params ≠ [] → ∃ pairs, a.pairs? = some pairs ∧ Gathers params.texts pairs) ∧
          (params = [] → '?' ∉ baseUrl.toList → '?' ∉ path.toList → a.pairs? = none) := by
  constructor
  · intro op outcome r hr
    obtain ⟨a, ha⟩ := Operation.sends_of_mem hr
    obtain ⟨c, hc, haddress⟩ := ha.call
    refine ⟨c, a, hc, ha, fun hne => ?_, fun hnil hquery => ?_⟩
    · rw [Executor.pairs_of_address haddress hne, Operation.byName_texts hc]
    · rw [hnil] at haddress
      exact Executor.queryless_of_address (isBase_of_executor hx hquery) op.notMem_path haddress
  · intro method path params body extra outcome r hr
    obtain ⟨a, ha, hurl⟩ := Executor.address_of_mem hr
    refine ⟨a, ha, hurl, fun hne => ?_, fun hnil hquery hpath => ?_⟩
    · exact ⟨_, Executor.pairs_of_address ha hne, gathers_byName params.texts⟩
    · rw [hnil] at ha
      exact Executor.queryless_of_address (isBase_of_executor hx hquery) hpath ha

/-- Ids with signs of their own and an empty one read back in front of the filter, and of pairs that
    take turns those of one name are gathered. -/
theorem parameters_read_back_of_hard_ids :
    ∃ x, (Connection.of "http://bright.test" none).executor = .ok x ∧
      (∃ (r : Request) (a : Address), r ∈ (((Operation.deleteDocuments (.text "books")
          (.list [.text "a&b=c", .text "", .text "+%é"]) (.text "x y")).plan x).run
            (.interrupted "" "")).requests ∧
        r.url = "http://bright.test/indexes/books/documents" ++
          "?ids%5B%5D=a%26b%3Dc&ids%5B%5D=&ids%5B%5D=%2B%25%C3%A9&filter=x+y" ∧
        r.url = String.ofList a.render ∧
        a.pairs? = some [("ids[]", "a&b=c"), ("ids[]", ""), ("ids[]", "+%é"), ("filter", "x y")]) ∧
      ∃ (r : Request) (a : Address), r ∈ ((x.plan "GET" "/log" [("a", .int 1), ("b", .null),
          ("a", .bool true)] .none []).run (.interrupted "" "")).requests ∧
        r.url = String.ofList a.render ∧ a.pairs? = some [("a", "1"), ("a", "true"), ("b", "")] := by
  let ids : Value := .list [.text "a&b=c", .text "", .text "+%é"]
  let op := Operation.deleteDocuments (.text "books") ids (.text "x y")
  let params : Params := [("a", .int 1), ("b", .null), ("a", .bool true)]
  have hsent : ((op.plan rootExecutor).run (.interrupted "" "")).requests.map (·.url) =
      ["http://bright.test/indexes/books/documents" ++
        "?ids%5B%5D=a%26b%3Dc&ids%5B%5D=&ids%5B%5D=%2B%25%C3%A9&filter=x+y"] := by
    decide +kernel
  have hlogged : ((rootExecutor.plan "GET" "/log" params .none []).run
      (.interrupted "" "")).requests.map (·.url) =
        ["http://bright.test/log?a=1&a=true&b="] := by
    decide +kernel
  obtain ⟨r, hmem, hurl⟩ := Trace.exists_request hsent
  obtain ⟨r', hmem', -⟩ := Trace.exists_request hlogged
  obtain ⟨hoperations, hrequests⟩ := parameters_read_back executor_root
  obtain ⟨c, a, hc, ha, hread, -⟩ := hoperations op _ r hmem
  obtain ⟨a', -, hurl', hread', -⟩ := hrequests _ _ params _ _ _ r' hmem'
  have hcall : op.call.toOption.map (·.params.texts) =
      some [("ids[]", "a&b=c"), ("ids[]", ""), ("ids[]", "+%é"), ("filter", "x y")] := by
    decide +kernel
  rw [hc] at hcall
  have htexts : c.params.texts =
      [("ids[]", "a&b=c"), ("ids[]", ""), ("ids[]", "+%é"), ("filter", "x y")] :=
    Option.some.inj hcall
  have hne : c.params ≠ [] := by
    intro hnil
    rw [hnil] at htexts
    exact nomatch htexts
  obtain ⟨pairs, hpairs, hgathers⟩ := hread' (List.cons_ne_nil _ _)
  have hgathered : pairs = [("a", "1"), ("a", "true"), ("b", "")] := by
    rw [hgathers.blocks_eq]
    decide +kernel
  exact ⟨rootExecutor, executor_root, ⟨r, a, hmem, hurl, ha.url, htexts ▸ hread hne⟩,
    r', a', hmem', hurl', hgathered ▸ hpairs⟩

end Client

end SearchClient
