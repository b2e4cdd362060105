import Mathlib
import SearchClient.Proofs.Addressing

set_option autoImplicit false

/-! # Confinement to the base

Whatever ids an operation is given, its request goes below the path of the base: dots in an id lead
up, but never further than to the word that stands in front of the id (`Part.Guarded`). All else of
an address is not up to ids at all: the place is that of the base, and the query that of the
parameters (`confined_to_base`). -/

namespace SearchClient.Http.Address

open Text

/-! ## Walking below a base -/

/-- Behind a word of its own a segment leads no further up than to that word. -/
theorem prefix_walkStep_concat (walked : List (List Char)) (word segment : List Char) :
    walked <+: walkStep (walked ++ [word]) segment := by
  unfold walkStep
  split_ifs with hone htwo hroot
  · exact List.prefix_append _ _
  · exact List.prefix_append _ _
  · rw [List.dropLast_concat]
  · rw [List.append_assoc]
    exact List.prefix_append _ _

/-! ## Places -/

/-- What an address has besides its path and its query. -/
def site (a : Address) : Address :=
  { a with path := [], query := none }

theorem site_of_reread? {a b : Address} (h : a.reread? = some b) :
    a.site.reread? = some b.site := by
  obtain ⟨host, hhost, rfl⟩ := Option.map_eq_some_iff.1 h
  exact Option.map_eq_some_iff.2 ⟨host, hhost, rfl⟩

theorem site_of_withPath? {a b : Address} {path : List Char} {query : Option (List Char)}
    (h : a.withPath? path query = some b) : b.site = a.site := by
  rw [withPath?_eq_some h]
  rfl

theorem site_of_withTarget? {a b : Address} {target : List Char}
    (h : a.withTarget? target = some b) : a.site.reread? = some b.site := by
  obtain ⟨c, hc, h⟩ := Option.bind_eq_some_iff.1 h
  have hsame : b.site = c.site := by
    split at h
    · split at h
      · exact nomatch h
      · exact site_of_withPath? h
    · split at h
      · exact nomatch h
      · exact site_of_withPath? h
  rw [hsame]
  exact site_of_reread? hc

theorem site_of_withQuery? {a b : Address} {query : List Char} (h : a.withQuery? query = some b) :
    a.site.reread? = some b.site := by
  obtain ⟨c, hc, h⟩ := Option.bind_eq_some_iff.1 h
  have hsite := site_of_reread? hc
  split at h
  · exact nomatch h
  · rw [← Option.some.inj h]
    exact hsite

theorem splitTail_fragment {cs : List Char} (h : '#' ∉ cs) : (splitTail cs).2.2 = none := by
  simp only [splitTail, (cut?_eq_none_iff '#' cs).2 h]
  split <;> rfl

theorem fragment_of_parse? {s : String} {a : Address} (hhash : '#' ∉ s.toList)
    (h : parse? s = some a) : a.fragment = none := by
  unfold parse? at h
  simp only [] at h
  split_ifs at h with hlong
  have hrest : '#' ∉ (splitPlace (splitScheme s.toList).2).2 :=
    fun hmem => hhash (mem_of_mem_splitScheme (mem_of_mem_splitPlace hmem))
  split at h
  · rw [withPath?_eq_some h]
    exact splitTail_fragment hrest
  · exact nomatch h

/-- Reading a host once more leaves the scheme, the name and password, and the fragment alone. -/
theorem reread?_eq_some {a b : Address} (h : a.reread? = some b) :
    b.scheme = a.scheme ∧ b.userinfo = a.userinfo ∧ b.fragment = a.fragment := by
  obtain ⟨host, -, rfl⟩ := Option.map_eq_some_iff.1 h
  exact ⟨rfl, rfl, rfl⟩

theorem fragment_of_asBase? {a base : Address} (h : a.asBase? = some base) :
    base.fragment = a.fragment := by
  unfold asBase? at h
  split at h
  · rw [← Option.some.inj h]
  · exact (reread?_eq_some (site_of_withTarget? h)).2.2

end SearchClient.Http.Address

namespace SearchClient.Http.Executor

open Address

/-- The place of requests with some parameters: that of the base as it is read again, and once more
    where a query is put in. -/
def site? (x : Executor) (params : Params) : Option Address :=
  x.base.site.reread?.bind fun site => if params.isEmpty then some site else site.reread?

/-- Where parameters are put behind a path, the place is that of the parameters. -/
theorem site_of_address? {x : Executor} {path : String} {params : Params} {a : Address} {c : Char}
    {cs : List Char} (hpath : path.toList = '/' :: c :: cs) (hc : c ≠ '/')
    (hkept : ∀ d ∈ path.toList, isPathChar d = true) (h : x.address? path params = some a) :
    x.site? params = some a.site := by
  obtain ⟨resolved, hresolved, h⟩ := Option.bind_eq_some_iff.1 h
  have hsite := site_of_withTarget? (withTarget?_of_resolve? hpath hc hkept hresolved)
  rw [site?, hsite, Option.bind_some]
  cases params with
  | nil =>
    rw [← Option.some.inj h]
    rfl
  | cons p params => exact site_of_withQuery? h

/-- The place of requests is in the scheme of the base, with its name and password. -/
theorem site?_eq_some {x : Executor} {params : Params} {site : Address}
    (h : x.site? params = some site) : site.scheme = x.base.scheme ∧
      site.userinfo = x.base.userinfo ∧ site.fragment = x.base.fragment := by
  obtain ⟨first, hfirst, h⟩ := Option.bind_eq_some_iff.1 h
  obtain ⟨hscheme, huserinfo, hfragment⟩ := reread?_eq_some hfirst
  split at h
  · obtain rfl := Option.some.inj h
    exact ⟨hscheme, huserinfo, hfragment⟩
  · obtain ⟨hscheme', huserinfo', hfragment'⟩ := reread?_eq_some h
    exact ⟨hscheme'.trans hscheme, huserinfo'.trans huserinfo, hfragment'.trans hfragment⟩

/-- A base that reads back as itself is the place of all requests. -/
theorem site?_of_stable {x : Executor} (h : x.base.reread? = some x.base) (params : Params) :
    x.site? params = some x.base.site := by
  have hsite := site_of_reread? h
  rw [site?, hsite, Option.bind_some, hsite]
  split <;> rfl

end SearchClient.Http.Executor

namespace SearchClient.Client

open Http Http.Address Text Text.Percent

/-! ## Words in front of ids -/

/-- Parts in which every id stands behind a word of its own. -/
inductive Part.Guarded : List Part → Prop
  | nil : Guarded []
  | word {s : String} {ps : List Part} (hs : isDots s.toList = false) (hps : Guarded ps) :
      Guarded (.word s :: ps)
  | wordId {s : String} {v : Value} {ps : List Part} (hs : isDots s.toList = false)
      (hps : Guarded ps) : Guarded (.word s :: .id v :: ps)

/-- **Guarded parts lead nowhere up**: a walk along them keeps what it has collected before. -/
theorem Part.Guarded.prefix_walk {ps : List Part} (h : Guarded ps) (walked : List (List Char)) :
    walked <+: (ps.map fun p => p.segment.toList).foldl walkStep walked := by
  induction h generalizing walked with
  | nil => exact List.prefix_rfl
  | @word s ps hs _ ih =>
      rw [List.map_cons, List.foldl_cons, Part.segment, walkStep_of_isDots_false walked hs]
      exact (List.prefix_append _ _).trans (ih _)
  | @wordId s v ps hs _ ih =>
      rw [List.map_cons, List.foldl_cons, Part.segment, walkStep_of_isDots_false walked hs,
        List.map_cons, List.foldl_cons]
      -- at the most the id takes the word away, and what was collected before is still there
      exact (prefix_walkStep_concat walked s.toList _).trans (ih _)

namespace Operation

/-- Every id of an operation stands behind a word. -/
theorem guarded_parts (op : Operation) : Part.Guarded op.parts := by
  have hindexes : isDots "indexes".toList = false := by decide
  have hdocuments : isDots "documents".toList = false := by decide
  have hsearches : isDots "searches".toList = false := by decide
  have hingresses : isDots "ingresses".toList = false := by decide
  cases op with
  | createIndex => exact .word hindexes .nil
  | updateIndex | deleteIndex | getIndex | indexExists => exact .wordId hindexes .nil
  | addDocuments | deleteDocuments => exact .wordId hindexes (.word hdocuments .nil)
  | updateDocument | deleteDocument => exact .wordId hindexes (.wordId hdocuments .nil)
  | search => exact .wordId hindexes (.word hsearches .nil)
  | listIngresses | createIngress => exact .wordId hindexes (.word hingresses .nil)
  | getIngress | ingressExists | updateIngress | deleteIngress =>
    exact .wordId hindexes (.wordId hingresses .nil)

/-- The segments of a path: those of its base, and whatever the operation leads to below them. -/
theorem prefix_path {op : Operation} {x : Executor} {params : Params} {a : Address}
    (hbase : x.base.IsBase) (h : x.address? op.path params = some a) :
    (splitOn '/' x.base.target).dropLast <+: splitOn '/' a.path := by
  obtain ⟨front, hslash⟩ := hbase.slash
  have hfront : (splitOn '/' x.base.target).dropLast = splitOn '/' front := by
    rw [hslash, splitOn_append_cons]
    exact List.dropLast_concat
  have hsegments := splitOn_fullPath op hslash
  -- the segments of the base are encoded already, so they stay as they are
  have hkept : (splitOn '/' front).map (encodeBy isPathChar) = splitOn '/' front := by
    rw [← splitOn_encodeBy (by decide) (by decide), encodeBy_eq_self]
    exact fun c hc => hbase.target_kept c (hslash ▸ List.mem_append_left _ hc)
  rw [hfront, (parts_of_address hbase h).2, splitOn_encodeBy (by decide) (by decide), ← hkept]
  refine List.IsPrefix.map _ ?_
  split
  · next hrooted =>
    have hstill : ∀ s ∈ splitOn '/' front, isDots s = false := by
      intro s hs
      refine hbase.target_still hrooted s ?_
      rw [hslash, splitOn_append_cons]
      exact List.mem_append_left _ hs
    have hwalked : splitOn '/' front <+: (splitOn '/' (op.fullPath x.base)).foldl walkStep [] := by
      rw [hsegments, List.foldl_append, foldl_walkStep [] hstill, List.nil_append]
      exact op.guarded_parts.prefix_walk _
    rwa [splitOn_walk_of_ne_nil (hwalked.ne_nil (splitOn_ne_nil '/' front))]
  · rw [hsegments]
    exact List.prefix_append _ _

/-! ## Other ids -/

/-- The operation on other ids. -/
def withIds (op : Operation) (index part : Value) : Operation :=
  match op with
  | createIndex id primaryKey => createIndex id primaryKey
  | updateIndex _ config => updateIndex index config
  | deleteIndex _ => deleteIndex index
  | getIndex _ => getIndex index
  | indexExists _ => indexExists index
  | addDocuments _ documents format primaryKey => addDocuments index documents format primaryKey
  | updateDocument _ _ updates => updateDocument index part updates
  | deleteDocument _ _ => deleteDocument index part
  | deleteDocuments _ ids filter => deleteDocuments index ids filter
  | search _ params overrides => search index params overrides
  | listIngresses _ => listIngresses index
  | createIngress _ params => createIngress index params
  | getIngress _ _ => getIngress index part
  | ingressExists _ _ => ingressExists index part
  | updateIngress _ _ state => updateIngress index part state
  | deleteIngress _ _ => deleteIngress index part

/-- Parameters are not up to the ids in a path. -/
theorem params_withIds (op : Operation) (index part : Value) :
    (op.withIds index part).call.map Call.params = op.call.map Call.params := by
  have hbind {ε α : Type} (y : Except ε α) (f g : α → Except ε Call)
      (h : ∀ a, (f a).map Call.params = (g a).map Call.params) :
      (y >>= f).map Call.params = (y >>= g).map Call.params := by
    cases y with
    | error e => rfl
    | ok a => exact h a
  have hsame {ps : Params} {body body' : Body} {events events' : List Logging.Event}
      {op op' : Operation} :
      (Except.ok (ε := Failure.Problem)
        { op.bare with params := ps, body := body, events := events }).map Call.params =
      (Except.ok (ε := Failure.Problem)
        { op'.bare with params := ps, body := body', events := events' }).map Call.params := by
    simp only [Except.map]
  cases op with
  | updateIndex | addDocuments | updateDocument | createIngress =>
    simp only [withIds, call]
    exact hbind _ _ _ fun _ => hsame
  | deleteDocuments | search =>
    simp only [withIds, call]
    exact hbind _ _ _ fun _ => hbind _ _ _ fun _ => hsame
  | _ => simp only [withIds, call, bare, Except.map]

end Operation

/-- A request that is confined to the base of its executor: it goes below the path of the base and
    to its place, and nothing but the parameters makes up its query. -/
structure Confined (x : Executor) (params : Params) (a : Address) : Prop where
  below : (splitOn '/' x.base.target).dropLast <+: splitOn '/' a.path
  scheme : a.scheme = x.base.scheme
  userinfo : a.userinfo = x.base.userinfo
  /-- The host and the port are those of the base, unless those read as others again. -/
  place : x.base.reread? = some x.base → a.host = x.base.host ∧ a.port = x.base.port
  query : a.query = params.query?
  noFragment : a.fragment = none
  plain : '?' ∉ a.path ∧ '#' ∉ a.path

theorem fragment_of_executor {baseUrl : String} {apiKey : Option String} {x : Executor}
    (h : (Connection.of baseUrl apiKey).executor = .ok x) (hhash : '#' ∉ baseUrl.toList) :
    x.base.fragment = none := by
  obtain ⟨a, ha, hbase⟩ := executor_eq_ok h
  rw [fragment_of_asBase? hbase]
  refine fragment_of_parse? (fun hmem => hhash ?_) ha
  simp only [Connection.of, Schema.withoutSlashes, String.toList_ofList] at hmem
  have hslashes := (List.dropWhile_sublist _).subset (List.mem_reverse.1 hmem)
  exact List.mem_reverse.1 hslashes

/-- The place of the requests of an operation does not hang on its path. -/
theorem Operation.site_of_address? {op : Operation} {x : Executor} {params : Params} {a : Address}
    (h : x.address? op.path params = some a) : x.site? params = some a.site := by
  obtain ⟨rest, hrest⟩ := op.parts_eq_cons
  have hpath : op.path.toList = '/' :: 'i' :: (joinOn '/' op.segments).tail := by
    rw [toList_path, segments, hrest]
    cases rest <;> rfl
  exact Executor.site_of_address? hpath (by decide) (fun d hd => isPathChar_of_mem_path hd) h

theorem confined_of_address? {op : Operation} {x : Executor} {params : Params} {a : Address}
    (hbase : x.base.IsBase) (hfragment : x.base.fragment = none)
    (h : x.address? op.path params = some a) : Confined x params a := by
  have hsite := Operation.site_of_address? h
  obtain ⟨hscheme, huserinfo, hmark⟩ := Executor.site?_eq_some hsite
  obtain ⟨hquery, hpath⟩ := Operation.parts_of_address hbase h
  have hkept : ∀ c ∈ a.path, isPathChar c = true := by
    rw [hpath]
    exact fun c hc => isPathChar_of_mem_encodeBy hc
  refine ⟨Operation.prefix_path hbase h, hscheme, huserinfo, fun hstable => ?_, hquery,
    hmark.trans hfragment, fun hmem => ?_, fun hmem => ?_⟩
  · rw [Executor.site?_of_stable hstable] at hsite
    have hplace : x.base.site = a.site := Option.some.inj hsite
    simp only [site, Address.mk.injEq] at hplace
    exact ⟨hplace.2.2.1.symm, hplace.2.2.2.1.symm⟩
  · exact absurd (hkept '?' hmem) (by decide)
  · exact absurd (hkept '#' hmem) (by decide)

/-- **Confinement to the base.** Whatever ids an operation is given, its request goes below the path
    of the base and to its place, and has no query but its parameters; and with other ids in its
    path, a request of the same operation differs in nothing but the path. -/
theorem confined_to_base {baseUrl : String} {apiKey : Option String} {x : Executor}
    (hx : (Connection.of baseUrl apiKey).executor = .ok x) (hquery : '?' ∉ baseUrl.toList)
    (hhash : '#' ∉ baseUrl.toList) {op : Operation} {outcome : Outcome} {r : Request}
    (hr : r ∈ ((op.plan x).run outcome).requests) :
    ∃ c a, op.call = .ok c ∧ op.Sends x r a ∧ Confined x c.params a ∧
      ∀ (index part : Value) (r' : Request) (a' : Address),
        (op.withIds index part).Sends x r' a' → a' = { a with path := a'.path } := by
  have hbase := isBase_of_executor hx hquery
  obtain ⟨a, ha⟩ := Operation.sends_of_mem hr
  obtain ⟨c, hc, haddress⟩ := ha.call
  refine ⟨c, a, hc, ha, confined_of_address? hbase (fragment_of_executor hx hhash) haddress, ?_⟩
  intro index part r' a' ha'
  obtain ⟨c', hc', haddress'⟩ := ha'.call
  -- both calls have the same parameters, and these decide about all but the path
  have hparams : c'.params = c.params := by
    have hcalls := op.params_withIds index part
    rw [hc, hc'] at hcalls
    exact Except.ok.inj hcalls
  have hqueries : a'.query = a.query := by
    rw [(Operation.parts_of_address hbase haddress').1,
      (Operation.parts_of_address hbase haddress).1, hparams]
  have hsites : a'.site = a.site := by
    have hsite' := Operation.site_of_address? haddress'
    rw [hparams, Operation.site_of_address? haddress] at hsite'
    exact (Option.some.inj hsite').symm
  cases a'
  cases a
  simp_all [site]

/-- Dots in both ids lead up to the base and no further, and marks of queries and fragments stay in
    the path. -/
theorem confined_to_base_of_hard_ids :
    ∃ x, (Connection.of "http://bright.test/api" none).executor = .ok x ∧
      '?' ∉ "http://bright.test/api".toList ∧ '#' ∉ "http://bright.test/api".toList ∧
      (∃ r ∈ (((Operation.deleteDocument (.text "..") (.text "..")).plan x).run
          (.interrupted "" "")).requests, ∃ a,
        r.url = "http://bright.test/api" ∧ r.url = String.ofList a.render ∧ Confined x [] a) ∧
      ∃ r ∈ (((Operation.deleteDocument (.text "a?b#c/../..") (.text "%2e%2e")).plan x).run
          (.interrupted "" "")).requests, ∃ a,
        r.url = "http://bright.test/api/indexes/a%3Fb%23c%2F..%2F../documents/%252e%252e" ∧
          r.url = String.ofList a.render ∧ Confined x [] a := by
  let base : Address := ⟨"http".toList, [], "bright.test".toList, none, "/api/".toList, none, none⟩
  have hread : (Address.parse? "http://bright.test/api").bind Address.asBase? = some base := by
    decide +kernel
  have hx : (Connection.of "http://bright.test/api" none).executor = .ok ⟨base, none⟩ := by
    have hurl : Schema.withoutSlashes "http://bright.test/api" = "http://bright.test/api" := by
      decide +kernel
    simp only [Connection.of, Connection.executor, hurl, hread]
  have hquery : '?' ∉ "http://bright.test/api".toList := by decide +kernel
  have hhash : '#' ∉ "http://bright.test/api".toList := by decide +kernel
  have hconfined {index document : Value} {url : String}
      (h : (((Operation.deleteDocument index document).plan ⟨base, none⟩).run
        (.interrupted "" "")).requests.map (·.url) = [url]) :
      ∃ r ∈ (((Operation.deleteDocument index document).plan ⟨base, none⟩).run
          (.interrupted "" "")).requests, ∃ a,
        r.url = url ∧ r.url = String.ofList a.render ∧ Confined ⟨base, none⟩ [] a := by
    obtain ⟨r, hr, hurl⟩ := Trace.exists_request h
    obtain ⟨c, a, hc, ha, hinside, -⟩ := confined_to_base hx hquery hhash hr
    obtain rfl := Except.ok.inj hc
    exact ⟨r, hr, a, hurl, ha.url, hinside⟩
  refine ⟨⟨base, none⟩, hx, hquery, hhash, hconfined ?_, hconfined ?_⟩
  · decide +kernel
  · decide +kernel

end SearchClient.Client
