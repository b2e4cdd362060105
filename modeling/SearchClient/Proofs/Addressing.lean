import Mathlib
import SearchClient.Proofs.Sending

set_option autoImplicit false

/-! # Faithful addressing

Behind the path of the base, the path of a request has one segment for each part of its operation.
A word stands for itself and an id is percent-encoded, so both read back, except for one thing:
dots are no encoded characters, and paths are walked along them. `Operation.Undotted` says that
this does not happen, and is exactly what it takes for a path to spell the parts of its operation
(`Operation.spells_iff`). -/

namespace SearchClient.Client

open Http Http.Address Text Text.Percent

/-! ## Parts -/

namespace Part

/-- What a part says: a word, or an id. -/
def reading : Part → String ⊕ List Char
  | .word s => .inl s
  | .id v => .inr v.display

/-- A segment reads as a part if it is the word, or decodes to the id. -/
def ReadAs : Part → List Char → Prop
  | .word s, segment => segment = s.toList
  | .id v, segment => Percent.text segment = v.display

def isId : Part → Bool
  | .word _ => false
  | .id _ => true

theorem toList_segment_id (v : Value) :
    (Part.id v).segment.toList = encodeBy isUnreserved v.display := by
  simp only [segment, Percent.segment, Value.displayText, String.toList_ofList]

theorem readAs_segment (p : Part) : p.ReadAs p.segment.toList := by
  cases p with
  | word s => exact rfl
  | id v =>
    rw [ReadAs, toList_segment_id]
    exact text_encodeBy (by decide) v.display

theorem reading_eq {p q : Part} (hkind : p.isId = q.isId)
    (h : p.segment.toList = q.segment.toList) : p.reading = q.reading := by
  cases p with
  | word s =>
    cases q with
    | word t => exact congrArg Sum.inl (String.toList_inj.1 h)
    | id w => exact nomatch hkind
  | id v =>
    cases q with
    | word t => exact nomatch hkind
    | id w =>
      rw [toList_segment_id, toList_segment_id] at h
      have htext := congrArg Percent.text h
      rw [text_encodeBy (by decide), text_encodeBy (by decide)] at htext
      rw [reading, reading, htext]

theorem readings_eq {ps qs : List Part} (hkinds : ps.map isId = qs.map isId)
    (h : ps.map (·.segment.toList) = qs.map (·.segment.toList)) :
    ps.map reading = qs.map reading := by
  induction ps generalizing qs with
  | nil =>
      rw [List.map_nil, eq_comm, List.map_eq_nil_iff] at h
      rw [h]
  | cons p ps ih =>
      cases qs with
      | nil => exact nomatch h
      | cons q qs =>
        rw [List.map_cons, List.map_cons, List.cons.injEq] at hkinds h ⊢
        exact ⟨reading_eq hkinds.1 h.1, ih hkinds.2 h.2⟩

end Part

/-- A path spells parts behind a base if its segments there read as the parts. -/
def Spells (base path : List Char) (parts : List Part) : Prop :=
  ∃ rest, path = base ++ rest ∧ List.Forall₂ Part.ReadAs parts (splitOn '/' rest)

namespace Operation

/-- The segments of the path of an operation. -/
def segments (op : Operation) : List (List Char) :=
  op.parts.map fun p => p.segment.toList

/-- A word needs no encoding, has no slash in it, and is not dots. -/
theorem word_plain {op : Operation} {s : String} (h : .word s ∈ op.parts) :
    (∀ c ∈ s.toList, isPathChar c = true ∧ c ≠ '/') ∧ isDots s.toList = false := by
  have hwords : (["indexes", "documents", "searches", "ingresses"].all fun s =>
      s.toList.all (fun c => isPathChar c && c != '/') && !isDots s.toList) = true := by
    decide +kernel
  have hmem : s ∈ ["indexes", "documents", "searches", "ingresses"] := by
    cases op <;> simp [parts] at h ⊢ <;> tauto
  have hs := List.all_eq_true.1 hwords s hmem
  simp only [Bool.and_eq_true, List.all_eq_true, bne_iff_ne, Bool.not_eq_true'] at hs
  exact hs

/-- Words and ids take turns. -/
theorem isId_parts (op : Operation) :
    op.parts.map Part.isId = [false, true, false, true].take op.parts.length := by
  cases op <;> rfl

theorem parts_eq_cons (op : Operation) : ∃ parts, op.parts = .word "indexes" :: parts := by
  cases op <;> exact ⟨_, rfl⟩

theorem isPathChar_of_mem_segments {op : Operation} {segment : List Char} {c : Char}
    (hsegment : segment ∈ op.segments) (hc : c ∈ segment) : isPathChar c = true ∧ c ≠ '/' := by
  obtain ⟨p, hp, rfl⟩ := List.mem_map.1 hsegment
  cases p with
  | word s => exact (word_plain hp).1 c hc
  | id v =>
    rw [Part.toList_segment_id] at hc
    rcases mem_encodeBy hc with ⟨hkept, -⟩ | hform
    · exact ⟨isPathChar_of_isUnreserved hkept, ne_of_class hkept (by decide)⟩
    · exact ⟨isPathChar_of_isFormChar hform, ne_of_class hform (by decide)⟩

/-- The path of an operation is a slash and its segments with slashes between them. -/
theorem toList_path (op : Operation) : op.path.toList = '/' :: joinOn '/' op.segments := by
  obtain ⟨rest, hrest⟩ := op.parts_eq_cons
  have hjoin : ∀ (p : Part) (ps : List Part),
      (String.join ((p :: ps).map fun p => "/" ++ p.segment)).toList =
        '/' :: joinOn '/' ((p :: ps).map fun p => p.segment.toList) := by
    intro p ps
    induction ps generalizing p with
    | nil => simp [joinOn]
    | cons q ps ih =>
        have htail := ih q
        simp only [List.map_cons, String.toList_join] at htail ⊢
        simp [joinOn_cons_cons, htail]
  rw [path, segments, hrest]
  exact hjoin _ rest

/-! ## The path of a request -/

/-- Paths are not walked along, or no id is dots. -/
def Undotted (op : Operation) (base : Address) : Prop :=
  base.isRooted = true → ∀ v, .id v ∈ op.parts → isDots v.display = false

theorem isDots_of_mem_segments {op : Operation} {base : Address} (h : op.Undotted base)
    (hrooted : base.isRooted = true) {segment : List Char} (hsegment : segment ∈ op.segments) :
    isDots segment = false := by
  obtain ⟨p, hp, rfl⟩ := List.mem_map.1 hsegment
  cases p with
  | word s => exact (word_plain hp).2
  | id v =>
    rw [Part.toList_segment_id, isDots_encodeBy (by decide)]
    exact h hrooted v hp

/-- The path that an operation is sent to, before it is walked along. -/
def fullPath (op : Operation) (base : Address) : List Char :=
  base.target ++ joinOn '/' op.segments

theorem segments_ne_nil (op : Operation) : op.segments ≠ [] := by
  obtain ⟨rest, hrest⟩ := op.parts_eq_cons
  simp [segments, hrest]

theorem splitOn_joinOn_segments (op : Operation) :
    splitOn '/' (joinOn '/' op.segments) = op.segments :=
  splitOn_joinOn op.segments_ne_nil fun _ hsegment hslash =>
    (isPathChar_of_mem_segments hsegment hslash).2 rfl

theorem isPathChar_of_mem_path {op : Operation} {c : Char} (h : c ∈ op.path.toList) :
    isPathChar c = true := by
  have hslash : isPathChar '/' = true := by decide
  rw [toList_path, List.mem_cons] at h
  rcases h with rfl | hmem
  · exact hslash
  · rcases mem_joinOn hmem with rfl | ⟨segment, hsegment, hc⟩
    · exact hslash
    · exact (isPathChar_of_mem_segments hsegment hc).1

/-- The address that an operation is sent to has its full path, walked along if the base names a
    scheme or a place, and the query of its parameters. -/
theorem parts_of_address {op : Operation} {x : Executor} {params : Params} {a : Address}
    (hbase : x.base.IsBase) (h : x.address? op.path params = some a) :
    a.query = params.query? ∧ a.path = encodeBy isPathChar
      (if x.base.isRooted then walk (op.fullPath x.base) else op.fullPath x.base) := by
  obtain ⟨resolved, hresolved, h⟩ := Option.bind_eq_some_iff.1 h
  obtain ⟨rest, hrest⟩ := op.parts_eq_cons
  -- every path starts with a word, so its first slash is not the first of two
  have hfirst : joinOn '/' op.segments = 'i' :: (joinOn '/' op.segments).tail := by
    rw [segments, hrest]
    cases rest <;> rfl
  have hslash : op.path.toList = '/' :: 'i' :: (joinOn '/' op.segments).tail := by
    rw [toList_path, ← hfirst]
  obtain ⟨-, hqueryless, hfull⟩ := resolve?_eq_some hbase hslash (by decide)
    (fun d hd => isPathChar_of_mem_path hd) hresolved
  rw [fullPath, hfirst, ← hfull]
  cases hquery : params.query? with
  | none =>
    rw [hquery] at h
    rw [← Option.some.inj h]
    exact ⟨hqueryless, rfl⟩
  | some query =>
    rw [hquery] at h
    exact (withQuery?_eq_some h).symm

theorem splitOn_fullPath (op : Operation) {base : Address} {front : List Char}
    (hslash : base.target = front ++ ['/']) :
    splitOn '/' (op.fullPath base) = splitOn '/' front ++ op.segments := by
  rw [fullPath, hslash, List.append_assoc, List.singleton_append, splitOn_append_cons,
    splitOn_joinOn_segments]

/-- A path that stays as it is spells the parts of its operation. -/
theorem spells_fullPath (op : Operation) (base : Address) :
    Spells base.target (op.fullPath base) op.parts := by
  refine ⟨joinOn '/' op.segments, rfl, ?_⟩
  rw [splitOn_joinOn_segments, segments, List.forall₂_map_right_iff]
  exact List.forall₂_same.2 fun p _ => p.readAs_segment

theorem fullPath_kept {op : Operation} {base : Address} (hbase : base.IsBase) :
    ∀ c ∈ op.fullPath base, isPathChar c = true := by
  intro c hc
  rcases List.mem_append.1 hc with htarget | hsegments
  · exact hbase.target_kept c htarget
  · have hpath : c ∈ op.path.toList := by
      rw [toList_path]
      exact List.mem_cons_of_mem '/' hsegments
    exact isPathChar_of_mem_path hpath

theorem fullPath_still {op : Operation} {base : Address} (hbase : base.IsBase)
    (hrooted : base.isRooted = true) (h : op.Undotted base) :
    ∀ s ∈ splitOn '/' (op.fullPath base), isDots s = false := by
  obtain ⟨front, hslash⟩ := hbase.slash
  intro s hs
  rw [splitOn_fullPath op hslash, List.mem_append] at hs
  rcases hs with hfront | hsegment
  · refine hbase.target_still hrooted s ?_
    rw [hslash, splitOn_append_cons]
    exact List.mem_append_left _ hfront
  · exact isDots_of_mem_segments h hrooted hsegment

/-- A path that is walked along dots has too few segments to spell the parts of its operation. -/
theorem undotted_of_spells {op : Operation} {base : Address} (hbase : base.IsBase)
    (h : base.isRooted = true →
      Spells base.target (encodeBy isPathChar (walk (op.fullPath base))) op.parts) :
    op.Undotted base := by
  intro hrooted v hv
  obtain ⟨rest, hpath, hread⟩ := h hrooted
  obtain ⟨front, hslash⟩ := hbase.slash
  by_contra hdots
  have hsegment : (Part.id v).segment.toList ∈ op.segments := List.mem_map.2 ⟨.id v, hv, rfl⟩
  have hfull := splitOn_fullPath op hslash
  -- to spell the parts, the walked path has to have as many segments as the full one
  have hwalked : (splitOn '/' (walk (op.fullPath base))).length =
      (splitOn '/' front).length + op.parts.length := by
    have hkeep : isPathChar '/' = true := by decide
    have hform : isFormChar '/' = false := by decide
    have hsplit := congrArg (fun cs => (splitOn '/' cs).length) hpath
    simp only [splitOn_encodeBy hkeep hform, List.length_map, hslash, List.append_assoc,
      List.singleton_append, splitOn_append_cons, List.length_append, ← hread.length_eq] at hsplit
    exact hsplit
  -- but the id is dots, and walking along dots loses segments
  have hlt : (splitOn '/' (walk (op.fullPath base))).length <
      (splitOn '/' (op.fullPath base)).length := by
    refine length_splitOn_walk_lt ?_ ⟨(Part.id v).segment.toList, ?_, ?_⟩
    · rw [hfull, List.length_append]
      have hfront := List.length_pos_of_ne_nil (splitOn_ne_nil '/' front)
      have hsegments := List.length_pos_of_ne_nil op.segments_ne_nil
      omega
    · rw [hfull]
      exact List.mem_append_right _ hsegment
    · rw [Part.toList_segment_id, isDots_encodeBy (by decide)]
      exact Bool.eq_true_of_not_eq_false hdots
  rw [hwalked, hfull, List.length_append, segments, List.length_map] at hlt
  exact absurd hlt (lt_irrefl _)

theorem path_eq_fullPath {op : Operation} {x : Executor} {params : Params} {a : Address}
    (hbase : x.base.IsBase) (h : x.address? op.path params = some a) (hundotted : op.Undotted x.base) :
    a.path = op.fullPath x.base := by
  rw [(parts_of_address hbase h).2]
  exact encodeBy_walk_eq_self (fullPath_kept hbase)
    fun hrooted => fullPath_still hbase hrooted hundotted

/-- **Paths spell their parts.** The address of a request spells the parts of the operation behind
    the base exactly if no id is dots or paths are not walked along. -/
theorem spells_iff {op : Operation} {x : Executor} {params : Params} {a : Address}
    (hbase : x.base.IsBase) (h : x.address? op.path params = some a) :
    Spells x.base.target a.path op.parts ↔ op.Undotted x.base := by
  constructor
  · intro hspells
    refine undotted_of_spells hbase fun hrooted => ?_
    rw [(parts_of_address hbase h).2, if_pos hrooted] at hspells
    exact hspells
  · intro hundotted
    rw [path_eq_fullPath hbase h hundotted]
    exact spells_fullPath op x.base

/-! ## Requests -/

/-- An operation sends a request to an address. -/
structure Sends (op : Operation) (x : Executor) (r : Request) (a : Address) : Prop where
  sent : ∃ outcome, r ∈ ((op.plan x).run outcome).requests
  address : op.address? x = some a
  url : r.url = String.ofList a.render

theorem Sends.method_eq {op : Operation} {x : Executor} {r : Request} {a : Address}
    (h : op.Sends x r a) : r.method = op.method := by
  obtain ⟨outcome, hmem⟩ := h.sent
  obtain ⟨c, b, -, -, hmethod, -⟩ := request_of_mem hmem
  exact hmethod

theorem sends_of_mem {op : Operation} {x : Executor} {outcome : Outcome} {r : Request}
    (h : r ∈ ((op.plan x).run outcome).requests) : ∃ a, op.Sends x r a := by
  obtain ⟨c, a, hc, ha, -, hurl⟩ := request_of_mem h
  refine ⟨a, ⟨outcome, h⟩, ?_, hurl⟩
  rw [address?, hc]
  exact ha

theorem Sends.call {op : Operation} {x : Executor} {r : Request} {a : Address}
    (h : op.Sends x r a) : ∃ c, op.call = .ok c ∧ x.address? op.path c.params = some a := by
  obtain ⟨c, hc, ha⟩ := Option.bind_eq_some_iff.1 h.address
  cases hcall : op.call with
  | error e =>
    rw [hcall] at hc
    exact nomatch hc
  | ok c' =>
    rw [hcall] at hc
    obtain rfl := Option.some.inj hc
    exact ⟨c', rfl, ha⟩

/-- Operations with one and the same full path say the same in their paths. -/
theorem readings_eq {op₁ op₂ : Operation} {base : Address}
    (h : op₁.fullPath base = op₂.fullPath base) :
    op₁.parts.map Part.reading = op₂.parts.map Part.reading := by
  have hsegments : op₁.segments = op₂.segments := by
    rw [← splitOn_joinOn_segments op₁, List.append_cancel_left h, splitOn_joinOn_segments]
  have hlength : op₁.parts.length = op₂.parts.length := by
    have hmaps := congrArg List.length hsegments
    rwa [segments, segments, List.length_map, List.length_map] at hmaps
  have hkinds : op₁.parts.map Part.isId = op₂.parts.map Part.isId := by
    rw [isId_parts, isId_parts, hlength]
  exact Part.readings_eq hkinds hsegments

end Operation

theorem isBase_of_executor {baseUrl : String} {apiKey : Option String} {x : Executor}
    (h : (Connection.of baseUrl apiKey).executor = .ok x) (hquery : '?' ∉ baseUrl.toList) :
    x.base.IsBase := by
  obtain ⟨a, ha, hbase⟩ := executor_eq_ok h
  refine isBase_of_asBase? (isRead_of_parse? ?_ ha) hbase
  intro hmem
  simp only [Connection.of, Schema.withoutSlashes, String.toList_ofList] at hmem
  have hslashes := (List.dropWhile_sublist _).subset (List.mem_reverse.1 hmem)
  exact hquery (List.mem_reverse.1 hslashes)

/-- **Faithful addressing.** Whatever ids an operation is given, the path of its request spells its
    parts behind the base exactly if no id is dots or paths are not walked along; and as long as
    this is so, requests with the same method and path come from operations with the same method
    and the same words and ids. -/
theorem addressing_faithful {baseUrl : String} {apiKey : Option String} {x : Executor}
    (hx : (Connection.of baseUrl apiKey).executor = .ok x) (hquery : '?' ∉ baseUrl.toList) :
    (∀ (op : Operation) (outcome : Outcome) (r : Request),
      r ∈ ((op.plan x).run outcome).requests →
        ∃ a, op.Sends x r a ∧ r.method = op.method ∧
          (Spells x.base.target a.path op.parts ↔ op.Undotted x.base)) ∧
    ∀ (op₁ op₂ : Operation) (r₁ r₂ : Request) (a₁ a₂ : Address),
      op₁.Sends x r₁ a₁ → op₂.Sends x r₂ a₂ → op₁.Undotted x.base → op₂.Undotted x.base →
        r₁.method = r₂.method → a₁.path = a₂.path →
          op₁.method = op₂.method ∧ op₁.parts.map Part.reading = op₂.parts.map Part.reading := by
  have hbase := isBase_of_executor hx hquery
  constructor
  · intro op outcome r hr
    obtain ⟨a, ha⟩ := Operation.sends_of_mem hr
    obtain ⟨c, -, haddress⟩ := ha.call
    exact ⟨a, ha, ha.method_eq, Operation.spells_iff hbase haddress⟩
  · intro op₁ op₂ r₁ r₂ a₁ a₂ h₁ h₂ hundotted₁ hundotted₂ hmethod hpath
    obtain ⟨c₁, -, haddress₁⟩ := h₁.call
    obtain ⟨c₂, -, haddress₂⟩ := h₂.call
    rw [Operation.path_eq_fullPath hbase haddress₁ hundotted₁,
      Operation.path_eq_fullPath hbase haddress₂ hundotted₂] at hpath
    rw [h₁.method_eq, h₂.method_eq] at hmethod
    exact ⟨hmethod, Operation.readings_eq hpath⟩

/-- An id with a slash and one with a percent sign, a space and dots are spelled as they are. -/
theorem addressing_faithful_of_hard_ids :
    ∃ x, (Connection.of "http://bright.test/api/" (some "key")).executor = .ok x ∧
      '?' ∉ "http://bright.test/api/".toList ∧
      ∃ op, op = Operation.deleteDocument (.text "a/b") (.text "50% ..é") ∧
      ∃ r a, op.Sends x r a ∧ op.Undotted x.base ∧ Spells x.base.target a.path op.parts ∧
        ∀ (op' : Operation) (r' : Request) (a' : Address), op'.Sends x r' a' →
          op'.Undotted x.base → r'.method = r.method → a'.path = a.path →
            op'.parts.map Part.reading = op.parts.map Part.reading := by
  let base : Address := ⟨"http".toList, [], "bright.test".toList, none, "/api/".toList, none, none⟩
  let op := Operation.deleteDocument (.text "a/b") (.text "50% ..é")
  have hread : (Address.parse? "http://bright.test/api").bind Address.asBase? = some base := by
    decide +kernel
  have hx : (Connection.of "http://bright.test/api/" (some "key")).executor =
      .ok ⟨base, some "key"⟩ := by
    have hurl : Schema.withoutSlashes "http://bright.test/api/" = "http://bright.test/api" := by
      decide +kernel
    simp only [Connection.of, Connection.executor, hurl, hread]
  have hquery : '?' ∉ "http://bright.test/api/".toList := by decide +kernel
  have hsent : (((op.plan ⟨base, some "key"⟩).run (.interrupted "" "")).requests.map (·.url)) =
      ["http://bright.test/api/indexes/a%2Fb/documents/50%25%20..%C3%A9"] := by
    decide +kernel
  have hundotted : op.Undotted base := by
    intro _ v hv
    simp only [op, Operation.parts, List.mem_cons, List.not_mem_nil, or_false, reduceCtorEq,
      false_or, Part.id.injEq] at hv
    rcases hv with rfl | rfl
    · decide
    · decide
  obtain ⟨r, hr, -⟩ := List.map_eq_singleton_iff.1 hsent
  have hmem : r ∈ ((op.plan ⟨base, some "key"⟩).run (.interrupted "" "")).requests := by
    rw [hr]
    exact List.mem_singleton_self r
  obtain ⟨hspelled, hunique⟩ := addressing_faithful hx hquery
  obtain ⟨a, ha, -, hspells⟩ := hspelled op _ r hmem
  exact ⟨⟨base, some "key"⟩, hx, hquery, op, rfl, r, a, ha, hundotted, hspells.2 hundotted,
    fun op' r' a' h' hundotted' hmethod hpath =>
      (hunique op' op r' r a' a h' ha hundotted' hundotted hmethod hpath).2⟩

/-- A document with double dots for its id is deleted together with its index. -/
theorem deleteDocument_dots_deletes_index :
    ∃ x, (Connection.of "http://bright.test" none).executor = .ok x ∧
      ((((Operation.deleteDocument (.text "books") (.text "..")).plan x).run
        (.interrupted "" "")).requests.map fun r => (r.method, r.url)) =
        [("DELETE", "http://bright.test/indexes/books")] ∧
      (((Operation.deleteIndex (.text "books")).plan x).run (.interrupted "" "")).requests =
        (((Operation.deleteDocument (.text "books") (.text "..")).plan x).run
          (.interrupted "" "")).requests := by
  refine ⟨rootExecutor, executor_root, ?_, ?_⟩
  · decide +kernel
  · decide +kernel

end SearchClient.Client
