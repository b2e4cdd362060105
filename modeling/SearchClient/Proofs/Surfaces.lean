import Mathlib
import SearchClient.Client.Surface
import SearchClient.Proofs.Deletion
import SearchClient.Proofs.Searching

set_option autoImplicit false

/-! # Surfaces that agree

A handle forwards to its client: its operations are those of the client with the index in front
(`Connection.plan_handle`). A blocking client does what the asynchronous one does
(`Surface.operation_blocking`), but for two things (`Operation.Diverges`): a search cannot be
overridden under the name that the blocking client hands the operation on by, and ids that count as
absent are gone through all the same. -/

namespace SearchClient.Client

open Http Failure

/-- A client as what an operation is called on. -/
abbrev Surface.client (blocking : Bool) : Surface :=
  ⟨blocking, none⟩

/-- A handle that is bound to an index. -/
abbrev Surface.handle (blocking : Bool) (id : Value) : Surface :=
  ⟨blocking, some id⟩

/-! ## Bound arguments -/

namespace Signature

theorem bindPositional_cons (p : Parameter) (ps : List Parameter) (v : Value) (vs : List Value) :
    bindPositional (p :: ps) (v :: vs) =
      (bindPositional ps vs).map fun q => ((p.1, v) :: q.1, q.2) := rfl

theorem eq_wrongType_of_bindNamed {given : Entries Value} {ps : List Parameter} {e : Misuse}
    (h : bindNamed given ps = .error e) : e = .wrongType := by
  induction ps with
  | nil => exact nomatch h
  | cons p ps ih =>
      obtain ⟨name, default⟩ := p
      unfold bindNamed at h
      split at h
      · rcases bind_eq_error_iff.1 h with hvalue | ⟨_, -, h⟩
        · exact nomatch hvalue
        rcases bind_eq_error_iff.1 h with hrest | ⟨_, -, h⟩
        · exact ih hrest
        · exact nomatch h
      · exact (Except.error.inj h).symm

/-- The named arguments that are for none of the parameters. -/
def furtherOf (pending : List Parameter) (given : Entries Value) : Entries Value :=
  given.filter fun e => !pending.any (·.1 = e.1)

/-- Whether further names of a call are refused. -/
def refuses (s : Signature) (reserved : List String) (bound further : Entries Value) : Bool :=
  (further.any fun e => bound.has e.1 || reserved.contains e.1) ||
    (!s.extensible && !further.isEmpty)

/-- Binds the parameters that are left behind those bound by position. -/
def complete (s : Signature) (reserved : List String) (given : Entries Value)
    (p : Entries Value × List Parameter) : Except Misuse Bound :=
  if s.refuses reserved p.1 (furtherOf (p.2 ++ s.named) given) then .error .wrongType
  else (bindNamed given (p.2 ++ s.named)).map fun arguments =>
    ⟨p.1 ++ arguments, furtherOf (p.2 ++ s.named) given⟩

theorem bind_eq (s : Signature) (reserved : List String) (args : List Value)
    (given : Entries Value) :
    s.bind reserved args given =
      bindPositional s.positional args >>= s.complete reserved given := by
  unfold bind
  cases bindPositional s.positional args with
  | error e => rfl
  | ok p =>
    show (if s.refuses reserved p.1 (furtherOf (p.2 ++ s.named) given) then _ else _) =
      s.complete reserved given p
    unfold complete
    split
    · rfl
    · cases bindNamed given (p.2 ++ s.named) <;> rfl

/-- A call takes further names only if it says so. -/
theorem further_of_bind {s : Signature} {reserved : List String} {args : List Value}
    {given : Entries Value} {b : Bound} (h : s.bind reserved args given = .ok b)
    (hextensible : s.extensible = false) : b.further = [] := by
  rw [bind_eq] at h
  obtain ⟨p, -, h⟩ := bind_eq_ok_iff.1 h
  unfold complete at h
  split at h
  · exact nomatch h
  · next hrefuses =>
    obtain ⟨arguments, -, rfl⟩ := map_eq_ok_iff.1 h
    simp only [refuses, hextensible, Bool.not_false, Bool.true_and, Bool.or_eq_true, not_or,
      Bool.not_eq_true', Bool.not_eq_false, List.isEmpty_iff] at hrefuses
    exact hrefuses.2

/-! ### Names that are reserved -/

theorem refuses_reserving (s : Signature) (reserved : List String) (name : String)
    (bound further : Entries Value) :
    s.refuses (reserved ++ [name]) bound further =
      (s.refuses reserved bound further || further.has name) := by
  rw [← Entries.any_name_eq_has]
  unfold refuses
  grind

/-- One more reserved name only refuses calls that have it among their further names. -/
theorem bind_reserving (s : Signature) (reserved : List String) (name : String) (args : List Value)
    (given : Entries Value) :
    s.bind (reserved ++ [name]) args given =
      s.bind reserved args given >>= fun b =>
        if b.further.has name then .error .wrongType else .ok b := by
  rw [bind_eq, bind_eq]
  cases bindPositional s.positional args with
  | error e => rfl
  | ok p =>
    show s.complete (reserved ++ [name]) given p = s.complete reserved given p >>= _
    unfold complete
    rw [refuses_reserving]
    cases s.refuses reserved p.1 (furtherOf (p.2 ++ s.named) given) with
    | true => rfl
    | false =>
      rw [Bool.false_or]
      cases hnamed : bindNamed given (p.2 ++ s.named) with
      | error e =>
        obtain rfl := eq_wrongType_of_bindNamed hnamed
        exact ite_self _
      | ok arguments => rfl

/-! ### Arguments put in front -/

theorem refuses_cons {s : Signature} {name : String} (hname : s.extensible = true → name = "index_id")
    (positional : List Parameter) (reserved : List String) (v : Value)
    (bound further : Entries Value) :
    ({ s with positional := positional } : Signature).refuses (reserved ++ ["index_id"]) bound
        further = s.refuses reserved ((name, v) :: bound) further := by
  cases hextensible : s.extensible with
  | true =>
    obtain rfl := hname hextensible
    simp only [refuses, hextensible, Entries.has_cons]
    grind
  | false =>
    simp only [refuses, hextensible]
    cases further <;> simp

/-- A call with its first argument is the call without its first parameter. -/
theorem bind_cons {s : Signature} {name : String} {default : Option Value}
    {positional : List Parameter} (hfirst : s.positional = (name, default) :: positional)
    (hname : s.extensible = true → name = "index_id") (reserved : List String) (v : Value)
    (args : List Value) (given : Entries Value) :
    s.bind reserved (v :: args) given =
      (({ s with positional := positional } : Signature).bind (reserved ++ ["index_id"]) args
        given).map fun b => { b with arguments := (name, v) :: b.arguments } := by
  rw [bind_eq, bind_eq, hfirst, bindPositional_cons]
  dsimp only
  cases bindPositional positional args with
  | error e => rfl
  | ok p =>
    show s.complete reserved given ((name, v) :: p.1, p.2) =
      (({ s with positional := positional } : Signature).complete (reserved ++ ["index_id"]) given
        p).map _
    unfold complete
    rw [refuses_cons hname positional reserved v]
    cases s.refuses reserved ((name, v) :: p.1) (furtherOf (p.2 ++ s.named) given) with
    | true => rfl
    | false => cases bindNamed given (p.2 ++ s.named) <;> rfl

end Signature

/-! ## Handles -/

theorem lookup_handleNames : ∀ p ∈ handleNames, handleNames.lookup p.1 = some p.2 := by
  decide +kernel

/-- Every operation has a first parameter, the index wherever further names are taken. -/
theorem first_of_mem_methods :
    ∀ m ∈ methods, ∃ name default positional, m.signature.positional = (name, default) :: positional ∧
      (m.signature.extensible = true → name = "index_id") := by
  simp [methods, stateMethod, required]

namespace Surface

theorem method?_handle {p : String × String} (hp : p ∈ handleNames) (blocking : Bool) (id : Value) :
    (Surface.handle blocking id).method? p.1 = Client.method? p.2 := by
  simp only [method?, lookup_handleNames p hp, Option.bind_some]

theorem bind_handle {m : Method} (hm : m ∈ methods) (blocking : Bool) (id : Value)
    (args : List Value) (given : Entries Value) :
    (Surface.handle blocking id).bind m args given =
      (Surface.client blocking).bind m (id :: args) given := by
  obtain ⟨name, default, positional, hfirst, hname⟩ := first_of_mem_methods m hm
  have hreserved : (Surface.handle blocking id).reserved =
      (Surface.client blocking).reserved ++ ["index_id"] := by
    simp [reserved]
  simp only [bind, hfirst, hreserved]
  rw [Signature.bind_cons hfirst hname]
  generalize Signature.bind _ _ args given = bound
  cases bound <;> rfl

/-- An operation on a handle is that on the client with the index in front. -/
theorem operation_handle {p : String × String} (hp : p ∈ handleNames) (blocking : Bool) (id : Value)
    (args : List Value) (given : Entries Value) :
    (Surface.handle blocking id).operation p.1 args given =
      (Surface.client blocking).operation p.2 (id :: args) given := by
  have hclient : (Surface.client blocking).method? p.2 = Client.method? p.2 := rfl
  unfold operation
  rw [method?_handle hp, hclient]
  cases hm : Client.method? p.2 with
  | none => rfl
  | some m =>
    dsimp only
    rw [bind_handle (List.mem_of_find?_eq_some hm)]

end Surface

theorem Connection.plan_handle (c : Connection) {p : String × String} (hp : p ∈ handleNames)
    (blocking : Bool) (id : Value) (args : List Value) (given : Entries Value) :
    c.plan (.handle blocking id) p.1 args given = c.plan (.client blocking) p.2 (id :: args) given := by
  rw [plan, plan, Surface.operation_handle hp]

/-! ## Blocking clients -/

/-- The overrides of a search; no other operation has any. -/
def Operation.overrides : Operation → Entries Value
  | .search _ _ overrides => overrides
  | _ => []

theorem overrides_build :
    ∀ m ∈ methods, ∀ b, (m.build b).overrides = if m.signature.extensible then b.further else [] := by
  simp [methods, stateMethod, Operation.overrides]

namespace Surface

/-- **An operation on a blocking client** is that of the asynchronous one, with its iterable
    arguments gone through, unless it overrides the name that stands for the operation. -/
theorem operation_blocking (name : String) (args : List Value) (given : Entries Value) :
    (Surface.client true).operation name args given =
      (Surface.client false).operation name args given >>= fun op =>
        if op.overrides.has "method" then .error .wrongType else op.materialized := by
  have hmethod : ∀ blocking, (Surface.client blocking).method? name = Client.method? name :=
    fun _ => rfl
  unfold operation
  rw [hmethod, hmethod]
  cases hm : Client.method? name with
  | none => rfl
  | some m =>
    have hbind : (Surface.client true).bind m args given =
        (Surface.client false).bind m args given >>= fun b =>
          if b.further.has "method" then .error .wrongType else .ok b :=
      Signature.bind_reserving m.signature ["self"] "method" args given
    dsimp only
    rw [hbind]
    cases hbound : (Surface.client false).bind m args given with
    | error e => rfl
    | ok b =>
      -- an operation that takes no further names got none, and a search hands all of them on
      have hfurther : (m.build b).overrides = b.further := by
        rw [overrides_build m (List.mem_of_find?_eq_some hm)]
        cases hextensible : m.signature.extensible with
        | true => rfl
        | false => exact (Signature.further_of_bind hbound hextensible).symm
      show ((if b.further.has "method" then .error .wrongType else .ok b : Except Misuse _) >>= _) =
        if (m.build b).overrides.has "method" then .error .wrongType else _
      rw [hfurther]
      split <;> rfl

end Surface

/-! ### Arguments gone through -/

theorem eq_wrongType_of_elements {v : Value} {e : Misuse} (h : v.elements = .error e) :
    e = .wrongType := by
  cases v with
  | null | bool | int | float | date | dateTime => exact (Except.error.inj h).symm
  | _ => exact nomatch h

namespace Operation

/-- A deletion by ids that are given and count as absent, but cannot be gone through. -/
def Unlisted : Operation → Prop
  | .deleteDocuments _ ids _ => ids ≠ .null ∧ ids.truthy = false ∧ ids.elements = .error .wrongType
  | _ => False

theorem plan_congr {op op' : Operation} (hcall : op'.call = op.call)
    (hshown : op'.shown = op.shown) (hconclude : op'.conclude = op.conclude) (x : Executor) :
    op'.plan x = op.plan x := by
  rw [plan, plan, hcall, isLegible, isLegible, hshown, hconclude]

theorem deleteIds_list {ids : Value} {vs : List Value} (h : ids.elements = .ok vs) :
    deleteIds (.list vs) = deleteIds ids := by
  cases vs with
  | nil =>
    unfold deleteIds
    rw [h]
    exact (ite_self (Except.ok [])).symm
  | cons v vs =>
    unfold deleteIds
    rw [Value.truthy_of_elements h, h]
    rfl

/-- Ids that are not null are gone through, whether they count as absent or not. -/
theorem materialized_deleteDocuments (index : Value) {ids : Value} (h : ids ≠ .null)
    (filter : Value) :
    (deleteDocuments index ids filter).materialized =
      ids.elements.map fun vs => .deleteDocuments index (.list vs) filter := by
  have hstep : (deleteDocuments index ids filter).materialized =
      materialize ids >>= fun listed => .ok (.deleteDocuments index listed filter) := by
    cases ids with
    | null => exact absurd rfl h
    | _ => rfl
  rw [hstep, materialize]
  cases ids.elements <;> rfl

/-- Going through the arguments ahead of the call changes nothing that is sent. -/
theorem plan_of_materialized {op op' : Operation} (h : op.materialized = .ok op') (x : Executor) :
    op'.plan x = op.plan x := by
  cases op with
  | addDocuments index documents format primaryKey =>
    obtain ⟨listed, hlisted, h⟩ := bind_eq_ok_iff.1 h
    obtain ⟨vs, hvs, rfl⟩ := map_eq_ok_iff.1 hlisted
    obtain rfl := Except.ok.inj h
    apply plan_congr
    · simp only [call, hvs]
      rfl
    · rfl
    · rfl
  | deleteDocuments index ids filter =>
    by_cases hnull : ids = .null
    · subst hnull
      obtain rfl := Except.ok.inj h
      rfl
    · rw [materialized_deleteDocuments index hnull] at h
      obtain ⟨vs, hvs, rfl⟩ := map_eq_ok_iff.1 h
      apply plan_congr
      · simp only [call, deleteIds_list hvs]
        rfl
      · simp only [shown, hvs]
        rfl
      · rfl
  | _ =>
    obtain rfl := Except.ok.inj h
    rfl

/-- Arguments that cannot be gone through ahead of the call are not gone through by it either, but
    for ids that count as absent. -/
theorem call_of_materialized {op : Operation} {e : Misuse} (h : op.materialized = .error e) :
    e = .wrongType ∧ (op.call = .error (.misuse .wrongType) ∨ op.Unlisted) := by
  cases op with
  | addDocuments index documents format primaryKey =>
    rcases bind_eq_error_iff.1 h with hlisted | ⟨_, -, h⟩
    · have helements := map_eq_error_iff.1 hlisted
      obtain rfl := eq_wrongType_of_elements helements
      refine ⟨rfl, Or.inl (bind_eq_error_iff.2 (Or.inl ?_))⟩
      rw [helements]
      rfl
    · exact nomatch h
  | deleteDocuments index ids filter =>
    by_cases hnull : ids = .null
    · subst hnull
      exact nomatch h
    · rw [materialized_deleteDocuments index hnull] at h
      have helements := map_eq_error_iff.1 h
      obtain rfl := eq_wrongType_of_elements helements
      refine ⟨rfl, ?_⟩
      cases htruthy : ids.truthy with
      | false => exact Or.inr ⟨hnull, htruthy, helements⟩
      | true =>
        refine Or.inl (bind_eq_error_iff.2 (Or.inl ?_))
        simp only [deleteIds, htruthy, helements]
        rfl
  | _ => exact nomatch h

theorem materialized_of_unlisted {op : Operation} (h : op.Unlisted) :
    op.materialized = .error .wrongType := by
  cases op with
  | deleteDocuments index ids filter =>
    obtain ⟨hnull, -, helements⟩ := h
    rw [materialized_deleteDocuments index hnull, helements]
    rfl
  | _ => exact h.elim

end Operation

/-! ## Agreement -/

namespace Operation

/-- An operation that a blocking client does not do as the asynchronous one does: a search that
    overrides the name `method`, or a deletion by ids that are given and count as absent, but cannot
    be gone through. -/
def Diverges (op : Operation) : Prop :=
  op.overrides.has "method" = true ∨ op.Unlisted

/-- A search has no parameter of that name, so it is refused for it, or has nothing to override. -/
theorem call_of_override {op : Operation} (h : op.overrides.has "method" = true) :
    ∃ p : Problem, p ≠ .misuse .wrongType ∧ op.call = .error p := by
  cases op with
  | search index params overrides =>
    rcases searchParams_cases params overrides with ⟨-, -, rfl⟩ | ⟨es, hnames, heq⟩ | ⟨heq, -, -⟩
    · exact absurd h Bool.false_ne_true
    · cases hcheck : Record.check .search (.map es) with
      | ok r =>
        refine absurd hcheck (Record.not_ok_of_undeclared rfl (hnames _ h) ?_ r)
        simp [Schema.fieldsOf, Schema.searchFields, Schema.FieldRule.nullable]
      | error refusal =>
        rw [hcheck] at heq
        exact ⟨.refused refusal, by simp, bind_eq_error_iff.2 (Or.inl heq)⟩
    · exact ⟨.misuse .noMember, by simp, bind_eq_error_iff.2 (Or.inl heq)⟩
  | _ => exact absurd h Bool.false_ne_true

theorem exists_deleteFilter (filter : Value) : ∃ ps, deleteFilter filter = .ok ps := by
  cases filter with
  | map entries =>
    rw [deleteFilter, Query.buildFilter_map_null]
    exact ⟨_, rfl⟩
  | _ => exact ⟨_, rfl⟩

/-- The call itself takes ids that count as absent for none. -/
theorem call_of_unlisted {op : Operation} (h : op.Unlisted) :
    ∃ c, op.call = .ok c ∧ c.body = .none := by
  cases op with
  | deleteDocuments index ids filter =>
    obtain ⟨-, htruthy, -⟩ := h
    obtain ⟨ps, hps⟩ := exists_deleteFilter filter
    refine ⟨{ (deleteDocuments index ids filter).bare with params := [] ++ ps }, ?_, rfl⟩
    simp only [call, deleteIds, htruthy, hps]
    rfl
  | _ => exact h.elim

theorem not_fails_of_diverges {op : Operation} (h : op.Diverges) (x : Executor) (outcome : Outcome) :
    ¬((op.plan x).run outcome).Fails (.misuse .wrongType) := by
  rintro ⟨hrequests, hresult⟩
  rcases h with hoverride | hunlisted
  · obtain ⟨p, hne, hcall⟩ := call_of_override hoverride
    obtain ⟨-, hother⟩ := fails_of_call (x := x) hcall outcome
    rw [hresult] at hother
    exact hne (Except.error.inj hother).symm
  · obtain ⟨c, hcall, hbody⟩ := call_of_unlisted hunlisted
    rcases sent_of_call (x := x) hcall hbody outcome with ⟨r, hr⟩ | ⟨p, hp, -, hother⟩ | ⟨-, hother⟩
    · rw [hrequests] at hr
      exact nomatch hr
    · rw [hresult] at hother
      obtain rfl := Except.error.inj hother
      exact hp
    · rw [hresult] at hother
      exact nomatch hother

end Operation

/-! ### Connections -/

theorem withoutSlashes_withoutSlashes (s : String) :
    Schema.withoutSlashes (Schema.withoutSlashes s) = Schema.withoutSlashes s := by
  simp only [Schema.withoutSlashes, String.toList_ofList, List.reverse_reverse,
    List.dropWhile_idempotent]

/-- A blocking client opens the address that it has stored again for every call. -/
theorem Connection.of_of (baseUrl : String) (apiKey : Option String) :
    of (of baseUrl apiKey).baseUrl apiKey = of baseUrl apiKey := by
  rw [of, of, withoutSlashes_withoutSlashes]

theorem Connection.plan_of_ok {c : Connection} {x : Executor} (hx : c.executor = .ok x)
    {s : Surface} {name : String} {args : List Value} {given : Entries Value} :
    c.plan s name args given =
      match s.operation name args given with
      | .ok op => op.plan x
      | .error e => .refuse (.misuse e) := by
  unfold plan
  rw [hx]
  cases s.operation name args given <;> rfl

theorem plan_blocking {c : Connection} {x : Executor} (hx : c.executor = .ok x) {name : String}
    {args : List Value} {given : Entries Value}
    (h : ∀ op, (Surface.client false).operation name args given = .ok op → ¬op.Diverges) :
    c.plan (.client true) name args given = c.plan (.client false) name args given := by
  rw [Connection.plan_of_ok hx, Connection.plan_of_ok hx, Surface.operation_blocking]
  cases hop : (Surface.client false).operation name args given with
  | error e => rfl
  | ok op =>
    obtain ⟨hoverride, hunlisted⟩ := not_or.1 (h op hop)
    show (match (if op.overrides.has "method" then .error .wrongType else op.materialized :
      Except Misuse Operation) with | .ok op => op.plan x | .error e => .refuse (.misuse e)) = _
    rw [if_neg hoverride]
    -- the blocking client goes through the arguments first, where they cannot be the call fails too
    cases hmaterialized : op.materialized with
    | ok op' => exact Operation.plan_of_materialized hmaterialized x
    | error e =>
      obtain ⟨rfl, hcall⟩ := Operation.call_of_materialized hmaterialized
      simp only [Operation.plan, hcall.resolve_right hunlisted]

theorem fails_of_diverges {c : Connection} {x : Executor} (hx : c.executor = .ok x) {name : String}
    {args : List Value} {given : Entries Value} {op : Operation}
    (hop : (Surface.client false).operation name args given = .ok op) (h : op.Diverges)
    (outcome : Outcome) :
    ((c.plan (.client true) name args given).run outcome).Fails (.misuse .wrongType) ∧
      ¬((c.plan (.client false) name args given).run outcome).Fails (.misuse .wrongType) := by
  have hblocking : (Surface.client true).operation name args given = .error .wrongType := by
    rw [Surface.operation_blocking, hop]
    show (if op.overrides.has "method" then .error .wrongType else op.materialized :
      Except Misuse Operation) = _
    split
    · rfl
    · next hoverride => exact Operation.materialized_of_unlisted (h.resolve_left hoverride)
  rw [Connection.plan_of_ok hx, Connection.plan_of_ok hx, hblocking, hop]
  exact ⟨Plan.fails_run rfl outcome, Operation.not_fails_of_diverges h x outcome⟩

/-- **Surfaces agree.** Wherever there is an asynchronous client, a blocking client with the same
    address and key plans the same for every call, unless the operation of the call diverges; then it
    fails where the asynchronous client does not, whatever the outcome. A handle plans what its
    client does with the index in front. -/
theorem surfaces_agree {baseUrl : String} {apiKey : Option String} {x : Executor}
    (hx : (Connection.of baseUrl apiKey).executor = .ok x) (name : String) (args : List Value)
    (given : Entries Value) :
    let c := Connection.of baseUrl apiKey
    let reopened := Connection.of c.baseUrl c.apiKey
    ((∀ op, (Surface.client false).operation name args given = .ok op → ¬op.Diverges) →
      reopened.plan (.client true) name args given = c.plan (.client false) name args given) ∧
    (∀ op, (Surface.client false).operation name args given = .ok op → op.Diverges → ∀ outcome,
      ((reopened.plan (.client true) name args given).run outcome).Fails (.misuse .wrongType) ∧
        ¬((c.plan (.client false) name args given).run outcome).Fails (.misuse .wrongType)) ∧
    ∀ blocking id, ∀ p ∈ handleNames,
      c.plan (.handle blocking id) p.1 args given = c.plan (.client blocking) p.2 (id :: args) given := by
  intro c reopened
  have hreopened : reopened = c := Connection.of_of baseUrl apiKey
  rw [hreopened]
  refine ⟨plan_blocking hx, fun op hop h outcome => fails_of_diverges hx hop h outcome, ?_⟩
  exact fun blocking id p hp => c.plan_handle hp blocking id args given

/-- A search under a name that no parameter has is refused alike. -/
theorem surfaces_agree_of_unknown_name :
    (Connection.of (Connection.of "http://bright.test" none).baseUrl none).plan (.client true) "search"
        [.text "books"] [("p", .int 1)] =
      (Connection.of "http://bright.test" none).plan (.client false) "search" [.text "books"]
        [("p", .int 1)] := by
  refine (surfaces_agree executor_root "search" [.text "books"] [("p", .int 1)]).1 fun op hop => ?_
  have hsearch : op = .search (.text "books") .null [("p", .int 1)] := (Except.ok.inj hop).symm
  subst hsearch
  rintro (hoverride | hunlisted)
  · exact nomatch hoverride
  · exact hunlisted

/-- A search under the name `method` is refused by the asynchronous client and does not fit the
    blocking one; a deletion by the number zero is sent by one and does not fit the other. -/
theorem surfaces_disagree :
    (∃ refusal, ∀ outcome,
      (((Connection.of "http://bright.test" none).plan (.client true) "search" [.text "books"]
          [("method", .text "x")]).run outcome).Fails (.misuse .wrongType) ∧
        (((Connection.of "http://bright.test" none).plan (.client false) "search" [.text "books"]
          [("method", .text "x")]).run outcome).Fails (.refused refusal)) ∧
    ∃ outcome,
      (((Connection.of "http://bright.test" none).plan (.client true) "delete_documents"
          [.text "books"] [("ids", .int 0)]).run outcome).Fails (.misuse .wrongType) ∧
        (((Connection.of "http://bright.test" none).plan (.client false) "delete_documents"
          [.text "books"] [("ids", .int 0)]).run outcome).requests.map (fun r => (r.method, r.url)) =
            [("DELETE", "http://bright.test/indexes/books/documents")] := by
  constructor
  · obtain ⟨refusal, hrefused⟩ : ∃ refusal,
        Operation.searchParams .null [("method", .text "x")] = .error (.refused refusal) :=
      ⟨_, rfl⟩
    refine ⟨refusal, fun outcome => ⟨?_, ?_⟩⟩
    · exact (fails_of_diverges executor_root rfl (Or.inl rfl) outcome).1
    · rw [Connection.plan_of_ok executor_root]
      exact Operation.fails_of_call (bind_eq_error_iff.2 (Or.inl hrefused)) outcome
  · have hunlisted : (Operation.deleteDocuments (.text "books") (.int 0) .null).Unlisted :=
      ⟨nofun, rfl, rfl⟩
    refine ⟨.response ⟨204, none, []⟩, ?_, by decide +kernel⟩
    exact (fails_of_diverges executor_root rfl (Or.inr hunlisted) _).1

end SearchClient.Client
