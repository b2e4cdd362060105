import Mathlib
import SearchClient.Proofs.FailedResponse
import SearchClient.Proofs.Wrapping

set_option autoImplicit false

/-! # Successful replies

A reply is wrapped unless it is an object that neither fits its model nor can be taken as it is, for
a name in it that stands for a part of the record. A list of ingresses has to be one, and all of its
items have to be wrapped. So an operation gives a result for every reply that it accepts
(`Operation.Accepts`), and for no other. -/

namespace SearchClient

open Http Failure

/-- The value that a successful response holds. -/
def Http.Response.reply (r : Response) : Except Problem Value :=
  if r.status = 204 then .ok .null else Executor.decodeBody r.body

theorem Http.Response.of_reply {p : Value → Prop} (hp : Json.Closed p) {r : Response} {v : Value}
    (h : r.reply = .ok v) : p v := by
  unfold reply at h
  split at h
  · obtain rfl := Except.ok.inj h
    exact hp.null
  · exact Executor.of_decodeBody hp h

theorem Http.Response.isJson_of_reply {r : Response} {v : Value} (h : r.reply = .ok v) :
    IsJson v :=
  of_reply Json.closed_isJson h

theorem Http.Response.object_of_reply {r : Response} {es : Entries Value}
    (h : r.reply = .ok (.map es)) : r.object = es := by
  unfold reply at h
  split at h
  · exact absurd (Except.ok.inj h) Value.noConfusion
  · rw [object, h]

theorem Http.Response.reply_of_object {r : Response} (hstatus : r.status ≠ 204)
    (h : r.object ≠ []) : r.reply = .ok (.map r.object) := by
  unfold object at h ⊢
  rw [reply, if_neg hstatus]
  split at h
  · assumption
  · exact absurd rfl h

theorem Http.Executor.settle_of_success {method path : String} {r : Response}
    (h : r.isSuccess = true) : (settle method path (.response r)).result = r.reply := by
  simp only [settle, h, if_true, Response.reply]
  split <;> rfl

namespace Client

/-! ## Replies that are accepted -/

namespace Reply

/-- An object without the name of the class. -/
def Classless (es : Entries Value) : Prop :=
  es.has "cls" = false

/-- An object that can be taken as it is: it does not name the class, and the names that it says it
    gives can be gone through. -/
def Takeable (es : Entries Value) : Prop :=
  Classless es ∧ ∀ v, es.get? "_fields_set" = some v → ∃ given, givenBy v = .ok given

/-- A value that is wrapped in a model if such objects can be taken as they are. -/
def Wrappable (takeable : Entries Value → Prop) (model : Entries Value → Model) (v : Value) : Prop :=
  ∀ es, v = .map es → Record.Fits (model es) es ∨ takeable es

/-- A reply that lists ingresses: one that counts as absent, or an object whose ingresses, if it has
    any, can be gone through and are all wrapped. -/
def Lists (wrapped : Value → Prop) (v : Value) : Prop :=
  v.truthy = false ∨ ∃ es : Entries Value, v = .map es ∧
    match es.get? "ingresses" with
    | some (.list items) => ∀ item ∈ items, wrapped item
    | some (.text _) | some (.map _) | none => True
    | some _ => False

end Reply

/-- Whether an operation accepts a reply, if such objects can be taken as they are. -/
def Operation.Accepts (takeable : Entries Value → Prop) (op : Operation) (v : Value) : Prop :=
  match op with
  | .createIndex .. | .updateIndex .. | .getIndex _ =>
    Reply.Wrappable takeable (fun _ => .index) v
  | .addDocuments .. => Reply.Wrappable takeable (fun _ => .upload) v
  | .search .. => Reply.Wrappable takeable (fun _ => .results) v
  | .listIngresses _ => Reply.Lists (Reply.Wrappable takeable Reply.ingressModel) v
  | .createIngress .. | .getIngress .. | .updateIngress .. =>
    Reply.Wrappable takeable Reply.ingressModel v
  | .updateDocument .. | .deleteIndex _ | .deleteDocument .. | .deleteDocuments ..
  | .deleteIngress .. | .indexExists _ | .ingressExists .. => True

namespace Reply

open Record Schema

/-! ## Single replies -/

theorem exists_keep_iff {model : Model} {es : Entries Value} :
    (∃ w, keep model es = .ok w) ↔ Takeable es := by
  unfold keep Takeable Classless
  cases hcls : es.has "cls" with
  | true => simp
  | false =>
    cases hset : es.get? "_fields_set" with
    | none => simp
    | some v =>
      cases hgiven : givenBy v with
      | error e => simp [hgiven, bind, Except.bind]
      | ok given =>
        simp only [Bool.false_eq_true, if_false, bind, Except.bind, true_and, Option.some.injEq,
          forall_eq', hgiven]
        split <;> simp [pure, Except.pure]

theorem exists_wrap_iff {model : Model} (hkept : extrasOf model = .kept) {v : Value} :
    (∃ w, (wrap model v).result = .ok w) ↔ Wrappable Takeable (fun _ => model) v := by
  cases v with
  | map es =>
    simp only [Wrappable, Value.map.injEq, forall_eq']
    by_cases hfits : Fits model es
    · obtain ⟨r, hr⟩ := (exists_check_iff hkept).2 hfits
      simp [result_wrap_of_check hr, hfits]
    · simp only [result_wrap_of_not_fits hkept hfits, mapError_eq_ok_iff, exists_keep_iff, hfits,
        false_or]
  | _ => simp [wrap, Wrappable, Settled.quiet]

theorem exists_wrapIngress_iff {v : Value} :
    (∃ w, wrapIngress v = .ok w) ↔ Wrappable Takeable ingressModel v := by
  cases v with
  | map es =>
    simp only [Wrappable, Value.map.injEq, forall_eq']
    by_cases hfits : Fits (ingressModel es) es
    · obtain ⟨r, hr⟩ := (exists_check_iff (extrasOf_ingressModel es)).2 hfits
      simp [wrapIngress_of_check hr, hfits]
    · simp only [wrapIngress_of_not_fits hfits, exists_keep_iff, hfits, false_or]
  | _ => simp [wrapIngress, Wrappable]

theorem takeable_nil : Takeable [] :=
  ⟨rfl, nofun⟩

/-- An empty object can be taken as it is, so it does not matter what stands for it. -/
theorem wrappable_orEmpty_iff {model : Model} {v : Value} :
    Wrappable Takeable (fun _ => model) (orEmpty v) ↔ Wrappable Takeable (fun _ => model) v := by
  unfold orEmpty
  cases htruthy : v.truthy with
  | true => rfl
  | false =>
    refine iff_of_true ?_ ?_
    · rintro es hes
      obtain rfl := Value.map.inj hes
      exact .inr takeable_nil
    · rintro es rfl
      obtain rfl : es = [] := by simpa [Value.truthy] using htruthy
      exact .inr takeable_nil

theorem Wrappable.imp {p q : Entries Value → Prop} (hpq : ∀ es, p es → q es)
    {model : Entries Value → Model} {v : Value} (h : Wrappable p model v) : Wrappable q model v :=
  fun es hes => (h es hes).imp_right (hpq es)

/-! ## Lists -/

theorem exists_wrapIngresses_iff {vs : List Value} :
    (∃ ws, wrapIngresses vs = .ok ws) ↔ ∀ v ∈ vs, Wrappable Takeable ingressModel v := by
  induction vs with
  | nil => simp [wrapIngresses]
  | cons v vs ih =>
      rw [List.forall_mem_cons, ← ih, ← exists_wrapIngress_iff]
      constructor
      · rintro ⟨ws, h⟩
        obtain ⟨w, hw, h⟩ := bind_eq_ok_iff.1 h
        obtain ⟨ws', hws, -⟩ := bind_eq_ok_iff.1 h
        exact ⟨⟨w, hw⟩, ws', hws⟩
      · rintro ⟨⟨w, hw⟩, ws, hws⟩
        exact ⟨w :: ws, by rw [wrapIngresses, hw, hws]; rfl⟩

/-- The names of a map and the characters of a text are no objects. -/
theorem wrappable_of_text {takeable : Entries Value → Prop} {model : Entries Value → Model}
    {v : Value} (h : ∃ s, v = .text s) : Wrappable takeable model v := by
  obtain ⟨s, rfl⟩ := h
  exact nofun

theorem listIngresses_map (es : Entries Value) :
    listIngresses (.map es) = do
      let items ← ((es.get? "ingresses").getD (.list [])).elements
      return .list (← wrapIngresses items) := by
  cases es <;> rfl

/-- A list of ingresses is made exactly if its items can be gone through and are all wrapped. -/
theorem exists_listIngresses_map_iff {es : Entries Value} :
    (∃ w, listIngresses (.map es) = .ok w) ↔
      ∃ items, ((es.get? "ingresses").getD (.list [])).elements = .ok items ∧
        ∀ item ∈ items, Wrappable Takeable ingressModel item := by
  rw [listIngresses_map]
  constructor
  · rintro ⟨w, h⟩
    obtain ⟨items, hitems, h⟩ := bind_eq_ok_iff.1 h
    obtain ⟨ws, hws, -⟩ := bind_eq_ok_iff.1 h
    exact ⟨items, hitems, exists_wrapIngresses_iff.1 ⟨ws, hws⟩⟩
  · rintro ⟨items, hitems, hall⟩
    obtain ⟨ws, hws⟩ := exists_wrapIngresses_iff.2 hall
    exact ⟨.list ws, by simp only [hitems, bind, Except.bind, hws]; rfl⟩

/-- Items of a value that a list of ingresses may have. -/
theorem exists_elements_iff {v : Value} (h : IsJson v) :
    (∃ items, v.elements = .ok items ∧ ∀ item ∈ items, Wrappable Takeable ingressModel item) ↔
      match v with
      | .list items => ∀ item ∈ items, Wrappable Takeable ingressModel item
      | .text _ | .map _ => True
      | _ => False := by
  cases h with
  | list hitems => simp [Value.elements]
  | text s =>
    refine iff_of_true ⟨_, rfl, fun item hitem => ?_⟩ trivial
    obtain ⟨c, -, rfl⟩ := List.mem_map.1 hitem
    exact wrappable_of_text ⟨_, rfl⟩
  | map hnames hentries =>
    refine iff_of_true ⟨_, rfl, fun item hitem => ?_⟩ trivial
    obtain ⟨e, -, rfl⟩ := List.mem_map.1 hitem
    exact wrappable_of_text ⟨_, rfl⟩
  | _ => simp [Value.elements]

theorem exists_listIngresses_iff {v : Value} (h : IsJson v) :
    (∃ w, listIngresses v = .ok w) ↔ Lists (Wrappable Takeable ingressModel) v := by
  cases htruthy : v.truthy with
  | false =>
    refine iff_of_true ⟨.list [], ?_⟩ (.inl htruthy)
    simp only [listIngresses, orEmpty, htruthy]
    rfl
  | true =>
    cases h with
    | map hnames hentries =>
      next es =>
      have hjson : IsJson (.map es) := .map hnames hentries
      rw [exists_listIngresses_map_iff]
      simp only [Lists, htruthy, Bool.true_eq_false, false_or, Value.map.injEq, exists_eq_left']
      cases hget : es.get? "ingresses" with
      | none => simp [Value.elements]
      | some w =>
        rw [Option.getD_some, exists_elements_iff (hjson.get? hget)]
        cases hjson.get? hget <;> rfl
    | _ => simp [listIngresses, orEmpty, htruthy, Lists]

theorem Lists.imp {p q : Value → Prop} (hpq : ∀ v, p v → q v) {v : Value} (h : Lists p v) :
    Lists q v := by
  refine Or.imp_right (fun ⟨es, hes, hlist⟩ => ⟨es, hes, ?_⟩) h
  revert hlist
  split
  · exact fun hall item hitem => hpq item (hall item hitem)
  all_goals exact id

end Reply

/-! ## Operations -/

namespace Operation

open Reply

theorem exists_concludeValue_iff {op : Operation} {v : Value} (h : IsJson v) :
    (∃ w, (op.concludeValue v).result = .ok w) ↔ op.Accepts Takeable v := by
  cases op with
  | createIndex | updateIndex | getIndex => exact exists_wrap_iff rfl
  | addDocuments | search => exact (exists_wrap_iff rfl).trans wrappable_orEmpty_iff
  | listIngresses =>
    simp only [concludeValue, Settled.quiet, mapError_eq_ok_iff]
    exact exists_listIngresses_iff h
  | createIngress | getIngress | updateIngress =>
    simp only [concludeValue, Settled.quiet, mapError_eq_ok_iff]
    exact exists_wrapIngress_iff
  | _ => simp [concludeValue, Settled.quiet, Accepts]

theorem Accepts.imp {p q : Entries Value → Prop} (hpq : ∀ es, p es → q es) {op : Operation}
    {v : Value} (h : op.Accepts p v) : op.Accepts q v := by
  cases op with
  | listIngresses => exact Lists.imp (fun _ => Wrappable.imp hpq) h
  | updateDocument | deleteIndex | deleteDocument | deleteDocuments | deleteIngress
  | indexExists | ingressExists => exact h
  | _ => exact Wrappable.imp hpq h

theorem result_conclude_ok (op : Operation) (v : Value) :
    (op.conclude (.ok v)).result = (op.concludeValue v).result := by
  cases op <;> rfl

/-- Behind a base with a scheme, a successful response ends with what its reply becomes. -/
theorem result_of_success {baseUrl : String} {apiKey : Option String} {x : Executor}
    (hx : (Connection.of baseUrl apiKey).executor = .ok x) (hscheme : x.base.scheme ≠ [])
    {op : Operation} {r : Response} (hsent : ((op.plan x).run (.response r)).requests ≠ [])
    (hsuccess : r.isSuccess = true) {v : Value} (hreply : r.reply = .ok v) :
    ((op.plan x).run (.response r)).result = (op.concludeValue v).result := by
  obtain ⟨request, hmem⟩ := List.exists_mem_of_ne_nil _ hsent
  obtain ⟨e, he, -⟩ := Plan.mem_requests_run.1 hmem
  obtain ⟨method, path, hsettled⟩ :=
    exists_settle_of_scheme he (hasScheme_of_executor hx hscheme)
  rw [Plan.result_run he, hsettled, Executor.settle_of_success hsuccess, hreply, result_conclude_ok]

end Operation

/-- **Successful replies are accepted**, but for objects that fit no model and name the class, and
    for what cannot be gone through as a list of ingresses. Whether names that are said to be given
    but cannot be gone through are accepted is left open. -/
theorem successful_reply_accepted {baseUrl : String} {apiKey : Option String} {x : Executor}
    (hx : (Connection.of baseUrl apiKey).executor = .ok x) (hscheme : x.base.scheme ≠ [])
    {op : Operation} {r : Response} (hsent : ((op.plan x).run (.response r)).requests ≠ [])
    (hsuccess : r.isSuccess = true) {v : Value} (hreply : r.reply = .ok v) :
    (op.Accepts Reply.Takeable v → ∃ w, ((op.plan x).run (.response r)).result = .ok w) ∧
      ((∃ w, ((op.plan x).run (.response r)).result = .ok w) → op.Accepts Reply.Classless v) := by
  rw [Operation.result_of_success hx hscheme hsent hsuccess hreply,
    Operation.exists_concludeValue_iff (Response.isJson_of_reply hreply)]
  exact ⟨id, Operation.Accepts.imp fun _ => And.left⟩

/-- A successful response whose reply can be read. -/
def IsReply (r : Response) : Prop :=
  r.isSuccess = true ∧ ∃ v, r.reply = .ok v

theorem isReply_of_isSome {r : Response} (hsuccess : r.isSuccess = true)
    (h : r.reply.toOption.isSome = true) : IsReply r := by
  refine ⟨hsuccess, ?_⟩
  cases hreply : r.reply with
  | error e =>
    rw [hreply] at h
    exact absurd h Bool.false_ne_true
  | ok v => exact ⟨v, rfl⟩

/-- The configuration of an index is accepted although its identifier is no text. -/
theorem successful_reply_accepted_of_misfit :
    ∃ r : Response, r.body = Text.Utf8.encode "\x7b\"id\":5,\"note\":null\x7d".toList ∧
      ∃ w, (((Operation.getIndex (.text "books")).plan rootExecutor).run
        (.response r)).result = .ok w := by
  let r : Response := ⟨200, none, Text.Utf8.encode "\x7b\"id\":5,\"note\":null\x7d".toList⟩
  have hsent : (((Operation.getIndex (.text "books")).plan rootExecutor).run
      (.response r)).requests ≠ [] := by
    decide +kernel
  have hcls : r.object.has "cls" = false := by decide +kernel
  have hset : (r.object.get? "_fields_set").isSome = false := by decide +kernel
  obtain ⟨-, v, hreply⟩ := isReply_of_isSome (r := r) rfl (by decide +kernel)
  have haccepted :=
    (successful_reply_accepted executor_root (List.cons_ne_nil _ _) hsent rfl hreply).1
  refine ⟨r, rfl, haccepted ?_⟩
  rintro es rfl
  rw [Response.object_of_reply hreply] at hcls hset
  refine Or.inr ⟨hcls, fun given hgiven => ?_⟩
  rw [hgiven] at hset
  exact absurd hset.symm Bool.false_ne_true

/-- An object that names the class is rejected, and so is a list of ingresses that is null. -/
theorem successful_reply_rejected :
    (∃ r : Response, r.body = Text.Utf8.encode "\x7b\"cls\":1\x7d".toList ∧ IsReply r ∧
      (((Operation.getIndex (.text "books")).plan rootExecutor).run
        (.response r)).requests.length = 1 ∧
      (((Operation.getIndex (.text "books")).plan rootExecutor).run
        (.response r)).result.toOption.isNone = true) ∧
    ∃ r : Response, r.body = Text.Utf8.encode "\x7b\"ingresses\":null\x7d".toList ∧ IsReply r ∧
      (((Operation.listIngresses (.text "books")).plan rootExecutor).run
        (.response r)).requests.length = 1 ∧
      (((Operation.listIngresses (.text "books")).plan rootExecutor).run
        (.response r)).result.toOption.isNone = true := by
  constructor
  · refine ⟨⟨200, none, _⟩, rfl, isReply_of_isSome rfl ?_, ?_, ?_⟩ <;> decide +kernel
  · refine ⟨⟨200, none, _⟩, rfl, isReply_of_isSome rfl ?_, ?_, ?_⟩ <;> decide +kernel

end Client

end SearchClient
