import Mathlib
import SearchClient.Client.Surface
import SearchClient.Proofs.Address
import SearchClient.Proofs.Entries
import SearchClient.Proofs.Except
import SearchClient.Proofs.Writing

set_option autoImplicit false

/-! # What is sent

A plan that is carried out sends the request of its exchange, if it comes to one. The request of an
operation has the method of the operation, and goes to the address that its path and parameters
give (`Operation.request_of_mem`). An operation whose content has a text is sent, unless its address,
a header or an integer that is too long to be written is at fault (`Operation.sent_of_writable`). If
its content is written, that integer stands in its address (`Operation.fails_tooLong_iff`). -/

namespace SearchClient.Failure

/-- A problem with the address of a request or with a header. -/
def Problem.Unsendable (p : Problem) : Prop :=
  match p with
  | .badAddress | .notAscii _ | .badHost _ => True
  | _ => False

end SearchClient.Failure

namespace SearchClient.Http

open Failure (Problem)

theorem Plan.mem_requests_run {p : Plan} {outcome : Outcome} {r : Request} :
    r ∈ (p.run outcome).requests ↔ ∃ e, p.exchange = .ok e ∧ r = e.request := by
  unfold Plan.run
  cases p.exchange <;> simp

/-- Nothing was sent, for a problem. -/
def Trace.Fails (t : Trace) (problem : Problem) : Prop :=
  t.requests = [] ∧ t.result = .error problem

/-- One request was sent, or none for its address, a header or an integer that is too long to be
    written. -/
def Trace.Sent (t : Trace) : Prop :=
  (∃ r, t.requests = [r]) ∨ (∃ problem : Problem, problem.Unsendable ∧ t.Fails problem) ∨
    t.Fails (.misuse .tooLong)

/-- Where the requests of a trace show one thing, one of them shows it. -/
theorem Trace.exists_request {α : Type} {t : Trace} {f : Request → α} {a : α}
    (h : t.requests.map f = [a]) : ∃ r ∈ t.requests, f r = a := by
  rw [← List.mem_map, h]
  exact List.mem_singleton_self a

theorem Plan.requests_run {p : Plan} {e : Exchange} (h : p.exchange = .ok e) (outcome : Outcome) :
    (p.run outcome).requests = [e.request] := by
  simp only [Plan.run, h]

theorem Plan.result_run {p : Plan} {e : Exchange} (h : p.exchange = .ok e) (outcome : Outcome) :
    (p.run outcome).result = (e.settle outcome).result := by
  simp only [Plan.run, h]

theorem Plan.fails_run {p : Plan} {problem : Problem} (h : p.exchange = .error problem)
    (outcome : Outcome) : (p.run outcome).Fails problem := by
  simp only [Plan.run, h, Trace.Fails, and_self]

namespace Headers

theorem text_of_mem_build (apiKey : Option String) :
    ∀ e ∈ build apiKey [], ∃ s, e.2 = .text s := by
  intro e he
  unfold build at he
  simp only [Entries.merge, List.foldl_nil] at he
  split at he
  · split at he
    · rw [List.mem_singleton.1 he]
      exact ⟨_, rfl⟩
    · rcases Entries.mem_put he with hold | rfl
      · rw [List.mem_singleton.1 hold]
        exact ⟨_, rfl⟩
      · exact ⟨_, rfl⟩
  · rw [List.mem_singleton.1 he]
    exact ⟨_, rfl⟩

theorem unsendable_of_sendable {s : String} {p : Problem} (h : sendable s = .error p) :
    p.Unsendable := by
  unfold sendable at h
  split at h
  · obtain rfl := Except.error.inj h
    trivial
  · exact nomatch h

/-- Headers that are texts fail only for characters outside ASCII. -/
theorem unsendable_of_check {hs : Entries Value} (htext : ∀ e ∈ hs, ∃ s, e.2 = .text s)
    {p : Problem} (h : check hs = .error p) : p.Unsendable := by
  induction hs with
  | nil => exact nomatch h
  | cons e hs ih =>
      obtain ⟨name, v⟩ := e
      obtain ⟨⟨s, rfl⟩, hrest⟩ := List.forall_mem_cons.1 htext
      rcases bind_eq_error_iff.1 h with hname | ⟨_, -, h⟩
      · exact unsendable_of_sendable hname
      rcases bind_eq_error_iff.1 h with hvalue | ⟨_, -, h⟩
      · exact unsendable_of_sendable hvalue
      rcases bind_eq_error_iff.1 h with hmore | ⟨_, -, h⟩
      · exact ih hrest hmore
      · exact nomatch h

theorem unsendable_of_checkHost {hs : Headers} {a : Address} {p : Problem}
    (h : checkHost hs a = .error p) : p.Unsendable := by
  unfold checkHost at h
  split at h
  · exact nomatch h
  rcases bind_eq_error_iff.1 h with hdomain | ⟨_, -, h⟩
  · obtain ⟨fault, -, rfl⟩ := mapError_eq_error_iff.1 hdomain
    trivial
  split at h
  · obtain rfl := Except.error.inj h
    trivial
  · exact nomatch h

end Headers

namespace Executor

/-- The address that a path and parameters are sent to. -/
def address? (x : Executor) (path : String) (params : Params) : Option Address :=
  (x.base.resolve? path).bind fun a => (params.query?.map a.withQuery?).getD (some a)

/-- Parameters replace the query, whatever it was. -/
theorem query_of_address {x : Executor} {path : String} {params : Params} {a : Address}
    {query : List Char} (h : x.address? path params = some a) (hquery : params.query? = some query) :
    a.query = some query := by
  obtain ⟨resolved, -, h⟩ := Option.bind_eq_some_iff.1 h
  rw [hquery] at h
  exact (Address.withQuery?_eq_some h).2

theorem addressed_eq_ok_iff {a? : Option Address} {a : Address} :
    addressed a? = .ok a ↔ a? = some a := by
  cases a? <;> simp [addressed]

theorem unsendable_of_addressed {a? : Option Address} {p : Problem}
    (h : addressed a? = .error p) : p.Unsendable := by
  cases a? with
  | none =>
    obtain rfl := Except.error.inj h
    trivial
  | some a => exact nomatch h

theorem request_eq_ok {x : Executor} {method path : String} {params : Params} {body : String}
    {extra : Entries Value} {r : Request} (h : x.request method path params body extra = .ok r) :
    ∃ a, x.address? path params = some a ∧ r.method = Text.upper method ∧
      r.url = String.ofList a.render := by
  obtain ⟨resolved, hresolved, h⟩ := bind_eq_ok_iff.1 h
  obtain ⟨headers, -, h⟩ := bind_eq_ok_iff.1 h
  obtain ⟨a, ha, h⟩ := bind_eq_ok_iff.1 h
  obtain ⟨-, -, h⟩ := bind_eq_ok_iff.1 h
  obtain rfl := Except.ok.inj h
  rw [addressed_eq_ok_iff] at hresolved ha
  exact ⟨a, by rw [address?, hresolved]; exact ha, rfl, rfl⟩

theorem body_of_request {x : Executor} {method path : String} {params : Params} {body : String}
    {extra : Entries Value} {r : Request} (h : x.request method path params body extra = .ok r) :
    r.body = body := by
  obtain ⟨resolved, -, h⟩ := bind_eq_ok_iff.1 h
  obtain ⟨headers, -, h⟩ := bind_eq_ok_iff.1 h
  obtain ⟨a, -, h⟩ := bind_eq_ok_iff.1 h
  obtain ⟨-, -, h⟩ := bind_eq_ok_iff.1 h
  obtain rfl := Except.ok.inj h
  rfl

/-- Whether there is a request does not hang on its method and body. -/
theorem exists_request {x : Executor} {method path : String} {params : Params} {body : String}
    {extra : Entries Value} {r : Request} (h : x.request method path params body extra = .ok r)
    (method' body' : String) : ∃ r', x.request method' path params body' extra = .ok r' := by
  obtain ⟨resolved, hresolved, h⟩ := bind_eq_ok_iff.1 h
  obtain ⟨headers, hheaders, h⟩ := bind_eq_ok_iff.1 h
  obtain ⟨a, ha, h⟩ := bind_eq_ok_iff.1 h
  obtain ⟨⟨⟩, hhost, -⟩ := bind_eq_ok_iff.1 h
  simp only [request, bind, Except.bind, hresolved, hheaders, ha, hhost]
  exact ⟨_, rfl⟩

theorem plan_exchange {x : Executor} {method path : String} {params : Params} {body : Body}
    {extra : Entries Value} {e : Exchange}
    (h : (x.plan method path params body extra).exchange = .ok e) :
    ∃ text, bodyText body = .ok text ∧ x.request method path params text extra = .ok e.request ∧
      e.settle = settleAt e.request.url method path := by
  unfold plan at h
  split at h
  · exact nomatch h
  · next text htext =>
    obtain ⟨r, hr, rfl⟩ := map_eq_ok_iff.1 h
    exact ⟨text, htext, hr, rfl⟩

/-! ## Requests that cannot be sent -/

/-- A request without headers of the caller fails only for its address or a header of its own. -/
theorem unsendable_of_request {x : Executor} {method path : String} {params : Params}
    {body : String} {p : Problem} (h : x.request method path params body [] = .error p) :
    p.Unsendable := by
  rcases bind_eq_error_iff.1 h with haddress | ⟨resolved, -, h⟩
  · exact unsendable_of_addressed haddress
  rcases bind_eq_error_iff.1 h with hheaders | ⟨headers, -, h⟩
  · exact Headers.unsendable_of_check (Headers.text_of_mem_build x.apiKey) hheaders
  rcases bind_eq_error_iff.1 h with haddress | ⟨a, -, h⟩
  · exact unsendable_of_addressed haddress
  rcases bind_eq_error_iff.1 h with hhost | ⟨_, -, h⟩
  · exact Headers.unsendable_of_checkHost hhost
  · exact nomatch h

end Executor

end SearchClient.Http

namespace SearchClient.Client.Operation

open Http Failure

/-- What an operation sends is its method and path, with parameters and content. -/
theorem call_eq_bare {op : Operation} {c : Call} (h : op.call = .ok c) :
    c = { op.bare with params := c.params, body := c.body, events := c.events } := by
  cases op with
  | updateIndex | updateDocument | createIngress =>
    obtain ⟨data, -, h⟩ := bind_eq_ok_iff.1 h
    obtain rfl := Except.ok.inj h
    rfl
  | addDocuments =>
    obtain ⟨lines, -, h⟩ := bind_eq_ok_iff.1 h
    obtain rfl := Except.ok.inj h
    rfl
  | deleteDocuments | search =>
    obtain ⟨_, -, h⟩ := bind_eq_ok_iff.1 h
    obtain ⟨_, -, h⟩ := bind_eq_ok_iff.1 h
    obtain rfl := Except.ok.inj h
    rfl
  | _ =>
    obtain rfl := Except.ok.inj h
    rfl

/-- Methods are in upper case. -/
theorem upper_method (op : Operation) : Text.upper op.method = op.method := by
  have hupper : ∀ m ∈ ["POST", "PATCH", "DELETE", "GET"], Text.upper m = m := by decide +kernel
  refine hupper op.method ?_
  cases op <;> simp [method]

/-- The exchange of an operation is that of its call, whose result it concludes. -/
theorem plan_exchange_eq {x : Executor} {op : Operation} {e : Exchange}
    (h : (op.plan x).exchange = .ok e) :
    ∃ c e₀, op.call = .ok c ∧ (x.plan op.method op.path c.params c.body []).exchange = .ok e₀ ∧
      e.request = e₀.request ∧
      ∀ outcome, (e.settle outcome).result = (op.conclude (e₀.settle outcome).result).result := by
  unfold plan at h
  split at h
  · exact nomatch h
  · next c hc =>
    dsimp only at h
    split at h
    · exact nomatch h
    · obtain ⟨e₀, he₀, rfl⟩ := map_eq_ok_iff.1 h
      rw [call_eq_bare hc] at he₀
      exact ⟨c, e₀, hc, he₀, rfl, fun _ => rfl⟩

theorem plan_exchange {x : Executor} {op : Operation} {e : Exchange}
    (h : (op.plan x).exchange = .ok e) :
    ∃ c e₀, op.call = .ok c ∧ (x.plan op.method op.path c.params c.body []).exchange = .ok e₀ ∧
      e.request = e₀.request := by
  obtain ⟨c, e₀, hc, he₀, hrequest, -⟩ := plan_exchange_eq h
  exact ⟨c, e₀, hc, he₀, hrequest⟩

/-- The result of an exchange is what its operation concludes from the settled outcome. -/
theorem exists_settle_of_exchange {x : Executor} {op : Operation} {e : Exchange}
    (he : (op.plan x).exchange = .ok e) :
    ∃ method path text params, x.request method path params text [] = .ok e.request ∧
      ∀ outcome, (e.settle outcome).result =
        (op.conclude (Executor.settleAt e.request.url method path outcome).result).result := by
  obtain ⟨c, e₀, -, he₀, hrequest, hsettled⟩ := plan_exchange_eq he
  obtain ⟨text, -, hmade, hsettle⟩ := Executor.plan_exchange he₀
  refine ⟨_, _, text, _, hrequest ▸ hmade, fun outcome => ?_⟩
  rw [hsettled, hsettle, hrequest]

theorem fails_of_call {x : Executor} {op : Operation} {p : Problem} (h : op.call = .error p)
    (outcome : Outcome) : ((op.plan x).run outcome).Fails p := by
  refine Plan.fails_run ?_ outcome
  simp only [plan, h, Plan.refuse]

/-- An operation that is sent has an address that can be written. -/
theorem isLegible_of_exchange {x : Executor} {op : Operation} {e : Exchange}
    (h : (op.plan x).exchange = .ok e) : op.isLegible = true := by
  obtain ⟨c, e₀, hc, he₀, -⟩ := plan_exchange_eq h
  obtain ⟨text, htext, -⟩ := Executor.plan_exchange he₀
  by_contra hlegible
  rw [Bool.not_eq_true] at hlegible
  simp only [plan, hc, htext, hlegible] at h
  exact nomatch h

/-- Where all can be written only the request itself can be at fault. -/
theorem request_of_exchange {x : Executor} {op : Operation} {c : Call} (hc : op.call = .ok c)
    {text : String} (hbody : Executor.bodyText c.body = .ok text) (hlegible : op.isLegible = true)
    {p : Problem} (h : (op.plan x).exchange = .error p) :
    x.request c.method c.path c.params text [] = .error p := by
  simp only [plan, hc, Plan.followedBy, Executor.plan, hbody, hlegible] at h
  exact map_eq_error_iff.1 (map_eq_error_iff.1 h)

section

variable {x : Executor} {op : Operation} {c : Call} (hc : op.call = .ok c) {text : String}
  (hbody : Executor.bodyText c.body = .ok text) (outcome : Outcome)

include hc hbody

/-- Where the address can be written, only the request itself can keep it from being sent. -/
theorem sent_of_isLegible (hlegible : op.isLegible = true) :
    (∃ r, ((op.plan x).run outcome).requests = [r]) ∨
      ∃ p : Problem, p.Unsendable ∧ ((op.plan x).run outcome).Fails p := by
  cases he : (op.plan x).exchange with
  | ok e => exact Or.inl ⟨e.request, Plan.requests_run he outcome⟩
  | error p =>
    have hrequest := request_of_exchange hc hbody hlegible he
    exact Or.inr ⟨p, Executor.unsendable_of_request hrequest, Plan.fails_run he outcome⟩

/-- **Integers that are too long.** What can be written fails for an integer exactly if one in its
    address is too long. -/
theorem fails_tooLong_iff :
    ((op.plan x).run outcome).Fails (.misuse .tooLong) ↔ op.isLegible = false := by
  constructor
  · rintro ⟨hrequests, hresult⟩
    rw [← Bool.not_eq_true]
    intro hlegible
    rcases sent_of_isLegible hc hbody outcome hlegible with ⟨r, hr⟩ | ⟨p, hp, -, hfails⟩
    · rw [hrequests] at hr
      exact nomatch hr
    · rw [hresult] at hfails
      obtain rfl := Except.error.inj hfails
      exact hp
  · intro hlegible
    refine Plan.fails_run ?_ outcome
    simp only [plan, hc, hbody, hlegible, Plan.refuse]

/-- **What can be written is sent**, unless its address or a header is at fault. -/
theorem sent_of_bodyText : ((op.plan x).run outcome).Sent := by
  cases hlegible : op.isLegible with
  | false => exact Or.inr (Or.inr ((fails_tooLong_iff hc hbody outcome).2 hlegible))
  | true => exact (sent_of_isLegible hc hbody outcome hlegible).imp_right Or.inl

end

/-- What cannot be written is not sent. -/
theorem fails_of_bodyText {x : Executor} {op : Operation} {c : Call} (hc : op.call = .ok c)
    {p : Problem} (hbody : Executor.bodyText c.body = .error p) (outcome : Outcome) :
    ((op.plan x).run outcome).Fails p := by
  refine Plan.fails_run ?_ outcome
  simp only [plan, hc, Plan.followedBy, Executor.plan, hbody, Plan.refuse]
  rfl

/-- Data that have a text are sent, unless the address, a header or an integer is at fault. -/
theorem sent_of_writable {x : Executor} {op : Operation} {c : Call} (hc : op.call = .ok c) {v : Value}
    (hbody : c.body = .json v) (hv : Json.Writable v) (outcome : Outcome) :
    ((op.plan x).run outcome).Sent := by
  cases htext : Executor.bodyText c.body with
  | ok text => exact sent_of_bodyText hc htext outcome
  | error p =>
    rw [hbody] at htext
    obtain ⟨m, hm, rfl⟩ := mapError_eq_error_iff.1 htext
    obtain rfl := Json.eq_tooLong_of_content hv hm
    refine Or.inr (Or.inr (fails_of_bodyText hc ?_ outcome))
    rw [hbody, htext]

/-- **Where one operation is sent, so is another** with the same path and parameters. -/
theorem requests_ne_nil_of_path {x : Executor} {op other : Operation} {outcome : Outcome}
    (hsent : ((op.plan x).run outcome).requests ≠ []) {c d : Call} (hc : op.call = .ok c)
    (hd : other.call = .ok d) (hpath : other.path = op.path) (hparams : d.params = c.params)
    (hshown : other.shown = op.shown) {text : String} (hbody : Executor.bodyText d.body = .ok text)
    (next : Outcome) : ((other.plan x).run next).requests ≠ [] := by
  obtain ⟨r, hr⟩ := List.exists_mem_of_ne_nil _ hsent
  obtain ⟨e, he, -⟩ := Plan.mem_requests_run.1 hr
  obtain ⟨c', e₀, hc', he₀, -⟩ := plan_exchange he
  obtain ⟨_, -, hrequest, -⟩ := Executor.plan_exchange he₀
  rw [hc] at hc'
  obtain rfl := Except.ok.inj hc'
  cases hother : (other.plan x).exchange with
  | ok e =>
    rw [Plan.requests_run hother]
    exact List.cons_ne_nil _ _
  | error p =>
    have hlegible : other.isLegible = true := by
      rw [isLegible, hshown]
      exact isLegible_of_exchange he
    have hfails := request_of_exchange hd hbody hlegible hother
    rw [call_eq_bare hd] at hfails
    obtain ⟨r', hr'⟩ := Executor.exists_request hrequest other.method text
    rw [← hpath, ← hparams] at hr'
    exact absurd (hr'.symm.trans hfails) (by simp)

theorem sent_of_call {x : Executor} {op : Operation} {c : Call} (hc : op.call = .ok c)
    (hbody : c.body = .none) (outcome : Outcome) : ((op.plan x).run outcome).Sent :=
  sent_of_bodyText hc (by rw [hbody]; rfl) outcome

/-- A request of an operation carries what its call does. -/
theorem body_of_mem {x : Executor} {op : Operation} {outcome : Outcome} {r : Request}
    (h : r ∈ ((op.plan x).run outcome).requests) {c : Call} (hc : op.call = .ok c) :
    Executor.bodyText c.body = .ok r.body := by
  obtain ⟨e, he, rfl⟩ := Plan.mem_requests_run.1 h
  obtain ⟨c', e₀, hc', he₀, hrequest⟩ := plan_exchange he
  obtain ⟨text, htext, hsent, -⟩ := Executor.plan_exchange he₀
  rw [hc] at hc'
  obtain rfl := Except.ok.inj hc'
  rw [htext, hrequest, Executor.body_of_request hsent]

/-- The address that an operation is sent to. -/
def address? (op : Operation) (x : Executor) : Option Address :=
  op.call.toOption.bind fun c => x.address? op.path c.params

/-- **What an operation sends.** A request of an operation has its method, and the address that the
    path and the parameters of its call give. -/
theorem request_of_mem {x : Executor} {op : Operation} {outcome : Outcome} {r : Request}
    (h : r ∈ ((op.plan x).run outcome).requests) :
    ∃ c a, op.call = .ok c ∧ x.address? op.path c.params = some a ∧ r.method = op.method ∧
      r.url = String.ofList a.render := by
  obtain ⟨e, he, rfl⟩ := Plan.mem_requests_run.1 h
  obtain ⟨c, e₀, hc, he₀, hrequest⟩ := plan_exchange he
  obtain ⟨text, -, hsent, -⟩ := Executor.plan_exchange he₀
  obtain ⟨a, ha, hmethod, hurl⟩ := Executor.request_eq_ok hsent
  rw [upper_method] at hmethod
  rw [hrequest]
  exact ⟨c, a, hc, ha, hmethod, hurl⟩

end SearchClient.Client.Operation

namespace SearchClient.Client

/-- The base of an executor is read from the address of its connection. -/
theorem executor_eq_ok {c : Connection} {x : Http.Executor} (h : c.executor = .ok x) :
    ∃ a, Http.Address.parse? c.baseUrl = some a ∧ a.asBase? = some x.base := by
  unfold Connection.executor at h
  split at h
  · next base hread =>
    obtain rfl := Except.ok.inj h
    exact Option.bind_eq_some_iff.1 hread
  · exact nomatch h

/-- What sends requests to the root of a host, without a key. -/
def rootExecutor : Http.Executor :=
  ⟨⟨"http".toList, [], "bright.test".toList, none, [], none, none⟩, none⟩

theorem executor_root : (Connection.of "http://bright.test" none).executor = .ok rootExecutor := by
  have hurl : Schema.withoutSlashes "http://bright.test" = "http://bright.test" := by
    decide +kernel
  have hread : (Http.Address.parse? "http://bright.test").bind Http.Address.asBase? =
      some rootExecutor.base := by
    decide +kernel
  simp only [Connection.of, Connection.executor, hurl, hread]
  rfl

end SearchClient.Client
