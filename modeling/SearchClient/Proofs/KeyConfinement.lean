import Mathlib
import SearchClient.Proofs.Confinement
import SearchClient.Proofs.Headers

set_option autoImplicit false

/-! # Keys that stay in their header

A key that a header can hold adds one header to each request, and changes nothing else: what is
logged, the other headers, and how outcomes are settled are those of a client without a key
(`Connection.session_withKey`). So two sessions with different keys differ in that header alone. The
exceptions are keys that no header can hold, for which nothing is sent, and credentials in the
address of a client, which stand in place of its key (`Client.key_confined`). -/

namespace SearchClient

open Failure (Problem)

/-! ## Adding a key -/

namespace Http

/-- The header that carries a key. -/
def bearer (key : String) : String × String :=
  ("Authorization", "Bearer " ++ key)

/-- A request with a key behind its other headers. -/
def Request.withKey (key : String) (r : Request) : Request :=
  { r with headers := r.headers ++ [bearer key] }

/-- An exchange whose request carries a key. -/
def Exchange.withKey (key : String) (e : Exchange) : Exchange :=
  { e with request := e.request.withKey key }

/-- A plan whose request carries a key. -/
def Plan.withKey (key : String) (p : Plan) : Plan :=
  { p with exchange := p.exchange.map (Exchange.withKey key) }

/-- What a plan does whose requests carry a key. -/
def Trace.withKey (key : String) (t : Trace) : Trace :=
  { t with requests := t.requests.map (Request.withKey key) }

theorem Plan.run_withKey (key : String) (p : Plan) (outcome : Outcome) :
    (p.withKey key).run outcome = (p.run outcome).withKey key := by
  unfold Plan.run Plan.withKey
  cases p.exchange <;> rfl

theorem Plan.followedBy_withKey (key : String) (p : Plan) (next : Except Problem Value → Settled) :
    (p.withKey key).followedBy next = (p.followedBy next).withKey key := by
  unfold Plan.followedBy Plan.withKey
  cases p.exchange <;> rfl

namespace Headers

theorem sendable_of_isAscii {s : String} (h : IsAscii s) : sendable s = .ok s := by
  obtain ⟨t, ht⟩ := exists_sendable_iff.2 h
  rw [ht, eq_of_sendable ht]

theorem check_texts {hs : Headers} (h : ∀ e ∈ hs, IsAscii e.1 ∧ IsAscii e.2) :
    check (hs.map fun e => (e.1, Value.text e.2)) = .ok hs := by
  induction hs with
  | nil => rfl
  | cons e hs ih =>
      obtain ⟨⟨hname, hvalue⟩, hrest⟩ := List.forall_mem_cons.1 h
      simp only [List.map_cons, check, Value.asText?, sendable_of_isAscii hname,
        sendable_of_isAscii hvalue, ih hrest]
      rfl

theorem values_append (hs hs' : Headers) (name : String) :
    values (hs ++ hs') name = values hs name ++ values hs' name := by
  rw [values, named, List.filter_append, List.map_append]
  rfl

theorem values_bearer (key name : String) :
    values [bearer key] name = if sameName "Authorization" name then ["Bearer " ++ key] else [] := by
  unfold values named bearer
  rw [List.filter_cons]
  split <;> rfl

/-- What a request has without a key. -/
def keyless : Headers :=
  [("Content-Type", "application/json")]

theorem isAscii_keyless : ∀ e ∈ keyless, IsAscii e.1 ∧ IsAscii e.2 := by
  decide +kernel

theorem check_build_none : check (build none []) = .ok keyless := by
  rw [build_eq]
  exact check_texts isAscii_keyless

theorem check_build_key {key : String} (hne : key ≠ "") (hascii : IsAscii key) :
    check (build (some key) []) = .ok (keyless ++ [bearer key]) := by
  have hbuild : build (some key) [] =
      (keyless ++ [bearer key]).map fun e => (e.1, Value.text e.2) := by
    rw [build_eq]
    simp [Option.filter, hne, keyless, bearer]
  rw [hbuild]
  refine check_texts fun e he => ?_
  rcases List.mem_append.1 he with hold | hnew
  · exact isAscii_keyless e hold
  · rw [List.mem_singleton.1 hnew]
    exact ⟨show IsAscii "Authorization" by decide +kernel, isAscii_bearer.2 hascii⟩

/-- Without a header for the host, other headers are no matter. -/
theorem checkHost_congr {hs hs' : Headers} (hhost : hs.value? "Host" = none)
    (hhost' : hs'.value? "Host" = none) (a : Address) : checkHost hs a = checkHost hs' a := by
  unfold checkHost
  rw [hhost, hhost']

theorem forAddress_of_no_credentials (hs : Headers) {a : Address} (h : credentials? a = none) :
    hs.forAddress a = hs := by
  simp only [forAddress, h]

end Headers

namespace Executor

variable {base : Address} {key : String}

theorem request_withKey (hne : key ≠ "") (hascii : IsAscii key) {method path : String}
    (hbare : ∀ a, base.resolve? path = some a → Headers.credentials? a = none)
    (params : Params) (body : String) :
    request ⟨base, some key⟩ method path params body [] =
      (request ⟨base, none⟩ method path params body []).map (Request.withKey key) := by
  unfold request
  cases hresolved : base.resolve? path with
  | none => rfl
  | some a =>
    -- neither the one nor the other headers tell the host, so it is checked in the same way
    have hkeyed := Headers.check_build_key hne hascii
    have hhost := Headers.value?_host hkeyed a
    have hhost' := Headers.value?_host Headers.check_build_none a
    rw [Headers.forAddress_of_no_credentials _ (hbare a hresolved)] at hhost hhost'
    simp only [addressed, hkeyed, Headers.check_build_none, bind, Except.bind,
      Headers.forAddress_of_no_credentials _ (hbare a hresolved)]
    cases hnext : (params.query?.map a.withQuery?).getD (some a) with
    | none => rfl
    | some b =>
      simp only [Headers.checkHost_congr hhost hhost']
      cases Headers.checkHost Headers.keyless b <;> rfl

theorem plan_withKey (hne : key ≠ "") (hascii : IsAscii key) {method path : String}
    (hbare : ∀ a, base.resolve? path = some a → Headers.credentials? a = none)
    (params : Params) (body : Body) :
    plan ⟨base, some key⟩ method path params body [] =
      (plan ⟨base, none⟩ method path params body []).withKey key := by
  unfold plan Plan.withKey
  cases bodyText body with
  | error p => rfl
  | ok text =>
    simp only [request_withKey hne hascii hbare]
    cases request ⟨base, none⟩ method path params text [] <;> rfl

end Executor

/-! ## Differing in a key -/

open Headers in
/-- Requests that differ in nothing but the keys that they carry. -/
structure Request.DifferInKey (k₁ k₂ : String) (r₁ r₂ : Request) : Prop where
  method : r₁.method = r₂.method
  url : r₁.url = r₂.url
  body : r₁.body = r₂.body
  others : ∀ name, sameName "Authorization" name = false →
    values r₁.headers name = values r₂.headers name
  first : values r₁.headers "Authorization" = ["Bearer " ++ k₁]
  second : values r₂.headers "Authorization" = ["Bearer " ++ k₂]

/-- Traces that differ in nothing but the keys of their requests. -/
structure Trace.DifferInKey (k₁ k₂ : String) (t₁ t₂ : Trace) : Prop where
  requests : List.Forall₂ (Request.DifferInKey k₁ k₂) t₁.requests t₂.requests
  events : t₁.events = t₂.events
  result : t₁.result = t₂.result

theorem Request.DifferInKey.contentType {k₁ k₂ : String} {r₁ r₂ : Request}
    (h : DifferInKey k₁ k₂ r₁ r₂) : r₁.contentType = r₂.contentType := by
  rw [Request.contentType, Request.contentType, Headers.value?_eq, Headers.value?_eq,
    h.others "Content-Type" (by decide +kernel)]

theorem Request.differInKey_withKey (k₁ k₂ : String) {r : Request}
    (h : r.headers = Headers.keyless) : DifferInKey k₁ k₂ (r.withKey k₁) (r.withKey k₂) := by
  have hvalues (key name : String) : Headers.values (r.withKey key).headers name =
      Headers.values Headers.keyless name ++ Headers.values [bearer key] name := by
    rw [Request.withKey, h, Headers.values_append]
  have hnone : Headers.values Headers.keyless "Authorization" = [] := by decide +kernel
  refine ⟨rfl, rfl, rfl, fun name hother => ?_, ?_, ?_⟩
  · rw [hvalues, hvalues, Headers.values_bearer, Headers.values_bearer, hother]
    rfl
  · rw [hvalues, hnone, Headers.values_bearer]
    rfl
  · rw [hvalues, hnone, Headers.values_bearer]
    rfl

theorem Trace.differInKey_withKey (k₁ k₂ : String) {t : Trace}
    (h : ∀ r ∈ t.requests, r.headers = Headers.keyless) :
    DifferInKey k₁ k₂ (t.withKey k₁) (t.withKey k₂) := by
  refine ⟨?_, rfl, rfl⟩
  simp only [Trace.withKey, List.forall₂_map_left_iff, List.forall₂_map_right_iff,
    List.forall₂_same]
  exact fun r hr => Request.differInKey_withKey k₁ k₂ (h r hr)

namespace Headers

theorem credentials?_congr {a b : Address} (h : a.userinfo = b.userinfo) :
    credentials? a = credentials? b := by
  unfold credentials?
  rw [h]

/-- Credentials in an address are no key. -/
theorem credentials?_ne_bearer (a : Address) (key : String) :
    credentials? a ≠ some ("Bearer " ++ key) := by
  unfold credentials?
  intro h
  split at h
  split_ifs at h
  have hchars := congrArg String.toList (Option.some.inj h)
  simp at hchars

end Headers

end Http

namespace Client

open Http

/-! ## Sessions -/

/-- A call of an operation by its name. -/
structure Step where
  surface : Surface
  name : String
  arguments : List Value
  given : Entries Value

/-- What a client does in a session: one step after the other, each request with the next outcome of
    a script. -/
def Connection.session (c : Connection) (script : ℕ → Outcome) : ℕ → List Step → List Trace
  | _, [] => []
  | sent, s :: steps =>
    let t := (c.plan s.surface s.name s.arguments s.given).run (script sent)
    t :: c.session script (sent + t.requests.length) steps

/-- What is done in a session is done for some step of it. -/
theorem Connection.mem_session {c : Connection} {script : ℕ → Outcome} {sent : ℕ}
    {steps : List Step} {t : Trace} (h : t ∈ c.session script sent steps) :
    ∃ s ∈ steps, ∃ outcome, t = (c.plan s.surface s.name s.arguments s.given).run outcome := by
  induction steps generalizing sent with
  | nil => exact absurd h List.not_mem_nil
  | cons s steps ih =>
      rcases List.mem_cons.1 h with rfl | hrest
      · exact ⟨s, List.mem_cons_self, _, rfl⟩
      · obtain ⟨s', hs', hrun⟩ := ih hrest
        exact ⟨s', List.mem_cons_of_mem s hs', hrun⟩

/-- The base of the requests of a client at an address. -/
def base? (url : String) : Option Address :=
  (Address.parse? url).bind Address.asBase?

theorem Connection.executor_eq (url : String) (apiKey : Option String) :
    (Connection.mk url apiKey).executor =
      match base? url with
      | some base => .ok ⟨base, apiKey⟩
      | none => .error .badAddress :=
  rfl

/-- Whether a key gets to the server behind an address: a header can hold it, and the address brings
    no credentials of its own. -/
structure Bears (url key : String) : Prop where
  ascii : IsAscii key
  bare : ∀ base, base? url = some base → Headers.credentials? base = none

/-- An operation is sent to where its base is, with the credentials of the base. -/
theorem Operation.credentials?_of_resolve? {op : Operation} {base a : Address}
    (h : base.resolve? op.path = some a) : Headers.credentials? a = Headers.credentials? base := by
  have haddress : (⟨base, none⟩ : Executor).address? op.path [] = some a := by
    rw [Executor.address?, h]
    rfl
  exact Headers.credentials?_congr (Executor.site?_eq_some (Operation.site_of_address? haddress)).2.1

theorem Operation.plan_withKey {base : Address} {key : String} (hne : key ≠ "")
    (hascii : IsAscii key) (hbare : Headers.credentials? base = none) (op : Operation) :
    op.plan ⟨base, some key⟩ = (op.plan ⟨base, none⟩).withKey key := by
  unfold plan
  cases hc : op.call with
  | error p => rfl
  | ok c =>
    have hpath : c.path = op.path := congrArg Call.path (call_eq_bare hc)
    have hresolved : ∀ a, base.resolve? c.path = some a → Headers.credentials? a = none := by
      intro a ha
      rw [hpath] at ha
      exact (credentials?_of_resolve? ha).trans hbare
    simp only [Executor.plan_withKey hne hascii hresolved, Plan.followedBy_withKey]
    cases Executor.bodyText c.body with
    | error p => rfl
    | ok text => cases op.isLegible <;> rfl

theorem Connection.plan_withKey {url key : String} (hne : key ≠ "") (hbears : Bears url key)
    (s : Step) :
    (Connection.mk url (some key)).plan s.surface s.name s.arguments s.given =
      ((Connection.mk url none).plan s.surface s.name s.arguments s.given).withKey key := by
  unfold plan
  rw [executor_eq, executor_eq]
  cases hbase : base? url with
  | none => cases s.surface.operation s.name s.arguments s.given <;> rfl
  | some base =>
    cases s.surface.operation s.name s.arguments s.given with
    | error e => rfl
    | ok op => exact Operation.plan_withKey hne hbears.ascii (hbears.bare base hbase) op

/-- **A key adds a header.** A session with a key that gets to the server is the one without a key,
    with the key added to each request. -/
theorem Connection.session_withKey {url key : String} (hne : key ≠ "") (hbears : Bears url key)
    (script : ℕ → Outcome) (sent : ℕ) (steps : List Step) :
    (Connection.mk url (some key)).session script sent steps =
      ((Connection.mk url none).session script sent steps).map (Trace.withKey key) := by
  induction steps generalizing sent with
  | nil => rfl
  | cons s steps ih =>
      simp only [session, plan_withKey hne hbears, Plan.run_withKey, List.map_cons, ih]
      simp only [Trace.withKey, List.length_map]

/-- The headers of a request are those of its key, for an address with the credentials of the base. -/
theorem Connection.headers_of_mem {url : String} {apiKey : Option String} {script : ℕ → Outcome}
    {sent : ℕ} {steps : List Step} {t : Trace}
    (ht : t ∈ (Connection.mk url apiKey).session script sent steps) {r : Http.Request}
    (hr : r ∈ t.requests) :
    ∃ base a hs, base? url = some base ∧ Headers.credentials? a = Headers.credentials? base ∧
      Headers.check (Headers.build apiKey []) = .ok hs ∧ r.headers = hs.forAddress a := by
  obtain ⟨s, -, outcome, rfl⟩ := mem_session ht
  unfold plan at hr
  rw [executor_eq] at hr
  cases hbase : base? url with
  | none =>
    rw [hbase] at hr
    cases hop : s.surface.operation s.name s.arguments s.given with
    | error _ | ok _ =>
      rw [hop] at hr
      exact absurd hr List.not_mem_nil
  | some base =>
    rw [hbase] at hr
    cases hop : s.surface.operation s.name s.arguments s.given with
    | error e =>
      rw [hop] at hr
      exact absurd hr List.not_mem_nil
    | ok op =>
      rw [hop] at hr
      obtain ⟨e, he, rfl⟩ := Plan.mem_requests_run.1 hr
      obtain ⟨c, e₀, -, he₀, hrequest⟩ := Operation.plan_exchange he
      obtain ⟨text, -, hmade, -⟩ := Executor.plan_exchange he₀
      obtain ⟨a, hs, ha, hcheck, hheaders⟩ := Executor.headers_of_request hmade
      exact ⟨base, a, hs, rfl, Operation.credentials?_of_resolve? ha, hcheck,
        by rw [hrequest, hheaders]⟩

/-- Without a key and credentials in the address, the one header tells that content is JSON. -/
theorem Connection.headers_of_keyless {url : String}
    (hbare : ∀ base, base? url = some base → Headers.credentials? base = none)
    {script : ℕ → Outcome} {sent : ℕ} {steps : List Step} {t : Trace}
    (ht : t ∈ (Connection.mk url none).session script sent steps) {r : Http.Request}
    (hr : r ∈ t.requests) : r.headers = Headers.keyless := by
  obtain ⟨base, a, hs, hbase, hcredentials, hcheck, hheaders⟩ := headers_of_mem ht hr
  rw [Headers.check_build_none] at hcheck
  obtain rfl := Except.ok.inj hcheck
  rw [hheaders, Headers.forAddress_of_no_credentials _ (hcredentials.trans (hbare base hbase))]

/-- A key that is seen in a request is one that gets to the server. -/
theorem Connection.bears_of_mem {url key : String} {script : ℕ → Outcome} {sent : ℕ}
    {steps : List Step} {t : Trace}
    (ht : t ∈ (Connection.mk url (some key)).session script sent steps) {r : Http.Request}
    (hr : r ∈ t.requests) (hbearer : Headers.values r.headers "Authorization" = ["Bearer " ++ key]) :
    Bears url key := by
  obtain ⟨base, a, hs, hbase, hcredentials, hcheck, hheaders⟩ := headers_of_mem ht hr
  refine ⟨Headers.exists_check_build_iff.1 ⟨hs, hcheck⟩ key rfl, fun base' hbase' => ?_⟩
  obtain rfl := Option.some.inj (hbase'.symm.trans hbase)
  rw [hheaders, Headers.values_forAddress] at hbearer
  rw [← hcredentials]
  cases hvalue : Headers.credentials? a with
  | none => rfl
  | some value =>
    -- what stands in place of the key is no key
    have hsame : Headers.sameName "Authorization" "Authorization" = true := by decide +kernel
    simp only [hvalue, hsame, if_true, List.cons.injEq, and_true] at hbearer
    exact absurd (hbearer ▸ hvalue) (Headers.credentials?_ne_bearer a key)

/-- **Keys stay in their header.** Two sessions with keys that get to the server differ in nothing
    but the authorization of their requests, which is the key of the session as a bearer token; and
    if anything is sent, sessions do so only for keys that get to the server. -/
theorem key_confined {k₁ k₂ : String} (h₁ : k₁ ≠ "") (h₂ : k₂ ≠ "") (url : String)
    (script : ℕ → Outcome) (steps : List Step) :
    let run (key : String) := (Connection.mk url (some key)).session script 0 steps
    (Bears url k₁ ∧ Bears url k₂ → List.Forall₂ (Trace.DifferInKey k₁ k₂) (run k₁) (run k₂)) ∧
      (List.Forall₂ (Trace.DifferInKey k₁ k₂) (run k₁) (run k₂) →
        (∃ t ∈ run k₁, t.requests ≠ []) → Bears url k₁ ∧ Bears url k₂) := by
  intro run
  constructor
  · rintro ⟨hbears₁, hbears₂⟩
    simp only [run, Connection.session_withKey h₁ hbears₁, Connection.session_withKey h₂ hbears₂,
      List.forall₂_map_left_iff, List.forall₂_map_right_iff, List.forall₂_same]
    intro t ht
    exact Trace.differInKey_withKey k₁ k₂ fun r hr =>
      Connection.headers_of_keyless hbears₁.bare ht hr
  · rintro hdiffer ⟨t₁, ht₁, hne⟩
    obtain ⟨t₂, ht₂, hdiffer⟩ := exists_mem_of_forall₂ hdiffer ht₁
    obtain ⟨r₁, hr₁⟩ := List.exists_mem_of_ne_nil _ hne
    obtain ⟨r₂, hr₂, hdiffer⟩ := exists_mem_of_forall₂ hdiffer.requests hr₁
    exact ⟨Connection.bears_of_mem ht₁ hr₁ hdiffer.first,
      Connection.bears_of_mem ht₂ hr₂ hdiffer.second⟩

/-- A reply that fails and an interruption, for a call on a client and one on a handle. -/
theorem key_confined_of_failures :
    let steps : List Step :=
      [⟨.client false, "create_index", [.text "books"], []⟩,
        ⟨.handle true (.text "books"), "search", [], [("q", .text "dune")]⟩]
    let script : ℕ → Outcome := fun n =>
      if n = 0 then .response ⟨500, none, []⟩ else .interrupted "ReadTimeout" "slow"
    let run (key : String) := (Connection.mk "http://bright.test" (some key)).session script 0 steps
    (run "k").map (·.requests.length) = [1, 1] ∧
      List.Forall₂ (Trace.DifferInKey "k" "other") (run "k") (run "other") := by
  intro steps script run
  have hbare : ∀ base, base? "http://bright.test" = some base →
      Headers.credentials? base = none := by
    have hread : (base? "http://bright.test").map Headers.credentials? = some none := by
      decide +kernel
    intro base hbase
    rw [hbase] at hread
    exact Option.some.inj hread
  refine ⟨by decide +kernel, ?_⟩
  exact (key_confined (by decide) (by decide) "http://bright.test" script steps).1
    ⟨⟨by decide +kernel, hbare⟩, ⟨by decide +kernel, hbare⟩⟩

/-- A name and password in the address stand in place of the key, and a key outside ASCII is not
    sent at all. -/
theorem key_not_sent :
    let steps : List Step := [⟨.client false, "get_index", [.text "books"], []⟩]
    let script : ℕ → Outcome := fun _ => .response ⟨204, none, []⟩
    let sent (url key : String) :=
      ((Connection.mk url (some key)).session script 0 steps).flatMap fun t =>
        t.requests.map Http.Request.authorization
    sent "http://user:pw@bright.test" "k" = [some "Basic dXNlcjpwdw=="] ∧
      sent "http://bright.test" "clé" = [] := by
  decide +kernel

end Client

end SearchClient
