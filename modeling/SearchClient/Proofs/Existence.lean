import Mathlib
import SearchClient.Proofs.Replies

set_option autoImplicit false

/-! # Checks of existence

Whether something exists is told by how its request fails, not by what a reply holds. A success that
can be read means yes. A failure means no if its code says that an index or document is not found,
whatever the status, or if the status says so and no known code says otherwise (`Response.Denies`).
Nothing else is an answer: all other failures are raised, and so are interruptions and successes that
cannot be read (`existence_answered`). -/

namespace SearchClient

open Http Failure

/-! ## Failures that say that something is not found -/

namespace Failure

theorem Code.category_eq_notFound_iff {c : Code} :
    c.kind.category = .notFound ↔ c = .indexNotFound ∨ c = .documentNotFound := by
  cases c <;> decide

theorem Kind.category_ofStatus_iff {status : Int} :
    (Kind.ofStatus status).category = .notFound ↔ status = 404 := by
  unfold Kind.ofStatus
  split_ifs <;> simp_all [Kind.category]

/-- To reach no server is not to find nothing. -/
theorem Report.category_unreachable_ne (message : String) (cause : Option String) :
    (unreachable message cause).category ≠ .notFound := by
  show Category.unknown ≠ .notFound
  decide

end Failure

namespace Http

/-- The body of a response is an object that tells a known code. -/
def Response.Tells (r : Response) (c : Code) : Prop :=
  ∃ es : Entries Value, Executor.decodeBody r.body = .ok (.map es) ∧
    es.get? "code" = some (.text c.wire)

/-- A success that can be read: it has no content, or content that can be decoded. -/
def Response.Confirms (r : Response) : Prop :=
  r.status = 204 ∨
    (200 ≤ r.status ∧ r.status < 300) ∧ ∃ v, Executor.decodeBody r.body = .ok v

/-- A failure that says that something is not found: by its code, or by its status if it tells no
    known code. -/
def Response.Denies (r : Response) : Prop :=
  ¬(200 ≤ r.status ∧ r.status < 300) ∧
    (r.Tells .indexNotFound ∨ r.Tells .documentNotFound ∨ (r.status = 404 ∧ ∀ c, ¬r.Tells c))

theorem Response.tells_iff {r : Response} {c : Code} :
    r.Tells c ↔ r.member "code" = .text c.wire := by
  unfold Tells member object
  split
  · next es hbody =>
    rw [hbody]
    cases hget : Entries.get? es "code" with
    | none => simp [hget, Value.ofOption]
    | some v => simp [hget, Value.ofOption]
  · next hbody =>
    refine iff_of_false ?_ (by simp [Entries.get?, Value.ofOption])
    rintro ⟨es, hes, -⟩
    exact hbody es hes

theorem Response.isSuccess_iff {r : Response} :
    r.isSuccess = true ↔ 200 ≤ r.status ∧ r.status < 300 := by
  simp [isSuccess]

theorem Response.confirms_iff {r : Response} :
    r.Confirms ↔ r.isSuccess = true ∧ ∃ v, r.reply = .ok v := by
  unfold Confirms reply
  rw [isSuccess_iff]
  by_cases hempty : r.status = 204
  · simp [hempty]
  · simp [hempty]

theorem Response.Confirms.not_denies {r : Response} (h : r.Confirms) : ¬r.Denies :=
  fun hdenies => hdenies.1 (isSuccess_iff.1 (confirms_iff.1 h).1)

theorem Response.decodeBody_of_reply_error {r : Response} {p : Problem} (h : r.reply = .error p) :
    Executor.decodeBody r.body = .error p := by
  unfold reply at h
  split at h
  · exact nomatch h
  · exact h

/-- A response has at most one known code. -/
theorem Response.Tells.unique {r : Response} {c d : Code} (hc : r.Tells c) (hd : r.Tells d) :
    c = d := by
  rw [tells_iff] at hc hd
  have hparse (e : Code) := parse?_eq_some_iff (Executor.isJson_member r "code") (c := e)
  have hsame := ((hparse c).2 hc).symm.trans ((hparse d).2 hd)
  exact Option.some.inj hsame

/-- **A failed response is reported as not found** exactly if it denies. -/
theorem IsReportOf.category_eq_notFound_iff {r : Response} {report : Report}
    (h : IsReportOf r report) (hfailed : r.isSuccess = false) :
    report.category = .notFound ↔ r.Denies := by
  have houtside : ¬(200 ≤ r.status ∧ r.status < 300) := by
    rw [← Response.isSuccess_iff, hfailed]
    exact Bool.false_ne_true
  rw [Report.category, Response.Denies, and_iff_right houtside]
  by_cases hcode : ∃ c, r.Tells c
  · obtain ⟨c, hc⟩ := hcode
    rw [(h.known c (Response.tells_iff.1 hc)).1, Code.category_eq_notFound_iff]
    constructor
    · rintro (rfl | rfl)
      · exact Or.inl hc
      · exact Or.inr (Or.inl hc)
    · rintro (hindex | hdocument | ⟨-, hnone⟩)
      · exact Or.inl (hc.unique hindex)
      · exact Or.inr (hc.unique hdocument)
      · exact absurd hc (hnone c)
  · rw [not_exists] at hcode
    have hkind := (h.unknown fun c hc => hcode c (Response.tells_iff.2 hc)).1
    rw [hkind, Kind.category_ofStatus_iff]
    simp only [hcode, false_or, not_false_eq_true, implies_true, and_true]
    exact Nat.cast_inj (R := ℤ) (n := 404)

end Http

/-! ## Answers -/

namespace Client

/-- Whether an operation asks if something exists. -/
def Operation.AsksExistence : Operation → Prop
  | .indexExists _ | .ingressExists .. => True
  | _ => False

/-- What a check of existence makes of the outcome of its request. -/
structure Answers (outcome : Outcome) (result : Except Problem Value) : Prop where
  present : result = .ok (.bool true) ↔ ∃ r, outcome = .response r ∧ r.Confirms
  absent : result = .ok (.bool false) ↔ ∃ r, outcome = .response r ∧ r.Denies
  /-- There is no other answer. -/
  only : ∀ v, result = .ok v → v = .bool true ∨ v = .bool false
  /-- Any other failed response is raised as its report. -/
  failed : ∀ r, outcome = .response r → r.isSuccess = false → ¬r.Denies →
    ∃ report, result = .error (.reported report) ∧ IsReportOf r report ∧
      report.category ≠ .notFound
  /-- A success that cannot be read fails as its decoding does. -/
  garbled : ∀ r, outcome = .response r → r.isSuccess = true → ¬r.Confirms →
    ∃ p, Executor.decodeBody r.body = .error p ∧ result = .error p
  /-- Where no server was reached this is reported, with the name of the interruption. -/
  unreached : ∀ cause message, outcome = .interrupted cause message → cause ∈ connectionFailures →
    ∃ text, result = .error (.reported (.unreachable text (some cause)))
  interrupted : ∀ cause message, outcome = .interrupted cause message →
    cause ∉ connectionFailures → result = .error (.interrupted cause)

theorem answers_of_confirms {r : Response} (h : r.Confirms) :
    Answers (.response r) (.ok (.bool true)) where
  present := iff_of_true rfl ⟨r, rfl, h⟩
  absent := by
    refine iff_of_false (by simp) ?_
    rintro ⟨_, ⟨rfl⟩, hdenies⟩
    exact h.not_denies hdenies
  only := fun v hv => Or.inl (Except.ok.inj hv).symm
  failed := by
    rintro _ ⟨rfl⟩ hfailed -
    rw [(Response.confirms_iff.1 h).1] at hfailed
    exact absurd hfailed Bool.true_eq_false.mp
  garbled := by
    rintro _ ⟨rfl⟩ - hnot
    exact absurd h hnot
  unreached := nofun
  interrupted := nofun

theorem answers_of_denies {r : Response} (h : r.Denies) :
    Answers (.response r) (.ok (.bool false)) where
  present := by
    refine iff_of_false (by simp) ?_
    rintro ⟨_, ⟨rfl⟩, hconfirms⟩
    exact hconfirms.not_denies h
  absent := iff_of_true rfl ⟨r, rfl, h⟩
  only := fun v hv => Or.inr (Except.ok.inj hv).symm
  failed := by
    rintro _ ⟨rfl⟩ - hnot
    exact absurd h hnot
  garbled := by
    rintro _ ⟨rfl⟩ hsuccess -
    exact absurd (Response.isSuccess_iff.1 hsuccess) h.1
  unreached := nofun
  interrupted := nofun

/-- A response that neither confirms nor denies is no answer. -/
theorem answers_of_neither {r : Response} {p : Problem} (hconfirms : ¬r.Confirms)
    (hdenies : ¬r.Denies)
    (hreported : r.isSuccess = false →
      ∃ report, p = .reported report ∧ IsReportOf r report ∧ report.category ≠ .notFound)
    (hdecode : r.isSuccess = true → Executor.decodeBody r.body = .error p) :
    Answers (.response r) (.error p) where
  present := by
    refine iff_of_false (by simp) ?_
    rintro ⟨_, ⟨rfl⟩, h⟩
    exact hconfirms h
  absent := by
    refine iff_of_false (by simp) ?_
    rintro ⟨_, ⟨rfl⟩, h⟩
    exact hdenies h
  only := by rintro _ ⟨⟩
  failed := by
    rintro _ ⟨rfl⟩ hfailed -
    obtain ⟨report, rfl, hreport⟩ := hreported hfailed
    exact ⟨report, rfl, hreport⟩
  garbled := by
    rintro _ ⟨rfl⟩ hsuccess -
    exact ⟨p, hdecode hsuccess, rfl⟩
  unreached := nofun
  interrupted := nofun

/-- An interruption is no answer. -/
theorem answers_of_interrupted {cause message : String} {p : Problem}
    (hunreached : cause ∈ connectionFailures →
      ∃ text, p = .reported (.unreachable text (some cause)))
    (hother : cause ∉ connectionFailures → p = .interrupted cause) :
    Answers (.interrupted cause message) (.error p) where
  present := iff_of_false (by simp) (by simp)
  absent := iff_of_false (by simp) (by simp)
  only := by rintro _ ⟨⟩
  failed := by rintro _ ⟨⟩
  garbled := by rintro _ ⟨⟩
  unreached := by
    rintro _ _ ⟨rfl, rfl⟩ hmem
    obtain ⟨text, rfl⟩ := hunreached hmem
    exact ⟨text, rfl⟩
  interrupted := by
    rintro _ _ ⟨rfl, rfl⟩ hnot
    exact congrArg Except.error (hother hnot)

namespace Operation

/-! ## Conclusions -/

theorem concludeExists_of_reported {report : Report} (h : report.category ≠ .notFound) :
    (concludeExists (.error (.reported report))).result = .error (.reported report) := by
  rw [concludeExists, if_neg h]
  rfl

theorem concludeExists_of_notFound {report : Report} (h : report.category = .notFound) :
    (concludeExists (.error (.reported report))).result = .ok (.bool false) := by
  rw [concludeExists, if_pos h]
  rfl

/-- What goes wrong when a body is decoded is no report. -/
theorem concludeExists_of_decodeBody {body : List UInt8} {p : Problem}
    (h : Executor.decodeBody body = .error p) : (concludeExists (.error p)).result = .error p := by
  rcases bind_eq_error_iff.1 h with htext | ⟨cs, -, hread⟩
  · obtain ⟨e, -, rfl⟩ := mapError_eq_error_iff.1 htext
    rfl
  · obtain ⟨e, -, rfl⟩ := mapError_eq_error_iff.1 hread
    rfl

theorem answers_response (method path : String) (r : Response) :
    Answers (.response r)
      (concludeExists (Executor.settle method path (.response r)).result).result := by
  cases hsuccess : r.isSuccess with
  | true =>
    rw [Executor.settle_of_success hsuccess]
    cases hreply : r.reply with
    | ok v => exact answers_of_confirms (Response.confirms_iff.2 ⟨hsuccess, v, hreply⟩)
    | error p =>
      have hdecode := Response.decodeBody_of_reply_error hreply
      have hconfirms : ¬r.Confirms := by simp [Response.confirms_iff, hreply]
      have hdenies : ¬r.Denies := fun h => h.1 (Response.isSuccess_iff.1 hsuccess)
      rw [concludeExists_of_decodeBody hdecode]
      refine answers_of_neither hconfirms hdenies (fun hfailed => ?_) fun _ => hdecode
      rw [hsuccess] at hfailed
      exact absurd hfailed Bool.true_eq_false.mp
  | false =>
    rw [Executor.settle_of_failed hsuccess]
    have hreport := Executor.isReportOf_ofEnvelope r
    have hcategory := hreport.category_eq_notFound_iff hsuccess
    by_cases hdenies : r.Denies
    · rw [concludeExists_of_notFound (hcategory.2 hdenies)]
      exact answers_of_denies hdenies
    · have hraised := mt hcategory.1 hdenies
      have hconfirms : ¬r.Confirms := by simp [Response.confirms_iff, hsuccess]
      rw [concludeExists_of_reported hraised]
      refine answers_of_neither hconfirms hdenies (fun _ => ⟨_, rfl, hreport, hraised⟩) fun h => ?_
      rw [hsuccess] at h
      exact absurd h Bool.false_ne_true

theorem answers_interrupted (method path cause message : String) :
    Answers (.interrupted cause message)
      (concludeExists (Executor.settle method path (.interrupted cause message)).result).result := by
  by_cases hcause : cause ∈ connectionFailures
  · simp only [Executor.settle, List.contains_iff_mem.2 hcause, if_true, Settled.quiet]
    rw [concludeExists_of_reported (Report.category_unreachable_ne _ _)]
    exact answers_of_interrupted (fun _ => ⟨_, rfl⟩) (absurd hcause)
  · have hnot : connectionFailures.contains cause = false := by simpa using hcause
    simp only [Executor.settle, hnot]
    exact answers_of_interrupted (fun hmem => absurd hmem hcause) fun _ => rfl

theorem exists_call_of_asksExistence {op : Operation} (h : op.AsksExistence) :
    ∃ c, op.call = .ok c ∧ c.body = .none := by
  cases op with
  | indexExists | ingressExists => exact ⟨_, rfl, rfl⟩
  | _ => exact absurd h id

/-- What is settled about an outcome is concluded by an operation that asks if something exists. -/
theorem conclude_of_asksExistence {op : Operation} (h : op.AsksExistence)
    (result : Except Problem Value) : op.conclude result = concludeExists result := by
  cases op with
  | indexExists | ingressExists => rfl
  | _ => exact absurd h id

end Operation

/-- **Checks of existence.** An operation that asks if something exists is sent, unless its address or
    a header is at fault. Behind a base with a scheme it then answers the outcome of its request,
    whatever it is: with yes or no exactly if the response confirms or denies it, and else not at
    all. -/
theorem existence_answered {baseUrl : String} {apiKey : Option String} {x : Executor}
    (hx : (Connection.of baseUrl apiKey).executor = .ok x) (hscheme : x.base.scheme ≠ [])
    {op : Operation} (hop : op.AsksExistence) (outcome : Outcome) :
    let trace := (op.plan x).run outcome
    trace.Sent ∧ (trace.requests ≠ [] → Answers outcome trace.result) := by
  obtain ⟨c, hc, hbody⟩ := Operation.exists_call_of_asksExistence hop
  refine ⟨Operation.sent_of_call hc hbody outcome, fun hsent => ?_⟩
  obtain ⟨request, hmem⟩ := List.exists_mem_of_ne_nil _ hsent
  obtain ⟨e, he, -⟩ := Plan.mem_requests_run.1 hmem
  obtain ⟨method, path, hsettled⟩ :=
    Operation.exists_settle_of_scheme he (hasScheme_of_executor hx hscheme)
  rw [Plan.result_run he, hsettled, Operation.conclude_of_asksExistence hop]
  cases outcome with
  | response r => exact Operation.answers_response method path r
  | interrupted cause message => exact Operation.answers_interrupted method path cause message

/-- A failure inside a server that says that a document is not found means no, although the status
    does not; a status that means so is raised where a code says otherwise, and so is the loss of the
    connection. -/
theorem existence_answered_of_contradictions :
    let result (outcome : Outcome) :=
      (((Operation.ingressExists (.text "books") (.text "feed")).plan rootExecutor).run outcome).result
    (∃ r : Response, r.status = 500 ∧
        r.body = Text.Utf8.encode "\x7b\"code\":\"DOCUMENT_NOT_FOUND\"\x7d".toList ∧
        result (.response r) = .ok (.bool false)) ∧
      (∃ r : Response, r.status = 404 ∧
        r.body = Text.Utf8.encode "\x7b\"code\":\"NOT_LEADER\"\x7d".toList ∧
        ∃ report, result (.response r) = .error (.reported report) ∧ report.status = .int 404 ∧
          report.kind = .notLeader) ∧
      ∃ text, result (.interrupted "ReadTimeout" "") =
        .error (.reported (.unreachable text (some "ReadTimeout"))) := by
  intro result
  have hasks : (Operation.ingressExists (.text "books") (.text "feed")).AsksExistence := trivial
  have hanswers {outcome : Outcome} (hsent : (((Operation.ingressExists (.text "books")
      (.text "feed")).plan rootExecutor).run outcome).requests ≠ []) :
      Answers outcome (result outcome) :=
    (existence_answered executor_root (List.cons_ne_nil _ _) hasks outcome).2 hsent
  let missing : Response :=
    ⟨500, none, Text.Utf8.encode "\x7b\"code\":\"DOCUMENT_NOT_FOUND\"\x7d".toList⟩
  let follower : Response :=
    ⟨404, none, Text.Utf8.encode "\x7b\"code\":\"NOT_LEADER\"\x7d".toList⟩
  have hmissing : missing.Tells .documentNotFound :=
    Response.tells_iff.2 ((Executor.isJson_member missing "code").eq_text (by decide +kernel))
  have hfollower : follower.Tells .notLeader :=
    Response.tells_iff.2 ((Executor.isJson_member follower "code").eq_text (by decide +kernel))
  refine ⟨⟨missing, rfl, rfl, ?_⟩, ⟨follower, rfl, rfl, ?_⟩, ?_⟩
  · exact (hanswers (by decide +kernel)).absent.2 ⟨missing, rfl, by decide, Or.inr (Or.inl hmissing)⟩
  · have hnot : ¬follower.Denies := by
      rintro ⟨-, hindex | hdocument | ⟨-, hnone⟩⟩
      · exact absurd (hfollower.unique hindex) (by decide)
      · exact absurd (hfollower.unique hdocument) (by decide)
      · exact hnone _ hfollower
    obtain ⟨report, hresult, hreport, -⟩ :=
      (hanswers (by decide +kernel)).failed follower rfl rfl hnot
    exact ⟨report, hresult, hreport.status, (hreport.known _ (Response.tells_iff.1 hfollower)).1⟩
  · exact (hanswers (by decide +kernel)).unreached _ _ rfl (by decide)

end Client

end SearchClient
