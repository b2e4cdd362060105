import Mathlib
import SearchClient.Proofs.Json
import SearchClient.Proofs.Scheme

set_option autoImplicit false

/-! # Failed responses

Whatever octets a failed response has for its body, it becomes one report. `IsReportOf` says which:
a known code in the body decides the kind, and else the status; code and details are those of the
body; and the message is the error that the body tells, or else the phrase of the response. -/

namespace SearchClient.Http

open Failure

/-! ## Known codes -/

theorem ofWire?_eq_some_iff {s : String} {c : Code} : Code.ofWire? s = some c ↔ s = c.wire := by
  constructor
  · intro h
    have hwire := List.find?_some (p := fun c : Code => c.wire == s) h
    exact (beq_iff_eq.1 hwire).symm
  · rintro rfl
    cases c <;> decide

/-- Data of a JSON text stand for a known code if they are its text. -/
theorem parse?_eq_some_iff {v : Value} (h : IsJson v) {c : Code} :
    Code.parse? v = some c ↔ v = .text c.wire := by
  cases h with
  | text s => simp [Code.parse?, Value.asText?, ofWire?_eq_some_iff]
  | _ => simp [Code.parse?, Value.asText?]

/-! ## The envelope -/

/-- The map that the body of a response holds, empty if it holds none. -/
def Response.object (r : Response) : Entries Value :=
  match Executor.decodeBody r.body with
  | .ok (.map es) => es
  | _ => []

/-- A member of the map in the body of a response, null if there is none. -/
def Response.member (r : Response) (name : String) : Value :=
  .ofOption (r.object.get? name)

namespace Executor

theorem isJson_object (r : Response) : IsJson (.map r.object) := by
  unfold Response.object
  split
  · next es hbody => exact isJson_of_decodeBody hbody
  · exact IsJson.map List.nodup_nil (by simp)

theorem isJson_member (r : Response) (name : String) : IsJson (r.member name) := by
  unfold Response.member
  cases hget : r.object.get? name with
  | none => exact IsJson.null
  | some v => exact (isJson_object r).get? hget

/-- The envelope is the map in the body, with the phrase for its error if it tells none. -/
theorem envelope_eq (r : Response) :
    envelope r = if (r.member "error").truthy then r.object
      else r.object.put "error" (.text r.phrase) := by
  unfold Response.member envelope Response.object
  cases decodeBody r.body with
  | error e => rfl
  | ok v =>
    cases v with
    | map es =>
      cases hget : Entries.get? es "error" with
      | none => simp [hget, Value.ofOption, Value.truthy]
      | some v => cases htruthy : v.truthy <;> simp [hget, Value.ofOption, htruthy]
    | _ => rfl

/-- All other members of an envelope are those of the body. -/
theorem get?_envelope_of_ne (r : Response) {name : String} (h : name ≠ "error") :
    (envelope r).get? name = r.object.get? name := by
  rw [envelope_eq]
  split
  · rfl
  · rw [Entries.get?_put, if_neg (Ne.symm h)]

theorem envelopeMessage_eq (r : Response) :
    envelopeMessage (envelope r) =
      if (r.member "error").truthy then (r.member "error").displayText else r.phrase := by
  rw [envelopeMessage, envelope_eq]
  cases htruthy : (r.member "error").truthy with
  | true =>
    unfold Response.member at htruthy ⊢
    cases hget : r.object.get? "error" with
    | none =>
      rw [hget] at htruthy
      exact nomatch htruthy
    | some v =>
      rw [hget] at htruthy
      simp only [if_true, hget]
      exact if_pos htruthy
  | false =>
    simp only [Bool.false_eq_true, if_false, Entries.get?_put_self, Value.truthy]
    by_cases hphrase : r.phrase = ""
    · simp [hphrase]
    · simp [hphrase, Value.displayText, Value.display]

end Executor

/-! ## Reports -/

/-- The report that a failed response becomes. -/
structure IsReportOf (r : Response) (report : Report) : Prop where
  origin : report.origin = .server
  status : report.status = .int r.status
  /-- A known code decides the kind, whatever the status. -/
  known : ∀ c : Code, r.member "code" = .text c.wire →
    report.kind = c.kind ∧ report.code = .symbol (.code c)
  /-- Without one the status decides it, and the code is told as it was sent. -/
  unknown : (∀ c : Code, r.member "code" ≠ .text c.wire) →
    report.kind = .ofStatus r.status ∧ report.code = r.member "code"
  details : ∀ es, report.details = .map es ↔ r.member "details" = .map es
  otherDetails : (∀ es, r.member "details" ≠ .map es) → report.details = .null
  leader : ∀ v ≠ .null, report.leaderUrl = v ↔
    r.member "code" = .text Code.notLeader.wire ∧
      ∃ es s, r.member "details" = .map es ∧ Entries.get? es "leaderUrl" = some (.text s) ∧
        v = .text s
  message : report.message =
    if (r.member "error").truthy then (r.member "error").displayText else r.phrase
  /-- The message is empty only if there is no phrase either. -/
  spoken : r.phrase ≠ "" → report.message ≠ ""

namespace Executor

theorem leaderIn_eq_iff {details : Value} (h : IsJson details) {v : Value} (hv : v ≠ .null) :
    leaderIn details = v ↔ ∃ es s, details = .map es ∧
      Entries.get? es "leaderUrl" = some (.text s) ∧ v = .text s := by
  cases h with
  | map hnames hentries =>
    next es =>
    cases hget : Entries.get? es "leaderUrl" with
    | none => simp [leaderIn, hget, Ne.symm hv]
    | some w =>
      have hw := (IsJson.map hnames hentries).get? hget
      cases hw <;> simp [leaderIn, hget, Ne.symm hv, eq_comm]
  | _ => simp [leaderIn, Ne.symm hv]

theorem envelopeDetails_eq (r : Response) :
    envelopeDetails (envelope r) =
      match r.member "details" with
      | .map es => .map es
      | _ => .null := by
  rw [envelopeDetails, get?_envelope_of_ne r (by decide), Response.member]
  cases r.object.get? "details" with
  | none => rfl
  | some v => cases v <;> rfl

theorem isJson_envelopeDetails (r : Response) : IsJson (envelopeDetails (envelope r)) := by
  rw [envelopeDetails_eq]
  split
  · next es hes =>
    rw [← hes]
    exact isJson_member r "details"
  · exact IsJson.null

theorem envelopeDetails_eq_map_iff (r : Response) (es : Entries Value) :
    envelopeDetails (envelope r) = .map es ↔ r.member "details" = .map es := by
  rw [envelopeDetails_eq]
  cases r.member "details" <;> simp

theorem envelopeDetails_eq_null (r : Response) (h : ∀ es, r.member "details" ≠ .map es) :
    envelopeDetails (envelope r) = .null := by
  rw [envelopeDetails_eq]
  split
  · next es hes => exact absurd hes (h es)
  · rfl

theorem envelopeMessage_ne_empty (r : Response) (h : r.phrase ≠ "") :
    envelopeMessage (envelope r) ≠ "" := by
  rw [envelopeMessage_eq]
  split
  · next htruthy => exact (isJson_member r "error").displayText_ne_empty htruthy
  · exact h

theorem isReportOf_ofEnvelope (r : Response) :
    IsReportOf r (Report.ofEnvelope (.int r.status) (envelope r)) := by
  have hknown : ∀ c : Code, Code.parse? (r.member "code") = some c ↔
      r.member "code" = .text c.wire :=
    fun _ => parse?_eq_some_iff (isJson_member r "code")
  have hcode : Value.ofOption ((envelope r).get? "code") = r.member "code" := by
    rw [get?_envelope_of_ne r (by decide), Response.member]
  have hmessage := envelopeMessage_eq r
  have hspoken := envelopeMessage_ne_empty r
  have hdetails := envelopeDetails_eq_map_iff r
  have hother := envelopeDetails_eq_null r
  simp only [Report.ofEnvelope, hcode]
  cases hparse : Code.parse? (r.member "code") with
  | some code =>
    simp only []
    have htext := (hknown code).1 hparse
    refine ⟨rfl, rfl, ?_, ?_, hdetails, hother, ?_, hmessage, hspoken⟩
    · intro c hc
      rw [(hknown c).2 hc] at hparse
      obtain rfl := Option.some.inj hparse
      exact ⟨rfl, rfl⟩
    · exact fun hunknown => absurd htext (hunknown code)
    · intro v hv
      split
      · next hleader =>
        rw [leaderIn_eq_iff (isJson_envelopeDetails r) hv, ← hleader]
        simp only [htext, true_and, hdetails]
      · next hleader =>
        refine iff_of_false (Ne.symm hv) fun h => hleader ?_
        rw [(hknown .notLeader).2 h.1] at hparse
        exact (Option.some.inj hparse).symm
  | none =>
    simp only []
    have hunknown : ∀ c : Code, r.member "code" ≠ .text c.wire := by
      intro c hc
      rw [(hknown c).2 hc] at hparse
      exact nomatch hparse
    refine ⟨rfl, rfl, ?_, ?_, hdetails, hother, ?_, hmessage, hspoken⟩
    · exact fun c hc => absurd hc (hunknown c)
    · exact fun _ => ⟨rfl, rfl⟩
    · intro v hv
      exact iff_of_false (Ne.symm hv) fun h => hunknown .notLeader h.1

/-- A response that is no success is settled by its report. -/
theorem settle_of_failed {method path : String} {r : Response} (h : r.isSuccess = false) :
    (settle method path (.response r)).result =
      .error (.reported (.ofEnvelope (.int r.status) (envelope r))) := by
  simp only [settle, h, Bool.false_eq_true, if_false]

/-- **Failed responses are reported.** Behind a base with a scheme, a request that is answered with
    a failed response ends with the report of that response, whatever the response is. -/
theorem failed_response_reported {baseUrl : String} {apiKey : Option String} {x : Executor}
    (hx : (Client.Connection.of baseUrl apiKey).executor = .ok x) (hscheme : x.base.scheme ≠ [])
    {method path : String} {params : Params} {body : Body} {extra : Entries Value} {r : Response}
    (hsent : ((x.plan method path params body extra).run (.response r)).requests ≠ [])
    (hfailed : r.isSuccess = false) :
    ∃ report, ((x.plan method path params body extra).run (.response r)).result =
        .error (.reported report) ∧ IsReportOf r report := by
  refine ⟨.ofEnvelope (.int r.status) (envelope r), ?_, isReportOf_ofEnvelope r⟩
  obtain ⟨request, hmem⟩ := List.exists_mem_of_ne_nil _ hsent
  obtain ⟨e, he, -⟩ := Plan.mem_requests_run.1 hmem
  obtain ⟨text, -, hrequest, hsettle⟩ := plan_exchange he
  rw [Plan.result_run he, hsettle,
    settleAt_of_request (Client.hasScheme_of_executor hx hscheme) hrequest]
  exact settle_of_failed hfailed

/-- A known code and its leader are told from a response whose status says something else, and the
    phrase stands for an error that is empty. -/
theorem failed_response_reported_of_leader :
    ∃ r : Response, r.body = Text.Utf8.encode
        "\x7b\"error\":\"\",\"code\":\"NOT_LEADER\",\"details\":\x7b\"leaderUrl\":\"http://b\"\x7d\x7d".toList ∧
      ∃ report, ((Client.rootExecutor.plan "GET" "/indexes/x" [] .none []).run
          (.response r)).result = .error (.reported report) ∧
        report.status = .int 404 ∧ report.kind = .notLeader ∧ report.message = "Not Found" ∧
        report.leaderUrl = .text "http://b" := by
  let r : Response := ⟨404, none, Text.Utf8.encode
    "\x7b\"error\":\"\",\"code\":\"NOT_LEADER\",\"details\":\x7b\"leaderUrl\":\"http://b\"\x7d\x7d".toList⟩
  have hsent : (((Client.rootExecutor.plan "GET" "/indexes/x" [] .none []).run
      (.response r)).requests.map (·.method)) = ["GET"] := by
    decide +kernel
  have hcode : r.member "code" = .text Code.notLeader.wire := by
    refine (isJson_member r "code").eq_text ?_
    decide +kernel
  have hleader : ∃ es, r.member "details" = .map es ∧
      Entries.get? es "leaderUrl" = some (.text "http://b") := by
    have hread : (match r.member "details" with
        | .map es => (Entries.get? es "leaderUrl").bind Value.asText?
        | _ => none) = some "http://b" := by
      decide +kernel
    split at hread
    · next es hes =>
      obtain ⟨v, hv, htext⟩ := Option.bind_eq_some_iff.1 hread
      have hjson := isJson_member r "details"
      rw [hes] at hjson
      exact ⟨es, hes, by rw [hv, (hjson.get? hv).eq_text htext]⟩
    · exact nomatch hread
  have herror : (r.member "error").truthy = false := by decide +kernel
  have hphrase : r.phrase = "Not Found" := by decide +kernel
  have hrequests : ((Client.rootExecutor.plan "GET" "/indexes/x" [] .none []).run
      (.response r)).requests ≠ [] := by
    intro hnil
    rw [hnil] at hsent
    exact nomatch hsent
  obtain ⟨report, hresult, hreport⟩ :=
    failed_response_reported Client.executor_root (List.cons_ne_nil _ _) hrequests rfl
  refine ⟨r, rfl, report, hresult, hreport.status, (hreport.known .notLeader hcode).1, ?_, ?_⟩
  · rw [hreport.message, herror, hphrase]
    rfl
  · obtain ⟨es, hes, hget⟩ := hleader
    exact (hreport.leader _ (by simp)).2 ⟨hcode, es, "http://b", hes, hget, rfl⟩

end Executor

end SearchClient.Http
