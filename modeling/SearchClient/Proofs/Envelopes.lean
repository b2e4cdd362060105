import Mathlib
import SearchClient.Proofs.FailedResponse

set_option autoImplicit false

/-! # Envelopes read back

Reading an envelope normalizes it: a message of any type becomes a text, a known code a member of
the taxonomy, and details that are no map null. `Settled` states what a report is like that was read
from an envelope. The envelope of such a report is one on which every step of reading changes
nothing, so it is read back as the same report: `envelope_read_back`. -/

namespace SearchClient.Failure

/-! ## What is read -/

/-- A report as reading an envelope leaves it: its code decides the kind and whether there is a
    leader, and its details are a map or null. -/
structure Settled (r : Report) : Prop where
  origin : r.origin = .server
  details : r.details = .null ∨ ∃ es, r.details = .map es
  /-- A known code is a member of the taxonomy; the kind is its own, and only one of them tells of
      a leader. -/
  known : ∀ c, Code.parse? r.code = some c →
    r.code = .symbol (.code c) ∧ r.kind = c.kind ∧
      r.leaderUrl = if c = .notLeader then leaderIn r.details else .null
  /-- Without a known code the status decides the kind. -/
  unknown : Code.parse? r.code = none → r.kind = kindOfStatus r.status ∧ r.leaderUrl = .null

theorem parse?_code (c : Code) : Code.parse? (.symbol (.code c)) = some c :=
  Http.ofWire?_eq_some_iff.2 rfl

theorem parse?_wire (c : Code) : Code.parse? (.text c.wire) = some c :=
  Http.ofWire?_eq_some_iff.2 rfl

theorem envelopeDetails_null_or_map (body : Entries Value) :
    envelopeDetails body = .null ∨ ∃ es, envelopeDetails body = .map es := by
  unfold envelopeDetails
  split
  · next es _ => exact Or.inr ⟨es, rfl⟩
  · exact Or.inl rfl

theorem settled_ofEnvelope (status : Value) (body : Entries Value) :
    Settled (.ofEnvelope status body) := by
  simp only [Report.ofEnvelope]
  cases hparse : Code.parse? (Value.ofOption (body.get? "code")) with
  | some code =>
    have hcode := parse?_code code
    refine ⟨rfl, envelopeDetails_null_or_map body, ?_, ?_⟩
    · intro c hc
      obtain rfl := Option.some.inj (hcode.symm.trans hc)
      exact ⟨rfl, rfl, rfl⟩
    · intro hnone
      exact absurd (hcode.symm.trans hnone) (Option.some_ne_none code)
  | none =>
    refine ⟨rfl, envelopeDetails_null_or_map body, ?_, fun _ => ⟨rfl, rfl⟩⟩
    intro c hc
    exact absurd (hc.symm.trans hparse) (Option.some_ne_none c)

/-! ## What is written

Each member of the envelope of a report, as it is read again. -/

section
variable (r : Report)

theorem envelopeMessage_toEnvelope : envelopeMessage r.toEnvelope = r.message := by
  have hget : r.toEnvelope.get? "error" = some (.text r.message) := rfl
  by_cases hmessage : r.message = ""
  · simp [envelopeMessage, hget, hmessage, Value.truthy]
  · simp [envelopeMessage, hget, hmessage, Value.truthy, Value.displayText, Value.display]

theorem get?_code_toEnvelope : r.toEnvelope.get? "code" = some r.wireCode :=
  rfl

theorem get?_details_toEnvelope : r.toEnvelope.get? "details" = some r.details :=
  rfl

end

theorem Settled.envelopeDetails_toEnvelope {r : Report} (h : Settled r) :
    envelopeDetails r.toEnvelope = r.details := by
  rw [envelopeDetails, get?_details_toEnvelope]
  obtain hnull | ⟨es, hes⟩ := h.details
  · rw [hnull]
  · rw [hes]

/-- A code is recognized by what is written for it exactly as by itself. -/
theorem parse?_wireCode (r : Report) : Code.parse? r.wireCode = Code.parse? r.code := by
  unfold Report.wireCode
  split
  · next c hc => rw [hc, parse?_wire, parse?_code]
  · rfl

/-- A code that is not recognized is written as it is. -/
theorem wireCode_of_unknown {r : Report} (h : Code.parse? r.code = none) : r.wireCode = r.code := by
  unfold Report.wireCode
  split
  · next c hc =>
    rw [hc, parse?_code] at h
    exact nomatch h
  · rfl

/-! ## Reading back -/

/-- Reading the envelope of a settled report gives the report. -/
theorem Settled.ofEnvelope_toEnvelope {r : Report} (h : Settled r) :
    Report.ofEnvelope r.status r.toEnvelope = r := by
  have horigin := h.origin
  simp only [Report.ofEnvelope, envelopeMessage_toEnvelope, get?_code_toEnvelope, Value.ofOption,
    parse?_wireCode, h.envelopeDetails_toEnvelope]
  cases hparse : Code.parse? r.code with
  | some c =>
    obtain ⟨hcode, hkind, hleader⟩ := h.known c hparse
    cases r
    simp_all only
  | none =>
    obtain ⟨hkind, hleader⟩ := h.unknown hparse
    rw [wireCode_of_unknown hparse]
    cases r
    simp_all only

/-- A map is classified exactly if it has a known code or the status can be looked up. -/
theorem classify_map_eq_ok_iff {status : Value} {body : Entries Value} {e : Report} :
    Report.classify status (.map body) = .ok e ↔
      ((Code.parse? (Value.ofOption (body.get? "code"))).isSome = true ∨ status.isKey = true) ∧
        e = .ofEnvelope status body := by
  rw [Report.classify, ← Bool.or_eq_true]
  split
  · next h => simp only [h, true_and, Except.ok.injEq, eq_comm]
  · next h => simp only [h, false_and, reduceCtorEq]

theorem status_ofEnvelope (status : Value) (body : Entries Value) :
    (Report.ofEnvelope status body).status = status := by
  simp only [Report.ofEnvelope]
  split <;> rfl

/-- Whether the code of a report is known does not change when its envelope is read. -/
theorem parse?_ofEnvelope (status : Value) (body : Entries Value) :
    Code.parse? (Report.ofEnvelope status body).code =
      Code.parse? (Value.ofOption (body.get? "code")) := by
  simp only [Report.ofEnvelope]
  cases hparse : Code.parse? (Value.ofOption (body.get? "code")) with
  | some c => exact parse?_code c
  | none => exact hparse

/-- **Envelopes are read back.** With a status that can be looked up, as every integer can, every
    map is the envelope of some report; and whenever a map is, the envelope of the report is read
    with the report's status as the very same report. -/
theorem envelope_read_back (status : Value) (body : Entries Value) :
    (status.isKey = true → ∃ e, Report.classify status (.map body) = .ok e) ∧
    ∀ e, Report.classify status (.map body) = .ok e →
      e.status = status ∧ Report.classify e.status (.map e.toEnvelope) = .ok e := by
  refine ⟨fun hkey => ⟨_, classify_map_eq_ok_iff.2 ⟨Or.inr hkey, rfl⟩⟩, fun e he => ?_⟩
  obtain ⟨hread, rfl⟩ := classify_map_eq_ok_iff.1 he
  have hstatus := status_ofEnvelope status body
  refine ⟨hstatus, classify_map_eq_ok_iff.2 ⟨?_, ?_⟩⟩
  · rwa [get?_code_toEnvelope, Value.ofOption, parse?_wireCode, parse?_ofEnvelope, hstatus]
  · exact (settled_ofEnvelope status body).ofEnvelope_toEnvelope.symm

/-- An envelope of which nothing is as the server documents it: the error is a list, the details are
    a text, and the code is a list that the report keeps. -/
theorem envelope_read_back_of_lists :
    let body : Entries Value :=
      [("error", .list [.int 1]), ("code", .list [.null]), ("details", .text "shard")]
    ∃ e, Report.classify (.int 503) (.map body) = .ok e ∧ e.message = "[1]" ∧
      e.code = .list [.null] ∧ e.details = .null ∧ e.kind = .cluster ∧
      Report.classify e.status (.map e.toEnvelope) = .ok e := by
  intro body
  obtain ⟨e, he⟩ := (envelope_read_back (.int 503) body).1 rfl
  obtain ⟨-, rfl⟩ := classify_map_eq_ok_iff.1 he
  exact ⟨_, he, by decide +kernel, rfl, rfl, rfl, ((envelope_read_back (.int 503) body).2 _ he).2⟩

end SearchClient.Failure
