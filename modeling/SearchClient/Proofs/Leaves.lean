import Mathlib
import SearchClient.Proofs.Gathering

set_option autoImplicit false

/-! # Single settings

Each single setting is a field of its own, or one of the settings of logging. Settings load exactly if
what is told can be loaded, whatever the single settings are, and a check takes what is told about
each of them (`Told.load_eq_ok_iff`). -/

namespace SearchClient.Settings

open Failure (Problem)
open Schema

/-! ## Addresses and times -/

theorem exists_text_of_check_address {v w : Value} (h : Shape.address.check v = .ok w) :
    ∃ s, w = .text (withoutSlashes s) := by
  unfold Shape.check at h
  split at h
  · next s _ => exact ⟨s, (Except.ok.inj h).symm⟩
  · next hother =>
    obtain ⟨s, rfl⟩ := exists_text_of_check h
    exact absurd h (hother s)

theorem exists_float_of_check_positive {v w : Value} (h : Shape.positive.check v = .ok w) :
    ∃ x, w = .float x := by
  unfold Shape.check at h
  split at h
  · next x _ =>
    split at h
    · exact ⟨x, (Except.ok.inj h).symm⟩
    · exact nomatch h
  · next hother =>
    obtain ⟨x, rfl⟩ := exists_float_of_checkFloat h
    exact absurd h (hother x)

/-! ## Single settings -/

/-- The single settings. -/
inductive Leaf where
  | baseUrl
  | apiKey
  | timeout
  | logLevel
  | logFormat
deriving DecidableEq

namespace Leaf

/-- Whether a setting is one of logging. -/
def inLogging : Leaf → Bool
  | .logLevel | .logFormat => true
  | _ => false

/-- The field of a setting. -/
def field : Leaf → FieldRule
  | .baseUrl => .defaulted "base_url" .address (.text "http://localhost:3000")
  | .apiKey => .defaulted "api_key" .text (.text "")
  | .timeout => .defaulted "timeout" .positive (.float (.ofInt 30))
  | .logLevel => .defaulted "log_level" .text (.text "info")
  | .logFormat => .defaulted "log_format" .text (.text "json")

/-- What a setting is among all settings. -/
def get (s : Settings) : Leaf → Value
  | .baseUrl => .text s.baseUrl
  | .apiKey => .text s.apiKey
  | .timeout => .float s.timeout
  | .logLevel => .text s.logLevel
  | .logFormat => .text s.logFormat

theorem eq_of_get {s s' : Settings} (h : ∀ l : Leaf, l.get s = l.get s') : s = s' := by
  have hbase := h .baseUrl
  have hkey := h .apiKey
  have htimeout := h .timeout
  have hlevel := h .logLevel
  have hformat := h .logFormat
  simp only [get, Value.text.injEq, Value.float.injEq] at hbase hkey htimeout hlevel hformat
  cases s
  cases s'
  simp_all only

theorem field_mem {l : Leaf} (h : l.inLogging = false) : l.field ∈ Schema.settingsFields := by
  cases l with
  | logLevel => exact absurd h.symm Bool.false_ne_true
  | logFormat => exact absurd h.symm Bool.false_ne_true
  | _ => simp [field, Schema.settingsFields]

theorem field_mem_logging {l : Leaf} (h : l.inLogging = true) :
    l.field ∈ Schema.observabilityFields := by
  cases l with
  | logLevel => simp [field, Schema.observabilityFields]
  | logFormat => simp [field, Schema.observabilityFields]
  | _ => exact absurd h Bool.false_ne_true

/-- What a setting is if nothing is told about it. -/
def default (l : Leaf) : Value :=
  l.field.default.getD .null

/-- What becomes of what is told about a setting. -/
def verdict (l : Leaf) (v : Option Value) : Schema.Verdict :=
  l.field.shape.check (v.getD l.default)

theorem verdict_none (l : Leaf) : l.verdict none = .ok l.default := by
  cases l with
  | baseUrl => rfl
  | timeout => rfl
  | _ => rfl

theorem not_ok_of_map (l : Leaf) (es : List (String × Value)) (w : Value) :
    l.verdict (some (.map es)) ≠ .ok w := by
  cases l <;> simp [verdict, field, Schema.FieldRule.defaulted, Schema.Shape.check, Schema.checkText,
    Schema.checkFloat, Schema.readable, Value.asText?, Schema.refuse, Except.map, bind, Except.bind]

/-- What maps hold does not matter, as no setting takes a map. -/
theorem verdict_congr {l : Leaf} {v v' : Option Value} (h : v.map hollow = v'.map hollow) {w : Value} :
    l.verdict v = .ok w ↔ l.verdict v' = .ok w := by
  rcases v with _ | a
  · rw [Option.map_eq_none_iff.1 h.symm]
  · obtain ⟨b, rfl, hb⟩ := Option.map_eq_some_iff.1 h.symm
    rcases hollow_cases a with ⟨es, rfl⟩ | ha
    · rcases hollow_cases b with ⟨es', rfl⟩ | hb'
      · exact iff_of_false (l.not_ok_of_map es w) (l.not_ok_of_map es' w)
      · rw [hb'] at hb
        rw [hb]
        exact iff_of_false (l.not_ok_of_map es w) (l.not_ok_of_map [] w)
    · rcases hollow_cases b with ⟨es', rfl⟩ | hb'
      · rw [ha] at hb
        rw [← hb]
        exact iff_of_false (l.not_ok_of_map [] w) (l.not_ok_of_map es' w)
      · rw [ha, hb'] at hb
        rw [hb]

/-- What a record of settings holds for a setting. -/
def of (r : Value) (l : Leaf) : Value :=
  if l.inLogging then (r.member "observability").member l.field.name else r.member l.field.name

/-- Settings have what their record holds. -/
theorem get_ofRecord {l : Leaf} {r : Value} {v : Option Value} (h : l.verdict v = .ok (l.of r)) :
    l.get (ofRecord r) = l.of r := by
  cases l with
  | baseUrl =>
    obtain ⟨s, hs⟩ := exists_text_of_check_address h
    rw [hs]
    exact congrArg (fun v => Value.text (textOf v)) hs
  | timeout =>
    obtain ⟨x, hx⟩ := exists_float_of_check_positive h
    rw [hx]
    have hmember : r.member "timeout" = .float x := hx
    simp only [get, ofRecord, hmember]
  | apiKey =>
    obtain ⟨s, hs⟩ := exists_text_of_check h
    rw [hs]
    exact congrArg (fun v => Value.text (textOf v)) hs
  | logLevel =>
    obtain ⟨s, hs⟩ := exists_text_of_check h
    rw [hs]
    exact congrArg (fun v => Value.text (textOf v)) hs
  | logFormat =>
    obtain ⟨s, hs⟩ := exists_text_of_check h
    rw [hs]
    exact congrArg (fun v => Value.text (textOf v)) hs

end Leaf

/-! ## Records of settings -/

/-- What a check made for a setting of logging, a check takes as it is. -/
theorem Leaf.verdict_of_verdict {l : Leaf} (hl : l.inLogging = true) {v : Option Value} {w : Value}
    (h : l.verdict v = .ok w) : l.verdict (some w) = .ok w := by
  cases l with
  | logLevel =>
    obtain ⟨s, rfl⟩ := exists_text_of_check h
    rfl
  | logFormat =>
    obtain ⟨s, rfl⟩ := exists_text_of_check h
    rfl
  | _ => exact absurd hl Bool.false_ne_true

theorem wire_eq_name {model : Model} (hmodel : model = .settings ∨ model = .observability) :
    ∀ f ∈ fieldsOf model, f.wire = f.name := by
  rcases hmodel with rfl | rfl <;> decide

/-- A check takes data for settings if it takes what they hold under the name of each field, and they
    hold nothing else. -/
theorem exists_check_settings_iff {es : Entries Value} :
    (∃ r, Record.check .settings (.map es) = .ok r) ↔
      (∀ f ∈ settingsFields, f.Fits es) ∧ ∀ name ∈ es.names, name ∈ fieldNames := by
  have htakes : ∀ name, settingsFields.any (·.takes es name) = true ↔ name ∈ fieldNames := by
    intro name
    rw [List.any_eq_true, fieldNames, List.mem_map]
    refine exists_congr fun f => and_congr_right fun hf => ?_
    rw [FieldOf.takes, wire_eq_name (Or.inl rfl) f hf, Bool.or_eq_true, Bool.and_eq_true,
      decide_eq_true_iff, or_iff_left_of_imp And.left, eq_comm]
  have hleft : leftover settingsFields es = [] ↔ ∀ name ∈ es.names, name ∈ fieldNames := by
    rw [leftover, List.filter_eq_nil_iff, Entries.names, List.forall_mem_map]
    refine forall₂_congr fun e _ => ?_
    rw [Bool.not_eq_true', Bool.not_eq_false, htakes]
  constructor
  · rintro ⟨r, h⟩
    obtain ⟨hfits, hnone, -⟩ := Record.check_map_eq_ok_iff.1 h
    exact ⟨hfits, hleft.1 (hnone rfl)⟩
  · rintro ⟨hfits, hnames⟩
    exact ⟨_, Record.check_map_eq_ok_iff.2 ⟨hfits, fun _ => hleft.2 hnames, rfl, rfl⟩⟩

/-- A setting is what a check makes of what data hold under its name. -/
theorem Leaf.checked?_eq_some_iff (l : Leaf) {es : Entries Value} {w : Value} :
    l.field.checked? es = some w ↔ l.verdict (es.get? l.field.name) = .ok w := by
  have hsupplied : l.field.supplied? es = es.get? l.field.name := by
    cases l <;> exact Option.or_self
  have hdefault : l.field.default = some l.default := by
    cases l <;> rfl
  rw [FieldOf.checked?, hsupplied]
  cases es.get? l.field.name with
  | none => simp [hdefault, Leaf.verdict_none]
  | some v =>
    rw [Leaf.verdict, Option.getD_some]
    cases hcheck : l.field.shape.check v <;> simp [hcheck, Except.toOption]

theorem exists_member?_of_check {model : Model} {es : Entries Value} {r : Value}
    (h : Record.check model (.map es) = .ok r) {f : FieldRule} (hf : f ∈ fieldsOf model) :
    ∃ w, f.checked? es = some w ∧ r.member? f.name = some w := by
  obtain ⟨hfits, -⟩ := Record.check_map_eq_ok_iff.1 h
  obtain ⟨w, hw⟩ := FieldOf.fits_iff.1 (hfits f hf)
  exact ⟨w, hw, (Record.member?_eq_checked? h hf).trans hw⟩

/-- A record holds for a setting what a check made of the data. -/
theorem Leaf.member?_of_check {model : Model} {l : Leaf} (hl : l.field ∈ fieldsOf model)
    {es : Entries Value} {r : Value} (h : Record.check model (.map es) = .ok r) :
    ∃ w, l.verdict (es.get? l.field.name) = .ok w ∧ r.member? l.field.name = some w := by
  obtain ⟨w, hw, hmember⟩ := exists_member?_of_check h hl
  exact ⟨w, l.checked?_eq_some_iff.1 hw, hmember⟩

/-! ## What is told about single settings -/

/-- What the settings of logging can be. -/
def IsGroup (v : Value) : Prop :=
  (∃ es, v = .map es) ∨ ∃ fields extra given, v = .record .observability fields extra given

theorem groupField_mem : groupField ∈ settingsFields := by
  simp [settingsFields, groupField]

/-- The settings of logging are a record of them, or what a check makes of a map. -/
theorem check_groupField_iff {v g : Value} : groupField.shape.check v = .ok g ↔
    (∃ fields extra given, v = .record .observability fields extra given ∧ g = v) ∨
      ∃ es, v = .map es ∧ Record.check .observability (.map es) = .ok g := by
  have hcheck : Record.check .observability v = .ok g ↔ groupField.shape.check v = .ok g :=
    mapError_eq_ok_iff
  cases v with
  | record model fields extra given =>
    have hshape : groupField.shape.check (.record model fields extra given) =
        if model = .observability then .ok (.record model fields extra given)
        else refuse (.record model fields extra given) (.notRecord .observability) := by
      rfl
    rw [hshape]
    by_cases hmodel : model = .observability
    · subst hmodel
      simp [eq_comm]
    · simp [hmodel, refuse]
  | map es => simp [← hcheck]
  | _ => simp [groupField, FieldRule.defaulted, Shape.check, refuse]

/-- What variables say about the settings of logging is no record, and names nothing twice. -/
theorem said?_groupField {vs : EnvFile.Variables} {v : Value} (h : said? {} vs groupField = some v) :
    (∀ es, v = .map es → (Entries.names es).Nodup) ∧
      ∀ model fields extra given, v ≠ .record model fields extra given := by
  have hrespell : ∀ es, (∀ es', Value.map (respell observabilityFields es) = .map es' →
      (Entries.names es').Nodup) := by
    intro es es' heq
    rw [← Value.map.inj heq]
    exact Entries.nodup_names_ofPairs _
  rw [said?, fieldValue?_groupField] at h
  split at h
  · simp only [Except.toOption, Option.join_some] at h
    split at h
    · exact absurd h.symm (Option.some_ne_none v)
    · rw [← Option.some.inj h]
      exact ⟨hrespell _, by simp⟩
  · split at h
    · exact absurd h.symm (Option.some_ne_none v)
    · exact absurd h.symm (Option.some_ne_none v)
    · rw [← Option.some.inj h]
      exact ⟨hrespell _, by simp⟩
    · next hnull hmap hread =>
      obtain rfl := Option.some.inj h
      refine ⟨fun es heq => absurd heq (hmap es), ?_⟩
      rintro model fields extra given rfl
      cases isJson_of_readText hread

/-- Keywords as callers have them: the settings of logging name nothing twice, or were made by a
    check. -/
structure Made (keywords : Entries Value) : Prop where
  map : ∀ es, keyword? keywords groupField.name = some (.map es) → (Entries.names es).Nodup
  record : ∀ model fields extra given,
    keyword? keywords groupField.name = some (.record model fields extra given) →
      ∃ es, Record.check .observability (.map es) = .ok (.record model fields extra given)

theorem stacked_eq_record {low high : Option Value} {model : Model} {fields extra : Entries Value}
    {given : List String} (h : stacked low high = some (.record model fields extra given)) :
    high = some (.record model fields extra given) ∨
      low = some (.record model fields extra given) := by
  cases high with
  | none => exact Or.inr h
  | some v =>
    left
    have hw : written low v = .record model fields extra given := Option.some.inj h
    cases v with
    | map es =>
      unfold written at hw
      split at hw <;> exact nomatch hw
    | _ => rw [← hw]; rfl

namespace Told

/-- What is told about a setting. -/
def leaf? (t : Told) (l : Leaf) : Option Value :=
  if l.inLogging then memberOf? (t.about? groupField) l.field.name else t.about? l.field

/-- What has to hold of all that is told, whatever the single settings are. -/
structure Loadable (t : Told) : Prop where
  environment : Readable t.environment
  file : Readable t.file
  declares : t.Declares
  group : ∀ v, t.about? groupField = some v → IsGroup v

variable {t : Told}

/-- A record that is told as the settings of logging is a keyword. -/
theorem keyword?_of_about? {model : Model} {fields extra : Entries Value} {given : List String}
    (h : t.about? groupField = some (.record model fields extra given)) :
    keyword? t.keywords groupField.name = some (.record model fields extra given) := by
  rcases stacked_eq_record h with h | h
  · rcases stacked_eq_record h with h | h
    · exact h
    · exact absurd rfl ((said?_groupField h).2 _ _ _ _)
  · exact absurd rfl ((said?_groupField h).2 _ _ _ _)

/-- What the settings are made of, where they are made at all. -/
theorem verdict_of_check (hmade : Made t.keywords) (hdeclares : t.Declares) {r : Value}
    (h : Record.check .settings (.map t.state) = .ok r) (l : Leaf) :
    l.verdict (t.leaf? l) = .ok (l.of r) := by
  unfold leaf? Leaf.of
  cases hl : l.inLogging with
  | false =>
    have hfield : l.field ∈ fieldsOf .settings := Leaf.field_mem hl
    obtain ⟨w, hw, hmember⟩ := Leaf.member?_of_check hfield h
    rw [get?_state hdeclares (Leaf.field_mem hl)] at hw
    simp [Value.member, hmember, hw, Value.ofOption]
  | true =>
    have hfield : l.field ∈ fieldsOf .observability := Leaf.field_mem_logging hl
    have hgroup : groupField ∈ fieldsOf .settings := groupField_mem
    obtain ⟨g, hg, hmember⟩ := exists_member?_of_check h hgroup
    have hname : r.member "observability" = g := by
      rw [Value.member]
      exact congrArg Value.ofOption hmember
    have hget : groupField.supplied? t.state = t.about? groupField :=
      Option.or_self.trans (get?_state hdeclares groupField_mem)
    rw [FieldOf.checked?, hget] at hg
    simp only [if_true, hname]
    cases habout : t.about? groupField with
    | none =>
      rw [habout] at hg
      rw [← Option.some.inj hg]
      cases l with
      | logLevel => rfl
      | logFormat => rfl
      | _ => exact absurd hl Bool.false_ne_true
    | some v =>
      rw [habout] at hg
      have hcheck : groupField.shape.check v = .ok g := by
        cases hv : groupField.shape.check v <;> simp_all [Except.toOption]
      rcases check_groupField_iff.1 hcheck with ⟨fields, extra, given, rfl, rfl⟩ | ⟨es, rfl, hes⟩
      -- a record is taken as it is, and a check made it before
      · obtain ⟨es, hes⟩ := hmade.record _ _ _ _ (keyword?_of_about? habout)
        obtain ⟨w, hw, hmember⟩ := Leaf.member?_of_check hfield hes
        have hrecord : memberOf? (some (.record .observability fields extra given)) l.field.name =
            Value.member? (.record .observability fields extra given) l.field.name := rfl
        rw [hrecord, Value.member, hmember]
        exact Leaf.verdict_of_verdict hl hw
      · obtain ⟨w, hw, hmember⟩ := Leaf.member?_of_check hfield hes
        rw [Value.member, hmember]
        exact hw

theorem supplied?_groupField (hdeclares : t.Declares) :
    groupField.supplied? t.state = t.about? groupField :=
  Option.or_self.trans (get?_state hdeclares groupField_mem)

theorem isGroup_of_fits (hdeclares : t.Declares) (h : groupField.Fits t.state) {v : Value}
    (hv : t.about? groupField = some v) : IsGroup v := by
  rw [FieldOf.Fits, supplied?_groupField hdeclares, hv] at h
  obtain ⟨w, hw⟩ := h
  rcases check_groupField_iff.1 hw with ⟨fields, extra, given, rfl, -⟩ | ⟨es, rfl, -⟩
  · exact Or.inr ⟨fields, extra, given, rfl⟩
  · exact Or.inl ⟨es, rfl⟩

theorem fits_groupField (hload : t.Loadable)
    (h : ∀ l : Leaf, l.inLogging = true → ∃ w, l.verdict (t.leaf? l) = .ok w) :
    groupField.Fits t.state := by
  rw [FieldOf.Fits, supplied?_groupField hload.declares]
  cases habout : t.about? groupField with
  | none => exact ⟨_, rfl⟩
  | some v =>
    rcases hload.group v habout with ⟨es, rfl⟩ | ⟨fields, extra, given, rfl⟩
    · have hfits : ∀ l : Leaf, l.inLogging = true → l.field.Fits es := by
        intro l hl
        obtain ⟨w, hw⟩ := h l hl
        rw [leaf?, if_pos hl, habout] at hw
        exact FieldOf.fits_iff.2 ⟨w, l.checked?_eq_some_iff.2 hw⟩
      have hall : Record.Fits .observability es := by
        intro f hf
        rcases List.mem_pair.1 hf with rfl | rfl
        · exact hfits .logLevel rfl
        · exact hfits .logFormat rfl
      exact ⟨_, check_groupField_iff.2 (Or.inr ⟨es, rfl,
        Record.check_map_eq_ok_iff.2 ⟨hall, nofun, rfl, rfl⟩⟩)⟩
    · exact ⟨_, check_groupField_iff.2 (Or.inl ⟨fields, extra, given, rfl, rfl⟩)⟩

theorem fits_field (hdeclares : t.Declares) {l : Leaf} (hl : l.inLogging = false) {w : Value}
    (h : l.verdict (t.leaf? l) = .ok w) : l.field.Fits t.state := by
  rw [leaf?, hl, if_neg Bool.false_ne_true, ← get?_state hdeclares (Leaf.field_mem hl)] at h
  exact FieldOf.fits_iff.2 ⟨w, l.checked?_eq_some_iff.2 h⟩

/-- **Settings load** exactly if what is told can be loaded, and a check takes what is told about each
    of them. -/
theorem load_eq_ok_iff (hmade : Made t.keywords) {s : Settings} :
    t.load = .ok s ↔ t.Loadable ∧ ∀ l : Leaf, l.verdict (t.leaf? l) = .ok (l.get s) := by
  have hforward : ∀ s, t.load = .ok s →
      t.Loadable ∧ ∀ l : Leaf, l.verdict (t.leaf? l) = .ok (l.get s) := by
    intro s h
    obtain ⟨es, hes, h⟩ := bind_eq_ok_iff.1 h
    obtain ⟨r, hr, h⟩ := bind_eq_ok_iff.1 h
    obtain rfl := Except.ok.inj h
    obtain ⟨henvironment, hfile, rfl⟩ := gather_eq_ok_iff.1 hes
    rw [mapError_eq_ok_iff] at hr
    obtain ⟨hfits, hnames⟩ := exists_check_settings_iff.1 ⟨r, hr⟩
    have hdeclares := names_state_iff.1 hnames
    refine ⟨⟨henvironment, hfile, hdeclares, fun v hv => ?_⟩, fun l => ?_⟩
    · exact isGroup_of_fits hdeclares (hfits groupField groupField_mem) hv
    · have hverdict := verdict_of_check hmade hdeclares hr l
      rw [hverdict, Leaf.get_ofRecord hverdict]
  refine ⟨hforward s, ?_⟩
  -- some settings are made, and by the first half they hold what is told
  rintro ⟨hload, hverdicts⟩
  have hfits : ∀ f ∈ settingsFields, f.Fits t.state := by
    have hsingle := fun (l : Leaf) hl => fits_field hload.declares (l := l) hl (hverdicts l)
    simp only [settingsFields, List.forall_mem_cons, List.not_mem_nil, false_imp_iff, implies_true,
      and_true]
    exact ⟨hsingle .baseUrl rfl, hsingle .apiKey rfl, hsingle .timeout rfl,
      fits_groupField hload fun l _ => ⟨_, hverdicts l⟩⟩
  obtain ⟨r, hr⟩ := exists_check_settings_iff.2 ⟨hfits, names_state_iff.2 hload.declares⟩
  have hmadeOf : t.load = .ok (ofRecord r) := by
    refine bind_eq_ok_iff.2 ⟨t.state, gather_eq_ok_iff.2 ⟨hload.environment, hload.file, rfl⟩, ?_⟩
    exact bind_eq_ok_iff.2 ⟨r, mapError_eq_ok_iff.2 hr, rfl⟩
  have hsame : ofRecord r = s := by
    refine Leaf.eq_of_get fun l => ?_
    have h := (hforward _ hmadeOf).2 l
    rw [hverdicts l] at h
    exact (Except.ok.inj h).symm
  rw [hmadeOf, hsame]

end Told

end SearchClient.Settings
