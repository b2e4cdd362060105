import Mathlib
import SearchClient.Client.Reply
import SearchClient.Proofs.Dumping
import SearchClient.Proofs.Json

set_option autoImplicit false

/-! # Wrapped replies

An object of a reply becomes a record of its model, checked if it fits and as it is if not. Either way
the record loses nothing of it (`Record.Conserves`): every value supplied to a field is in the field,
every other entry is among the undeclared members, and the data given back have all its names. -/

namespace SearchClient.Record

open Schema

/-! ## Conservation -/

/-- The members of a record that lose nothing of an object. `becomes` says what a value that is
    supplied to a field may be in the field. -/
structure Conserves (becomes : FieldRule → Value → Value → Prop) (model : Model)
    (es fields extra : Entries Value) (given : List String) : Prop where
  /-- The fields are declared ones, in their order. -/
  declared : fields.names.Sublist ((fieldsOf model).map (·.name))
  supplied : ∀ f ∈ fieldsOf model, ∀ v, f.supplied? es = some v →
    ∃ w, becomes f v w ∧ fields.get? f.name = some w
  /-- A field that is not supplied has its default, or is absent if it has none. -/
  omitted : ∀ f ∈ fieldsOf model, f.supplied? es = none → fields.get? f.name = f.default
  undeclared : extra = leftover (fieldsOf model) es
  /-- The data given back have all names of the object. -/
  names : ∃ dumped : Entries Value,
    dump asGiven (.record model fields extra given) = .map dumped ∧
      dumped.names.Perm (es.names.map (renamed (fieldsOf model) es))

/-- A field holds what its shape makes of a value. -/
def Checked (f : FieldRule) (v w : Value) : Prop :=
  f.shape.check v = .ok w

/-- A field holds a value as it is. -/
def Unchanged (_ : FieldRule) (v w : Value) : Prop :=
  w = v

theorem names_membersOf_sublist (value : FieldRule → Option Value) (fields : List FieldRule) :
    (membersOf value fields).names.Sublist (fields.map (·.name)) := by
  induction fields with
  | nil => exact List.Sublist.refl []
  | cons f fields ih =>
      rw [membersOf_cons]
      cases value f with
      | none => exact ih.cons f.name
      | some v => exact ih.cons_cons f.name

/-- A record whose fields have the values that the supplied ones become, or else their defaults. -/
theorem conserves_of_members {model : Model} (hkept : extrasOf model = .kept) {es : Entries Value}
    (hnodup : es.names.Nodup) {becomes : FieldRule → Value → Value → Prop}
    {value : FieldRule → Option Value}
    (hsupplied : ∀ f ∈ fieldsOf model, ∀ v, f.supplied? es = some v →
      ∃ w, becomes f v w ∧ value f = some w)
    (homitted : ∀ f ∈ fieldsOf model, f.supplied? es = none → value f = f.default)
    {given : List String}
    (hgiven : ∀ f ∈ fieldsOf model, f.name ∈ given ↔ (f.supplied? es).isSome = true) :
    Conserves becomes model es (membersOf value (fieldsOf model)) (extraOf model es) given := by
  have hget : ∀ f ∈ fieldsOf model, (membersOf value (fieldsOf model)).get? f.name = value f :=
    fun f hf => get?_membersOf (nodup_names_of_apart (apart_fieldsOf model)) hf
  refine ⟨names_membersOf_sublist value _, ?_, ?_, if_pos hkept, ?_⟩
  · intro f hf v hv
    rw [hget f hf]
    exact hsupplied f hf v hv
  · intro f hf hnone
    rw [hget f hf]
    exact homitted f hf hnone
  · refine names_dump_perm hkept hnodup (fun f hf hsome => ?_) hgiven
    obtain ⟨v, hv⟩ := Option.isSome_iff_exists.1 hsome
    obtain ⟨w, -, hw⟩ := hsupplied f hf v hv
    exact ⟨w, hw⟩

/-! ## Both ways to make a record -/

theorem rule?_of_kept {model : Model} (h : extrasOf model = .kept) (fields : Entries Value) :
    Model.rule? model fields = none := by
  cases model with
  | newPostgresIngress => exact nomatch h
  | _ => rfl

/-- Where nothing is forbidden, an object is checked successfully exactly if it fits. -/
theorem exists_check_iff {model : Model} (hkept : extrasOf model = .kept) {es : Entries Value} :
    (∃ r, check model (.map es) = .ok r) ↔ Fits model es := by
  constructor
  · rintro ⟨r, hr⟩
    exact (check_map_eq_ok_iff.1 hr).1
  · intro hfits
    refine ⟨_, check_map_eq_ok_iff.2 ⟨hfits, ?_, rule?_of_kept hkept _, rfl⟩⟩
    rw [hkept]
    exact nofun

theorem conserves_of_check {model : Model} (hkept : extrasOf model = .kept) {es : Entries Value}
    (hnodup : es.names.Nodup) {r : Value} (h : check model (.map es) = .ok r) :
    ∃ fields extra given, r = .record model fields extra given ∧
      Conserves Checked model es fields extra given := by
  obtain ⟨hfits, -, -, rfl⟩ := check_map_eq_ok_iff.1 h
  refine ⟨_, _, _, rfl, conserves_of_members hkept hnodup ?_ ?_ fun f hf => mem_given_append_iff hf⟩
  · intro f hf v hv
    have hfit := hfits f hf
    unfold FieldOf.Fits at hfit
    rw [hv] at hfit
    obtain ⟨w, hw⟩ := hfit
    refine ⟨w, hw, ?_⟩
    simp only [FieldOf.checked?, hv, hw]
    rfl
  · intro f hf hnone
    simp only [FieldOf.checked?, hnone]

theorem conserves_keep {model : Model} (hkept : extrasOf model = .kept) {es : Entries Value}
    (hnodup : es.names.Nodup) :
    ∃ fields extra given, keep model es = .record model fields extra given ∧
      Conserves Unchanged model es fields extra given := by
  refine ⟨_, _, _, keep_eq model es, conserves_of_members hkept hnodup ?_ ?_ ?_⟩
  · intro f hf v hv
    exact ⟨v, rfl, by simp only [FieldOf.kept?, hv, Option.some_or]⟩
  · intro f hf hnone
    simp only [FieldOf.kept?, hnone, Option.none_or]
  · exact fun f hf => mem_givenIn_iff hf

end SearchClient.Record

namespace SearchClient.Client.Reply

open Record Schema

/-! ## Replies -/

theorem keep_of_unreserved {model : Model} {es : Entries Value} (hcls : es.has "cls" = false)
    (hset : es.has "_fields_set" = false) : keep model es = .ok (Record.keep model es) := by
  have hnone : Entries.get? es "_fields_set" = none := Option.isNone_iff_eq_none.1 (by
    rw [← Option.not_isSome, ← Entries.has, hset]
    rfl)
  rw [keep, hcls, hnone]
  rfl

theorem result_wrap_of_check {model : Model} {es : Entries Value} {r : Value}
    (h : check model (.map es) = .ok r) : (wrap model (.map es)).result = .ok r := by
  simp only [wrap, h]
  rfl

theorem result_wrap_of_not_fits {model : Model} (hkept : extrasOf model = .kept)
    {es : Entries Value} (h : ¬Fits model es) :
    (wrap model (.map es)).result = (keep model es).mapError .misuse := by
  rw [← exists_check_iff hkept] at h
  cases hcheck : check model (.map es) with
  | ok r => exact absurd ⟨r, hcheck⟩ h
  | error e => simp only [wrap, hcheck]

theorem extrasOf_ingressModel (es : Entries Value) : extrasOf (ingressModel es) = .kept := by
  unfold ingressModel
  split <;> rfl

theorem ingressModel_eq_iff {es : Entries Value} :
    ingressModel es = .postgresIngress ↔ es.get? "type" = some (.text "postgres") := by
  unfold ingressModel
  split
  · next h => simp [h]
  · next h => simpa using h

theorem wrapIngress_of_check {es : Entries Value} {r : Value}
    (h : check (ingressModel es) (.map es) = .ok r) : wrapIngress (.map es) = .ok r := by
  simp only [wrapIngress, h]

theorem wrapIngress_of_not_fits {es : Entries Value} (h : ¬Fits (ingressModel es) es) :
    wrapIngress (.map es) = keep .genericIngress es := by
  rw [← exists_check_iff (extrasOf_ingressModel es)] at h
  cases hcheck : check (ingressModel es) (.map es) with
  | ok r => exact absurd ⟨r, hcheck⟩ h
  | error e => simp only [wrapIngress, hcheck]

theorem wrap_conserves {model : Model} (hkept : extrasOf model = .kept) {es : Entries Value}
    (hnodup : es.names.Nodup) (hcls : es.has "cls" = false) (hset : es.has "_fields_set" = false) :
    ∃ fields extra given, (wrap model (.map es)).result = .ok (.record model fields extra given) ∧
      (Fits model es → Conserves Checked model es fields extra given) ∧
      (¬Fits model es → Conserves Unchanged model es fields extra given) := by
  by_cases hfits : Fits model es
  · obtain ⟨r, hr⟩ := (exists_check_iff hkept).2 hfits
    obtain ⟨fields, extra, given, rfl, hconserves⟩ := conserves_of_check hkept hnodup hr
    exact ⟨fields, extra, given, result_wrap_of_check hr, fun _ => hconserves,
      fun hnot => absurd hfits hnot⟩
  · obtain ⟨fields, extra, given, hkeep, hconserves⟩ := conserves_keep hkept hnodup
    refine ⟨fields, extra, given, ?_, fun hfit => absurd hfit hfits, fun _ => hconserves⟩
    rw [result_wrap_of_not_fits hkept hfits, keep_of_unreserved hcls hset, hkeep]
    rfl

end SearchClient.Client.Reply
