import Mathlib
import SearchClient.Proofs.ReadingBack

set_option autoImplicit false

/-! # Records with names of their own

A value is proper if no two members of a map or record in it share a name in data, and no integer in
it is too long to be read (`Record.Proper`). Nothing else comes of proper data, whether they are
checked or not (`Record.proper_of_check`, `Record.proper_keep`): a text is never read as an integer
that is too long, and what no field takes has no name of a field. -/

namespace SearchClient

namespace Value

/-- The members of a map, or of a record by their names in data. -/
def namedMembers : Value → Entries Value
  | .map entries => entries
  | .record model fields extra _ => fields.map (fun e => (Schema.wireOf model e.1, e.2)) ++ extra
  | _ => []

end Value

/-! ## Integers of texts -/

namespace Literal

open Decimal

theorem length_le_digitLimit {n : Nat} (h : n < 10) : length n ≤ digitLimit := by
  rw [length_of_lt h]
  decide

theorem digitIn?_lt {base : Nat} {c : Char} {d : Nat} (h : digitIn? base c = some d) : d < base := by
  obtain ⟨-, hd⟩ := Option.filter_eq_some_iff.1 h
  exact of_decide_eq_true hd

/-- An integer that is read from digits has no more of them than an integer may have. -/
theorem length_of_readDigits {cs : List Char} {n : Nat} (h : readDigits 10 cs = .ok n) :
    length n ≤ digitLimit := by
  unfold readDigits at h
  simp only [decide_true, Bool.true_and, decide_eq_true_eq] at h
  split at h
  · exact nomatch h
  · next hfront =>
    split at h
    · exact nomatch h
    · exact nomatch h
    · next ds _ hds =>
      obtain rfl := Except.ok.inj h
      have hall := forall₂_of_mapM_eq_some hds
      have hsmall : ∀ d ∈ ds, d < 10 := fun d hd => by
        obtain ⟨c, -, hc⟩ := exists_mem_of_forall₂ hall.flip hd
        exact digitIn?_lt hc
      -- nothing but digits is there, so all of them are counted before any is read
      have hdigits : cs.takeWhile (fun c => (digitIn? 10 c).isSome) = cs :=
        List.takeWhile_eq_self_iff.2 fun c hc => by
          obtain ⟨d, -, hd⟩ := exists_mem_of_forall₂ hall hc
          rw [hd, Option.isSome_some]
      rw [hdigits, hall.length_eq] at hfront
      have hlength := length_le_of_lt (value_lt hsmall)
      have hlimit : 1 ≤ digitLimit := by decide
      exact hlength.trans (max_le hlimit (Nat.le_of_not_lt hfront))

theorem length_of_readPlain {cs : List Char} {n : Int} (h : readPlain cs = .ok n) :
    length n.natAbs ≤ digitLimit := by
  have hsigned (negative : Bool) {ds : List Char}
      (h : ((readDigits 10 ds).map fun n => if negative then -(n : Int) else n) = .ok n) :
      length n.natAbs ≤ digitLimit := by
    obtain ⟨m, hm, rfl⟩ := map_eq_ok_iff.1 h
    obtain ⟨k, hk, hm⟩ := bind_eq_ok_iff.1 hm
    obtain rfl := Except.ok.inj hm
    have hlength := length_of_readDigits hk
    split
    · rwa [Int.natAbs_neg, Int.natAbs_natCast]
    · rwa [Int.natAbs_natCast]
  unfold readPlain at h
  -- the sign is told apart, and then the digits from what follows them
  split at h
  split at h
  split at h
  · split at h
    · rw [← Except.ok.inj h]
      exact length_le_digitLimit (by decide)
    · exact nomatch h
  · simp only [] at h
    split_ifs at h with hnegative
    · exact hsigned true h
    · exact hsigned false h

/-- An integer that is read from a text is not too long to be read again. -/
theorem length_of_readLaxInt {s : String} {n : Int} (h : readLaxInt s = .ok n) :
    length n.natAbs ≤ digitLimit := by
  unfold readLaxInt at h
  split at h
  · exact nomatch h
  · exact length_of_readPlain h

end Literal

namespace Record

open Schema

/-- A value whose maps and records have distinct names in data, and whose integers are not too long
    to be read. -/
inductive Proper : Value → Prop
  | null : Proper .null
  | bool (b : Bool) : Proper (.bool b)
  | int {n : Int} (hn : Decimal.length n.natAbs ≤ Decimal.digitLimit) : Proper (.int n)
  | float (x : Binary64) : Proper (.float x)
  | text (s : String) : Proper (.text s)
  | symbol (s : Symbol) : Proper (.symbol s)
  | date (d : Date) : Proper (.date d)
  | dateTime (t : DateTime) : Proper (.dateTime t)
  | octets (bs : List UInt8) : Proper (.octets bs)
  | list {items : List Value} (hitems : ∀ v ∈ items, Proper v) : Proper (.list items)
  | map {entries : Entries Value} (hnames : entries.names.Nodup)
      (hentries : ∀ e ∈ entries, Proper e.2) : Proper (.map entries)
  | record {model : Model} {fields extra : Entries Value} {given : List String}
      (hnames : (Value.record model fields extra given).namedMembers.names.Nodup)
      (hmembers : ∀ e ∈ (Value.record model fields extra given).namedMembers, Proper e.2) :
      Proper (.record model fields extra given)

/-! ## Checked values -/

/-- A shape that makes proper values of proper values. -/
def KeepsProper (s : Shape) : Prop :=
  ∀ v w, Proper v → s.check v = .ok w → Proper w

theorem keepsProper_anything : KeepsProper .anything := by
  intro v w hv h
  obtain rfl := Except.ok.inj h
  exact hv

theorem keepsProper_text : KeepsProper .text := by
  intro v w _ h
  obtain ⟨s, rfl⟩ := exists_text_of_check h
  exact .text s

theorem keepsProper_address : KeepsProper .address := by
  intro v w _ h
  unfold Shape.check at h
  split at h
  · obtain rfl := Except.ok.inj h
    exact .text _
  · obtain ⟨s, rfl⟩ := exists_text_of_check h
    exact .text s

theorem keepsProper_boolean : KeepsProper .boolean := by
  intro v w _ h
  obtain ⟨b, rfl⟩ := exists_bool_of_check h
  exact .bool b

theorem keepsProper_oneOf (options : List String) : KeepsProper (.oneOf options) := by
  intro v w _ h
  obtain ⟨s, -, -, rfl⟩ := exists_option_of_check h
  exact .text s

theorem keepsProper_oneOfOrText (options : List String) : KeepsProper (.oneOfOrText options) := by
  intro v w _ h
  change checkOneOfOrText options v = .ok w at h
  unfold checkOneOfOrText at h
  split at h
  · next htext =>
    obtain rfl := Except.ok.inj h
    obtain ⟨s, rfl⟩ := exists_text_of_check htext
    exact .text s
  · exact nomatch h

/-- An integer that a check makes is not too long: what is read from a text has no more digits than
    an integer may have, and a number is limited to 64 bits. -/
theorem proper_of_checkInteger {v w : Value} (hv : Proper v) (h : checkInteger v = .ok w) :
    Proper w := by
  unfold checkInteger at h
  split at h
  · obtain rfl := Except.ok.inj h
    exact hv
  · obtain rfl := Except.ok.inj h
    refine .int (Literal.length_le_digitLimit ?_)
    split <;> decide
  · unfold checkWhole at h
    split at h
    · exact nomatch h
    · split at h
      · exact nomatch h
      · next n _ =>
        split at h
        · next hbound =>
          obtain rfl := Except.ok.inj h
          have hsmall : n.natAbs < 10 ^ 19 := by
            unfold wordBound at hbound
            omega
          have hlimit : max 1 19 ≤ Decimal.digitLimit := by decide
          exact .int ((Decimal.length_le_of_lt hsmall).trans hlimit)
        · exact nomatch h
  · obtain ⟨s, -, h⟩ := bind_eq_ok_iff.1 h
    split at h
    · next hread =>
      obtain rfl := Except.ok.inj h
      exact .int (Literal.length_of_readLaxInt hread)
    · exact nomatch h
    · exact nomatch h

theorem keepsProper_integer (least : Option Int) : KeepsProper (.integer least) := by
  intro v w hv h
  obtain ⟨n, hn, -, rfl⟩ := check_integer_eq_ok_iff.1 h
  exact proper_of_checkInteger hv hn

theorem keepsProper_positive : KeepsProper .positive := by
  intro v w _ h
  unfold Shape.check at h
  split at h
  · split at h
    · obtain rfl := Except.ok.inj h
      exact .float _
    · exact nomatch h
  · obtain ⟨x, rfl⟩ := exists_float_of_checkFloat h
    exact .float x

theorem keepsProper_number : KeepsProper .number := by
  intro v w hv h
  change checkNumber v = .ok w at h
  unfold checkNumber at h
  split at h
  · obtain rfl := Except.ok.inj h
    exact hv
  · obtain rfl := Except.ok.inj h
    exact hv
  · split at h
    · next hinteger =>
      obtain rfl := Except.ok.inj h
      exact proper_of_checkInteger hv hinteger
    · split at h
      · next hfloat =>
        obtain rfl := Except.ok.inj h
        obtain ⟨x, rfl⟩ := exists_float_of_checkFloat hfloat
        exact .float x
      · exact nomatch h

theorem keepsProper_list {item : Shape} (hitem : KeepsProper item) : KeepsProper (.list item) := by
  intro v w hv h
  unfold Shape.check at h
  split at h
  · obtain ⟨ws, hws, rfl⟩ := map_eq_ok_iff.1 h
    cases hv with
    | list hitems => exact .list (forall_of_checkItems (fun v hv w => hitem v w (hitems v hv)) hws)
  · exact nomatch h

theorem keepsProper_map {item : Shape} (hitem : KeepsProper item) : KeepsProper (.map item) := by
  intro v w hv h
  unfold Shape.check at h
  split at h
  · obtain ⟨ws, hws, rfl⟩ := map_eq_ok_iff.1 h
    cases hv with
    | map hnames hentries =>
      refine .map ?_ (forall_of_checkEntries (fun e he w => hitem e.2 w (hentries e he)) hws)
      rwa [names_of_checkEntries hws]
  · exact nomatch h

theorem keepsProper_optional {s : Shape} (hs : KeepsProper s) : KeepsProper (.optional s) := by
  intro v w hv h
  unfold Shape.check at h
  split at h
  · obtain rfl := Except.ok.inj h
    exact .null
  · exact hs v w hv h

/-! ## Made records -/

theorem namedMembers_made (model : Model) (value : FieldRule → Option Value) (extra : Entries Value)
    (given : List String) :
    (Value.record model (membersOf value (fieldsOf model)) extra given).namedMembers =
      ((fieldsOf model).filterMap fun f => (value f).map (f.wire, ·)) ++ extra := by
  rw [Value.namedMembers, membersOf, List.map_filterMap]
  refine congrArg (· ++ extra) (List.filterMap_congr fun f hf => ?_)
  rw [Option.map_map]
  refine congrArg ((value f).map ·) (funext fun v => ?_)
  rw [Function.comp_apply, wireOf_of_mem hf]

theorem names_filterMap_sublist (value : FieldRule → Option Value) (fields : List FieldRule) :
    (Entries.names (fields.filterMap fun f => (value f).map (f.wire, ·))).Sublist
      (fields.map (·.wire)) := by
  induction fields with
  | nil => exact List.Sublist.refl _
  | cons f fields ih =>
      rw [List.filterMap_cons]
      cases value f with
      | none => exact ih.cons _
      | some v => exact ih.cons_cons _

/-- A record whose fields have proper values, beside what proper data leave over, is proper. -/
theorem proper_made {model : Model} {data : Entries Value} (hdata : Proper (.map data))
    {value : FieldRule → Option Value}
    (hvalue : ∀ f ∈ fieldsOf model, ∀ v, value f = some v → Proper v) (given : List String) :
    Proper (.record model (membersOf value (fieldsOf model)) (extraOf model data) given) := by
  cases hdata with
  | map hnames hentries =>
    refine .record ?_ ?_
    · rw [namedMembers_made, Entries.names, List.map_append]
      have hfields := names_filterMap_sublist value (fieldsOf model)
      have hextra := (extraOf_sublist model data).map Prod.fst
      refine List.Nodup.append ((nodup_wires_of_apart (apart_fieldsOf model)).sublist hfields)
        (hnames.sublist hextra) fun name hname hleft => ?_
      -- what is under the name of a field in data is never left over
      obtain ⟨f, hf, rfl⟩ := List.mem_map.1 (hfields.subset hname)
      exact wire_notMem_extraOf hf hleft
    · rw [namedMembers_made, List.forall_mem_append]
      refine ⟨fun e he => ?_, fun e he => hentries e ((extraOf_sublist model data).subset he)⟩
      obtain ⟨f, hf, he⟩ := List.mem_filterMap.1 he
      obtain ⟨v, hv, rfl⟩ := Option.map_eq_some_iff.1 he
      exact hvalue f hf v hv

theorem proper_of_supplied {data : Entries Value} (hdata : Proper (.map data)) {f : FieldRule}
    {v : Value} (h : f.supplied? data = some v) : Proper v := by
  cases hdata with
  | map _ hentries =>
    rcases Option.or_eq_some_iff.1 h with hwire | ⟨-, hname⟩
    · exact hentries _ (Entries.mem_of_get? hwire)
    · exact hentries _ (Entries.mem_of_get? hname)

/-- A field that is made proper of proper data, or by default. -/
structure FieldProper (f : FieldRule) : Prop where
  shape : KeepsProper f.shape
  default : ∀ v, f.default = some v → Proper v

theorem fieldProper_required {shape : Shape} (name : String) (h : KeepsProper shape) :
    FieldProper (.required name shape) :=
  ⟨h, fun _ hv => absurd hv.symm (Option.some_ne_none _)⟩

theorem fieldProper_defaulted {shape : Shape} {default : Value} (name : String)
    (h : KeepsProper shape) (hdefault : Proper default) :
    FieldProper (.defaulted name shape default) :=
  ⟨h, fun _ hv => Option.some.inj hv ▸ hdefault⟩

theorem fieldProper_nullable {shape : Shape} (name : String) (h : KeepsProper shape) :
    FieldProper (.nullable name shape) :=
  ⟨keepsProper_optional h, fun _ hv => Option.some.inj hv ▸ .null⟩

theorem fieldProper_wiredAs {f : FieldRule} (h : FieldProper f) (wire : String) :
    FieldProper (f.wiredAs wire) :=
  ⟨h.shape, h.default⟩

/-- The records of a model are proper where its shapes make proper values. -/
theorem keepsProper_record {model : Model} (h : ∀ f ∈ fieldsOf model, FieldProper f) :
    KeepsProper (.record model (extrasOf model) (fieldsOf model)) := by
  intro v w hv hw
  cases v with
  | map data =>
    obtain ⟨-, -, -, rfl⟩ := check_map_eq_ok_iff.1 (mapError_eq_ok_iff.2 hw)
    refine proper_made hv (fun f hf v hv' => ?_) _
    unfold FieldOf.checked? at hv'
    cases hsupplied : f.supplied? data with
    | none =>
      rw [hsupplied] at hv'
      exact (h f hf).default v hv'
    | some u =>
      rw [hsupplied] at hv'
      cases hcheck : f.shape.check u with
      | error issues => simp [hcheck, Except.toOption] at hv'
      | ok w =>
        simp only [hcheck, Except.toOption, Option.some.injEq] at hv'
        obtain rfl := hv'
        exact (h f hf).shape u w (proper_of_supplied hv hsupplied) hcheck
  | record other fields extra given =>
    rw [Shape.check] at hw
    split at hw
    · obtain rfl := Except.ok.inj hw
      exact hv
    · cases hw
  | _ => exact absurd hw (by simp [Shape.check, refuse])

theorem proper_zero : Proper (.int 0) :=
  .int (Literal.length_le_digitLimit (by decide))

theorem fieldProper_statistics : ∀ f ∈ fieldsOf .statistics, FieldProper f := by
  simp [fieldsOf, statisticsFields, fieldProper_nullable, fieldProper_defaulted, keepsProper_text,
    keepsProper_integer, keepsProper_boolean, proper_zero, Proper.bool]

theorem proper_noStatistics : Proper noStatistics := by
  refine .record (by decide) ?_
  simp [Value.namedMembers, Proper.null, Proper.bool, proper_zero]

theorem fieldProper_observability : ∀ f ∈ fieldsOf .observability, FieldProper f := by
  simp [fieldsOf, observabilityFields, fieldProper_defaulted, keepsProper_text, Proper.text]

theorem proper_defaultObservability : Proper defaultObservability := by
  refine .record (by decide) ?_
  simp [Value.namedMembers, Proper.text]

theorem fieldProper_postgresConfig : ∀ f ∈ fieldsOf .postgresConfig, FieldProper f := by
  simp [fieldsOf, postgresConfigFields, fieldProper_nullable, fieldProper_wiredAs, keepsProper_text,
    keepsProper_integer, keepsProper_boolean, keepsProper_list, keepsProper_map, keepsProper_oneOf]

/-- All fields of all models are made proper. -/
theorem fieldProper_fieldsOf (model : Model) : ∀ f ∈ fieldsOf model, FieldProper f := by
  have hstatistics : KeepsProper (.record .statistics .kept statisticsFields) :=
    keepsProper_record fieldProper_statistics
  have hobservability : KeepsProper (.record .observability .ignored observabilityFields) :=
    keepsProper_record fieldProper_observability
  have hconfig : KeepsProper postgresConfigShape := keepsProper_record fieldProper_postgresConfig
  have hhits : KeepsProper (.list (.map .anything)) :=
    keepsProper_list (keepsProper_map keepsProper_anything)
  have hlist : Proper (.list []) := .list nofun
  have hmap : Proper (.map []) := .map List.nodup_nil nofun
  have hingress : ∀ f ∈ ingressFields, FieldProper f := by
    simp [ingressFields, fieldProper_required, fieldProper_defaulted, keepsProper_text,
      keepsProper_oneOfOrText, hstatistics, Proper.text, proper_noStatistics]
  cases model with
  | statistics => exact fieldProper_statistics
  | observability => exact fieldProper_observability
  | postgresConfig => exact fieldProper_postgresConfig
  | postgresIngress =>
    refine List.forall_mem_append.2 ⟨hingress, ?_⟩
    simp [fieldProper_required, fieldProper_defaulted, keepsProper_oneOf, hconfig, Proper.text]
  | genericIngress =>
    refine List.forall_mem_append.2 ⟨hingress, ?_⟩
    simp [fieldProper_required, fieldProper_defaulted, keepsProper_text, keepsProper_map,
      keepsProper_anything, hmap]
  | index | upload | newIngress | newPostgresIngress | weighted | bounds | sortKey | search
  | results | settings =>
    simp [fieldsOf, indexFields, uploadFields, newIngressFields, newPostgresIngressFields,
      weightedFields, boundsFields, sortKeyFields, searchFields, resultsFields, settingsFields,
      fieldProper_required, fieldProper_defaulted, fieldProper_nullable, fieldProper_wiredAs,
      keepsProper_text, keepsProper_address, keepsProper_integer, keepsProper_positive,
      keepsProper_number, keepsProper_oneOf, keepsProper_list, keepsProper_map,
      keepsProper_anything, hconfig, hobservability, hhits, hlist, hmap, proper_zero, Proper.null,
      Proper.text, Proper.float, proper_defaultObservability]

/-- **Checked records are proper.** -/
theorem proper_of_check {model : Model} {data r : Value} (hdata : Proper data)
    (h : check model data = .ok r) : Proper r :=
  keepsProper_record (fieldProper_fieldsOf model) data r hdata (mapError_eq_ok_iff.1 h)

/-- **Records that are kept without a check are proper.** -/
theorem proper_keep (model : Model) {data : Entries Value} (hdata : Proper (.map data)) :
    Proper (keep model data) := by
  rw [keep_eq]
  refine proper_made hdata (fun f hf v hv => ?_) _
  rcases Option.or_eq_some_iff.1 hv with hsupplied | ⟨-, hdefault⟩
  · exact proper_of_supplied hdata hsupplied
  · exact (fieldProper_fieldsOf model f hf).default v hdefault

end Record

end SearchClient
