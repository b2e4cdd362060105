import Mathlib
import SearchClient.Proofs.Editing

set_option autoImplicit false

/-! # Records that are made again

A shape settles values if it takes what it has made as it is. A record whose fields have such shapes
and are null by default is made again, field by field, from the data that it gives back without what
is null (`Record.check_sentData`): a field that was null is left out and has its default again. For
this no name that the record does not declare may be that of a field. -/

namespace SearchClient

namespace Schema

/-! ## Shapes that settle -/

/-- A shape that takes what it has made as it is. -/
def Lasts (s : Shape) : Prop :=
  ∀ v w, s.check v = .ok w → s.check w = .ok w

/-- A value that has distinct names if it is a map. -/
def HasDistinctNames (v : Value) : Prop :=
  ∀ es : Entries Value, v = .map es → es.names.Nodup

/-- A shape that takes what it has made as it is, and makes data of a JSON text. -/
structure Settles (s : Shape) : Prop where
  again : ∀ v w, s.check v = .ok w → s.check w = .ok w
  data : ∀ v w, s.check v = .ok w → HasDistinctNames w → IsJson w

theorem settles_of_made {s : Shape} {p : Value → Prop} (hmade : ∀ v w, s.check v = .ok w → p w)
    (hagain : ∀ w, p w → s.check w = .ok w) (hdata : ∀ w, p w → HasDistinctNames w → IsJson w) :
    Settles s :=
  ⟨fun v w h => hagain w (hmade v w h), fun v w h => hdata w (hmade v w h)⟩

theorem isJson_of_check_text {v w : Value} (h : Shape.text.check v = .ok w) : IsJson w := by
  obtain ⟨s, rfl⟩ := exists_text_of_check h
  exact .text s

theorem settles_text : Settles .text := by
  refine settles_of_made (p := fun w => ∃ s, w = .text s) (fun v w => exists_text_of_check) ?_ ?_
  · rintro _ ⟨s, rfl⟩
    rfl
  · rintro _ ⟨s, rfl⟩ -
    exact .text s

theorem exists_option_of_check {options : List String} {v w : Value}
    (h : (Shape.oneOf options).check v = .ok w) : ∃ s ∈ options, v = .text s ∧ w = .text s := by
  change checkOneOf options v = .ok w at h
  unfold checkOneOf at h
  split at h
  · next s =>
    split at h
    · next hs => exact ⟨s, hs, rfl, (Except.ok.inj h).symm⟩
    · exact nomatch h
  · exact nomatch h

theorem settles_oneOf (options : List String) : Settles (.oneOf options) := by
  refine settles_of_made (p := fun w => ∃ s ∈ options, w = .text s) ?_ ?_ ?_
  · intro v w h
    obtain ⟨s, hs, -, hw⟩ := exists_option_of_check h
    exact ⟨s, hs, hw⟩
  · rintro _ ⟨s, hs, rfl⟩
    exact if_pos hs
  · rintro _ ⟨s, -, rfl⟩ -
    exact .text s

theorem exists_int_of_checkInteger {v w : Value} (h : checkInteger v = .ok w) : ∃ n, w = .int n := by
  unfold checkInteger at h
  split at h
  · exact ⟨_, (Except.ok.inj h).symm⟩
  · exact ⟨_, (Except.ok.inj h).symm⟩
  · unfold checkWhole at h
    split at h
    · exact nomatch h
    · split at h
      · exact nomatch h
      · split at h
        · exact ⟨_, (Except.ok.inj h).symm⟩
        · exact nomatch h
  · obtain ⟨s, -, h⟩ := bind_eq_ok_iff.1 h
    split at h
    · exact ⟨_, (Except.ok.inj h).symm⟩
    · exact nomatch h
    · exact nomatch h

/-- An integer is what it is read as, if it is not below the least that is allowed. -/
theorem check_integer_eq_ok_iff {least : Option Int} {v w : Value} :
    (Shape.integer least).check v = .ok w ↔
      ∃ n, checkInteger v = .ok (.int n) ∧ (∀ l, least = some l → l ≤ n) ∧ w = .int n := by
  have hread : ∀ {u}, checkInteger v = .ok u → ∃ n, u = .int n := exists_int_of_checkInteger
  cases hcheck : checkInteger v with
  | error issues => simp [Shape.check, hcheck]
  | ok u =>
    obtain ⟨n, rfl⟩ := hread hcheck
    cases least with
    | none => simp [Shape.check, hcheck, eq_comm]
    | some l => by_cases hl : l ≤ n <;> simp [Shape.check, hcheck, hl, refuse, eq_comm]

theorem lasts_integer (least : Option Int) : Lasts (.integer least) := by
  intro v w h
  obtain ⟨n, -, hleast, rfl⟩ := check_integer_eq_ok_iff.1 h
  exact check_integer_eq_ok_iff.2 ⟨n, rfl, hleast, rfl⟩

theorem settles_integer : Settles (.integer none) := by
  refine ⟨lasts_integer none, fun v w h _ => ?_⟩
  obtain ⟨n, -, -, rfl⟩ := check_integer_eq_ok_iff.1 h
  exact .int n

theorem exists_bool_of_check {v w : Value} (h : Shape.boolean.check v = .ok w) : ∃ b, w = .bool b := by
  change checkBoolean v = .ok w at h
  unfold checkBoolean at h
  split at h
  · exact ⟨_, (Except.ok.inj h).symm⟩
  · exact ⟨_, (Except.ok.inj h).symm⟩
  · exact ⟨_, (Except.ok.inj h).symm⟩
  · exact nomatch h
  · split at h
    · exact ⟨_, (Except.ok.inj h).symm⟩
    · exact ⟨_, (Except.ok.inj h).symm⟩
    · exact nomatch h
  · obtain ⟨s, -, h⟩ := bind_eq_ok_iff.1 h
    split at h
    · exact ⟨_, (Except.ok.inj h).symm⟩
    · exact nomatch h

theorem settles_boolean : Settles .boolean := by
  refine settles_of_made (p := fun w => ∃ b, w = .bool b) (fun v w => exists_bool_of_check) ?_ ?_
  · rintro _ ⟨b, rfl⟩
    rfl
  · rintro _ ⟨b, rfl⟩ -
    exact .bool b

/-! ### Shapes made of others -/

theorem forall_of_checkItems {check : Value → Verdict} {p : Value → Prop}
    {n : Nat} {vs ws : List Value} (hmade : ∀ v ∈ vs, ∀ w, check v = .ok w → p w)
    (h : checkItems check n vs = .ok ws) : ∀ w ∈ ws, p w := by
  induction vs generalizing n ws with
  | nil =>
    obtain rfl := Except.ok.inj h
    exact fun w hw => absurd hw List.not_mem_nil
  | cons v vs ih =>
      obtain ⟨hhere, hlater⟩ := List.forall_mem_cons.1 hmade
      unfold checkItems at h
      split at h
      · next hfirst hrest =>
        obtain rfl := Except.ok.inj h
        exact List.forall_mem_cons.2 ⟨hhere _ hfirst, ih hlater hrest⟩
      · exact nomatch h
      · exact nomatch h
      · exact nomatch h

theorem checkItems_eq_self {check : Value → Verdict} {vs : List Value}
    (h : ∀ v ∈ vs, check v = .ok v) (n : Nat) : checkItems check n vs = .ok vs := by
  induction vs generalizing n with
  | nil => rfl
  | cons v vs ih =>
      obtain ⟨hfirst, hrest⟩ := List.forall_mem_cons.1 h
      rw [checkItems, hfirst, ih hrest]

theorem forall_of_checkEntries {check : Value → Verdict} {p : Value → Prop}
    {es ws : List (String × Value)} (hmade : ∀ e ∈ es, ∀ w, check e.2 = .ok w → p w)
    (h : checkEntries check es = .ok ws) : ∀ e ∈ ws, p e.2 := by
  induction es generalizing ws with
  | nil =>
    obtain rfl := Except.ok.inj h
    exact fun e he => absurd he List.not_mem_nil
  | cons e es ih =>
      obtain ⟨hhere, hlater⟩ := List.forall_mem_cons.1 hmade
      unfold checkEntries at h
      split at h
      · next hfirst hrest =>
        obtain rfl := Except.ok.inj h
        exact List.forall_mem_cons.2 ⟨hhere _ hfirst, ih hlater hrest⟩
      · exact nomatch h
      · exact nomatch h
      · exact nomatch h

/-- A check of entries keeps their names. -/
theorem names_of_checkEntries {check : Value → Verdict} {es ws : Entries Value}
    (h : checkEntries check es = .ok ws) : ws.names = es.names := by
  induction es generalizing ws with
  | nil =>
    obtain rfl := Except.ok.inj h
    rfl
  | cons e es ih =>
      unfold checkEntries at h
      split at h
      · next hrest =>
        obtain rfl := Except.ok.inj h
        exact congrArg (e.1 :: ·) (ih hrest)
      · exact nomatch h
      · exact nomatch h
      · exact nomatch h

theorem checkEntries_eq_self {check : Value → Verdict} {es : List (String × Value)}
    (h : ∀ e ∈ es, check e.2 = .ok e.2) : checkEntries check es = .ok es := by
  induction es with
  | nil => rfl
  | cons e es ih =>
      obtain ⟨hfirst, hrest⟩ := List.forall_mem_cons.1 h
      rw [checkEntries, hfirst, ih hrest]

theorem lasts_list {item : Shape} (h : Lasts item) : Lasts (.list item) := by
  intro v w hw
  unfold Shape.check at hw
  split at hw
  · obtain ⟨ws, hws, rfl⟩ := map_eq_ok_iff.1 hw
    exact map_eq_ok_iff.2 ⟨ws, checkItems_eq_self (forall_of_checkItems (fun v _ => h v) hws) 0, rfl⟩
  · exact nomatch hw

theorem settles_list {item : Shape} (h : Settles item)
    (hjson : ∀ v w, item.check v = .ok w → IsJson w) : Settles (.list item) := by
  refine ⟨lasts_list h.again, fun v w hw _ => ?_⟩
  unfold Shape.check at hw
  split at hw
  · obtain ⟨ws, hws, rfl⟩ := map_eq_ok_iff.1 hw
    exact .list (forall_of_checkItems (fun v _ => hjson v) hws)
  · exact nomatch hw

theorem lasts_map {item : Shape} (h : Lasts item) : Lasts (.map item) := by
  intro v w hw
  unfold Shape.check at hw
  split at hw
  · obtain ⟨ws, hws, rfl⟩ := map_eq_ok_iff.1 hw
    exact map_eq_ok_iff.2 ⟨ws, checkEntries_eq_self (forall_of_checkEntries (fun e _ => h e.2) hws), rfl⟩
  · exact nomatch hw

theorem settles_map {item : Shape} (h : Settles item)
    (hjson : ∀ v w, item.check v = .ok w → IsJson w) : Settles (.map item) := by
  refine ⟨lasts_map h.again, fun v w hw hnames => ?_⟩
  unfold Shape.check at hw
  split at hw
  · obtain ⟨ws, hws, rfl⟩ := map_eq_ok_iff.1 hw
    exact .map (hnames ws rfl) (forall_of_checkEntries (fun e _ => hjson e.2) hws)
  · exact nomatch hw

theorem check_optional_of_check {s : Shape} {w : Value} (h : s.check w = .ok w) :
    (Shape.optional s).check w = .ok w := by
  unfold Shape.check
  split
  · rfl
  · exact h

theorem check_of_optional {s : Shape} {v w : Value} (h : (Shape.optional s).check v = .ok w)
    (hv : v.isNull = false) : s.check v = .ok w := by
  unfold Shape.check at h
  split at h
  · exact nomatch hv
  · exact h

theorem lasts_optional {s : Shape} (h : Lasts s) : Lasts (.optional s) := by
  intro v w hw
  unfold Shape.check at hw
  split at hw
  · obtain rfl := Except.ok.inj hw
    rfl
  · exact check_optional_of_check (h v w hw)

theorem settles_optional {s : Shape} (h : Settles s) : Settles (.optional s) := by
  refine ⟨lasts_optional h.again, fun v w hw => ?_⟩
  unfold Shape.check at hw
  split at hw
  · obtain rfl := Except.ok.inj hw
    exact fun _ => .null
  · exact h.data v w hw

/-! ### Fields that may be null -/

/-- A field that is null by default and takes what it has made as it is. -/
structure FieldOf.Nullable (f : FieldRule) : Prop where
  default : f.default = some .null
  null : f.shape.check .null = .ok .null
  settles : Settles f.shape

theorem nullable_of_optional {f : FieldRule} {s : Shape} (hdefault : f.default = some .null)
    (hshape : f.shape = .optional s) (h : Settles s) : f.Nullable := by
  refine ⟨hdefault, ?_, ?_⟩
  · rw [hshape]
    rfl
  · rw [hshape]
    exact settles_optional h

/-- All settings of a connector to a table may be null. -/
theorem nullable_postgresConfig : ∀ f ∈ fieldsOf .postgresConfig, f.Nullable := by
  have htext {f : FieldRule} (hdefault : f.default = some .null) (hshape : f.shape = .optional .text) :
      f.Nullable := nullable_of_optional hdefault hshape settles_text
  have hlist := settles_list settles_text fun _ _ => isJson_of_check_text
  have hmap := settles_map settles_text fun _ _ => isJson_of_check_text
  simp only [fieldsOf, postgresConfigFields, List.forall_mem_cons]
  exact ⟨htext rfl rfl, htext rfl rfl, htext rfl rfl, htext rfl rfl,
    nullable_of_optional rfl rfl hlist, nullable_of_optional rfl rfl hmap, htext rfl rfl,
    htext rfl rfl, nullable_of_optional rfl rfl (settles_oneOf _), htext rfl rfl,
    nullable_of_optional rfl rfl settles_integer, nullable_of_optional rfl rfl settles_boolean,
    fun _ h => absurd h List.not_mem_nil⟩

end Schema

theorem Value.eq_null_of_isNull {v : Value} (h : v.isNull = true) : v = .null := by
  cases v with
  | null => rfl
  | _ => exact nomatch h

namespace Record

open Schema

/-! ## Data that are sent -/

/-- How data are sent: by their names in data, and without what is null. -/
def asSent : DumpOptions :=
  { byWire := true, omitNull := true }

/-- The data of fields are sent where they are not null. -/
theorem dumpFields_eq (model : Model) (given : List String) (fields : Entries Value) :
    dumpFields asSent model given fields =
      ((fields.map fun e => (Schema.wireOf model e.1, e.2)).filter fun e => !e.2.isNull).map
        fun e => (e.1, dump asSent e.2) := by
  induction fields with
  | nil => rfl
  | cons e fields ih =>
      rw [dumpFields, ih, List.map_cons, List.filter_cons]
      cases e.2.isNull <;> simp [asSent, DumpOptions.nameOf]

/-- What stands beside the fields is sent where it is not null. -/
theorem dumpExtra_eq (extra : Entries Value) :
    dumpExtra asSent extra =
      (extra.filter fun e => !e.2.isNull).map fun e => (e.1, dump asSent e.2) := by
  induction extra with
  | nil => rfl
  | cons e extra ih =>
      rw [dumpExtra, ih, List.filter_cons]
      cases e.2.isNull <;> simp [asSent]

/-- The values of fields that are not null, by the names of the fields in data. -/
def sentFields (value : FieldRule → Value) (fields : List FieldRule) : Entries Value :=
  (fields.filter fun f => !(value f).isNull).map fun f => (f.wire, value f)

/-- The data of a record: the values of its fields that are not null, and what stands beside them. -/
def sentData (model : Model) (value : FieldRule → Value) (extra : Entries Value) : Entries Value :=
  sentFields value (fieldsOf model) ++ extra

/-- Values of the fields of a model, with what stands beside them, that a record can be made of again:
    the shapes take the values as they are, and nothing beside them has the name of a field. -/
structure Restorable (model : Model) (value : FieldRule → Value) (extra : Entries Value) : Prop where
  again : ∀ f ∈ fieldsOf model, f.shape.check (value f) = .ok (value f)
  data : ∀ f ∈ fieldsOf model, IsJson (value f)
  extraData : IsJson (.map extra)
  present : ∀ e ∈ extra, e.2.isNull = false
  free : ∀ f ∈ fieldsOf model, f.wire ∉ extra.names ∧ f.name ∉ extra.names

theorem mem_sentFields {value : FieldRule → Value} {fields : List FieldRule} {e : String × Value} :
    e ∈ sentFields value fields ↔ ∃ f ∈ fields, (value f).isNull = false ∧ (f.wire, value f) = e := by
  simp only [sentFields, List.mem_map, List.mem_filter, Bool.not_eq_true', and_assoc]

theorem names_sentFields_sublist (value : FieldRule → Value) (fields : List FieldRule) :
    (sentFields value fields).names.Sublist (fields.map (·.wire)) := by
  rw [sentFields, Entries.names, List.map_map]
  exact List.filter_sublist.map _

theorem dumpFields_asSent {model : Model} {given : List String} {value : FieldRule → Value}
    {fields : List FieldRule} (h : ∀ f ∈ fields, f ∈ fieldsOf model)
    (hdata : ∀ f ∈ fields, IsJson (value f)) :
    dumpFields asSent model given (membersOf (fun f => some (value f)) fields) =
      sentFields value fields := by
  induction fields with
  | nil => rfl
  | cons f fields ih =>
      obtain ⟨hf, hfields⟩ := List.forall_mem_cons.1 h
      obtain ⟨hfirst, hrest⟩ := List.forall_mem_cons.1 hdata
      have hname : asSent.nameOf model f.name = f.wire := wireOf_of_mem hf
      rw [membersOf_cons, sentFields, List.filter_cons]
      simp only [Option.map_some, Option.toList_some, List.singleton_append, dumpFields, hname,
        ih hfields hrest, dump_of_isJson asSent hfirst]
      cases hnull : (value f).isNull with
      | true => rfl
      | false => rfl

theorem dumpExtra_asSent {extra : Entries Value} (hdata : IsJson (.map extra))
    (hpresent : ∀ e ∈ extra, e.2.isNull = false) : dumpExtra asSent extra = extra := by
  have hall : extra.filter (fun e => !e.2.isNull) = extra :=
    List.filter_eq_self.2 fun e he => by rw [hpresent e he, Bool.not_false]
  rw [dumpExtra_eq, hall]
  cases hdata with
  | map _ hentries =>
    exact (List.map_congr_left fun e he => by rw [dump_of_isJson asSent (hentries e he)]; rfl).trans
      (List.map_id extra)

namespace Restorable

variable {model : Model} {value : FieldRule → Value} {extra : Entries Value}

theorem nodup_names (h : Restorable model value extra) : (sentData model value extra).names.Nodup := by
  have hwires := nodup_wires_of_apart (apart_fieldsOf model)
  rw [sentData, Entries.names, List.map_append]
  refine List.Nodup.append (hwires.sublist (names_sentFields_sublist value _)) ?_ ?_
  · cases h.extraData with
    | map hnames _ => exact hnames
  · intro name hname hextra
    obtain ⟨f, hf, rfl⟩ := List.mem_map.1 ((names_sentFields_sublist value _).subset hname)
    exact (h.free f hf).1 hextra

/-- **What is sent of a record**, whatever counts as given. -/
theorem dump_eq (h : Restorable model value extra) (given : List String) :
    dump asSent (.record model (membersOf (fun f => some (value f)) (fieldsOf model)) extra given) =
      .map (sentData model value extra) := by
  rw [dump, dumpFields_asSent (fun _ hf => hf) h.data, dumpExtra_asSent h.extraData h.present]
  refine congrArg Value.map (Entries.merge_eq_append ?_ ?_)
  · intro name hname hfield
    obtain ⟨f, hf, rfl⟩ := List.mem_map.1 ((names_sentFields_sublist value _).subset hfield)
    exact (h.free f hf).1 hname
  · cases h.extraData with
    | map hnames _ => exact hnames

theorem isJson (h : Restorable model value extra) : IsJson (.map (sentData model value extra)) := by
  refine .map h.nodup_names fun e he => ?_
  rcases List.mem_append.1 he with hfield | hextra
  · obtain ⟨f, hf, -, rfl⟩ := mem_sentFields.1 hfield
    exact h.data f hf
  · cases h.extraData with
    | map _ hentries => exact hentries e hextra

/-- Under a name of a field stands the value of that field alone. -/
theorem eq_of_mem (h : Restorable model value extra) {f : FieldRule} (hf : f ∈ fieldsOf model)
    {name : String} (hname : name = f.wire ∨ name = f.name) {v : Value}
    (hmem : (name, v) ∈ sentData model value extra) :
    name = f.wire ∧ v = value f ∧ (value f).isNull = false := by
  rcases List.mem_append.1 hmem with hfield | hextra
  · obtain ⟨g, hg, hnull, heq⟩ := mem_sentFields.1 hfield
    obtain ⟨rfl, rfl⟩ := Prod.mk.inj heq
    -- fields that share no name are told apart by any of their names
    have hsame : g = f := by
      by_contra hne
      have hsymm : Std.Symm FieldOf.Apart :=
        ⟨fun _ _ hapart => ⟨hapart.1.symm, hapart.2.2.1.symm, hapart.2.1.symm, hapart.2.2.2.symm⟩⟩
      have hapart := (apart_fieldsOf model).forall hg hf hne
      exact hname.elim hapart.2.2.2 hapart.2.2.1
    rw [← hsame]
    exact ⟨rfl, rfl, hnull⟩
  · have hin : name ∈ extra.names := List.mem_map_of_mem hextra
    rcases hname with rfl | rfl
    · exact absurd hin (h.free f hf).1
    · exact absurd hin (h.free f hf).2

theorem get?_wire (h : Restorable model value extra) {f : FieldRule} (hf : f ∈ fieldsOf model) :
    (sentData model value extra).get? f.wire = if (value f).isNull then none else some (value f) := by
  cases hget : (sentData model value extra).get? f.wire with
  | some v =>
    obtain ⟨-, rfl, hnull⟩ := h.eq_of_mem hf (Or.inl rfl) (Entries.mem_of_get? hget)
    rw [hnull]
    rfl
  | none =>
    cases hnull : (value f).isNull with
    | true => rfl
    | false =>
      have hmem : (f.wire, value f) ∈ sentData model value extra :=
        List.mem_append_left _ (mem_sentFields.2 ⟨f, hf, hnull, rfl⟩)
      rw [Entries.get?_of_mem h.nodup_names hmem] at hget
      exact nomatch hget

/-- What is sent gives each field its value again, if it is not null. -/
theorem supplied?_eq (h : Restorable model value extra) {f : FieldRule} (hf : f ∈ fieldsOf model) :
    f.supplied? (sentData model value extra) =
      if (value f).isNull then none else some (value f) := by
  rw [FieldOf.supplied?, h.get?_wire hf]
  cases hnull : (value f).isNull with
  | false => rfl
  | true =>
    show (sentData model value extra).get? f.name = none
    cases hget : (sentData model value extra).get? f.name with
    | none => rfl
    | some v =>
      obtain ⟨-, -, hnot⟩ := h.eq_of_mem hf (Or.inr rfl) (Entries.mem_of_get? hget)
      rw [hnull] at hnot
      exact nomatch hnot

/-- No field takes what stands beside the fields. -/
theorem leftover_eq (h : Restorable model value extra) :
    leftover (fieldsOf model) (sentData model value extra) = extra := by
  let taken (name : String) : Bool :=
    (fieldsOf model).any (·.takes (sentData model value extra) name)
  have hfields : (sentFields value (fieldsOf model)).filter (fun e => !taken e.1) = [] := by
    refine List.filter_eq_nil_iff.2 fun e he => ?_
    obtain ⟨f, hf, -, rfl⟩ := mem_sentFields.1 he
    have htaken : taken f.wire = true := List.any_eq_true.2 ⟨f, hf, by simp [FieldOf.takes]⟩
    simp [htaken]
  have hextra : extra.filter (fun e => !taken e.1) = extra := by
    refine List.filter_eq_self.2 fun e he => ?_
    have hin : e.1 ∈ extra.names := List.mem_map_of_mem he
    rw [Bool.not_eq_true', List.any_eq_false]
    intro f hf htakes
    obtain ⟨hwire, hname⟩ := h.free f hf
    simp only [FieldOf.takes, Bool.or_eq_true, Bool.and_eq_true, decide_eq_true_eq] at htakes
    rcases htakes with heq | ⟨heq, -⟩
    · exact hwire (heq ▸ hin)
    · exact hname (heq ▸ hin)
  show (sentData model value extra).filter (fun e => !taken e.1) = extra
  rw [sentData, List.filter_append, hfields, hextra, List.nil_append]

/-- **A record is made again** of what is sent of it, if all its fields are null by default. -/
theorem check_sentData (h : Restorable model value extra) (hkept : extrasOf model = .kept)
    (hnullable : ∀ f ∈ fieldsOf model, f.Nullable) :
    ∃ given, check model (.map (sentData model value extra)) =
      .ok (.record model (membersOf (fun f => some (value f)) (fieldsOf model)) extra given) := by
  have hchecked : ∀ f ∈ fieldsOf model,
      f.checked? (sentData model value extra) = some (value f) := by
    intro f hf
    rw [FieldOf.checked?, h.supplied?_eq hf]
    cases hnull : (value f).isNull with
    | true =>
      -- it was left out, and is null again by default
      exact (hnullable f hf).default.trans (congrArg some (Value.eq_null_of_isNull hnull).symm)
    | false =>
      show (f.shape.check (value f)).toOption = some (value f)
      rw [h.again f hf]
      rfl
  have hmembers : membersOf (·.checked? (sentData model value extra)) (fieldsOf model) =
      membersOf (fun f => some (value f)) (fieldsOf model) :=
    List.filterMap_congr fun f hf => congrArg (Option.map (f.name, ·)) (hchecked f hf)
  have hbeside : extraOf model (sentData model value extra) = extra :=
    (if_pos hkept).trans h.leftover_eq
  refine ⟨_, check_map_eq_ok_iff.2 ⟨fun f hf => FieldOf.fits_iff.2 ⟨_, hchecked f hf⟩, ?_,
    rule?_of_kept hkept _, by rw [hmembers, hbeside]⟩⟩
  intro hforbidden
  rw [hkept] at hforbidden
  exact absurd hforbidden (by decide)

/-- A record that was made of data can be made again, if what stands beside its fields is data without
    null and without the name of a field. -/
theorem exists_of_check (hnullable : ∀ f ∈ fieldsOf model, f.Nullable) {data fields : Entries Value}
    {given : List String} (h : check model (.map data) = .ok (.record model fields extra given))
    (hnames : ∀ e ∈ fields, HasDistinctNames e.2) (hextra : IsJson (.map extra))
    (hpresent : ∀ e ∈ extra, e.2.isNull = false)
    (hfree : ∀ f ∈ fieldsOf model, f.name = f.wire ∨ f.name ∉ extra.names) :
    ∃ value, fields = membersOf (fun f => some (value f)) (fieldsOf model) ∧
      Restorable model value extra := by
  obtain ⟨hfits, -, -, hrecord⟩ := check_map_eq_ok_iff.1 h
  obtain ⟨-, hfields, hbeside, -⟩ := Value.record.inj hrecord
  let value (f : FieldRule) : Value := (f.checked? data).getD .null
  have hvalue : ∀ f ∈ fieldsOf model, f.checked? data = some (value f) := by
    intro f hf
    obtain ⟨w, hw⟩ := FieldOf.fits_iff.1 (hfits f hf)
    simp only [value, hw, Option.getD_some]
  have hmembers : fields = membersOf (fun f => some (value f)) (fieldsOf model) :=
    hfields.trans (List.filterMap_congr fun f hf => congrArg (Option.map (f.name, ·)) (hvalue f hf))
  have hmade : ∀ f ∈ fieldsOf model, f.shape.check (value f) = .ok (value f) ∧ IsJson (value f) := by
    intro f hf
    have hdistinct : HasDistinctNames (value f) := by
      refine hnames (f.name, value f) ?_
      rw [hmembers]
      exact List.mem_filterMap.2 ⟨f, hf, rfl⟩
    -- a field is what its shape has made of a value, or null by default
    have hchecked := hvalue f hf
    unfold FieldOf.checked? at hchecked
    split at hchecked
    · next v _ =>
      cases hcheck : f.shape.check v with
      | error issues =>
        rw [hcheck] at hchecked
        exact nomatch hchecked
      | ok w =>
        rw [hcheck] at hchecked
        obtain rfl : w = value f := Option.some.inj hchecked
        exact ⟨(hnullable f hf).settles.again v _ hcheck,
          (hnullable f hf).settles.data v _ hcheck hdistinct⟩
    · rw [(hnullable f hf).default] at hchecked
      rw [← Option.some.inj hchecked]
      exact ⟨(hnullable f hf).null, .null⟩
  refine ⟨value, hmembers, fun f hf => (hmade f hf).1, fun f hf => (hmade f hf).2, hextra, hpresent,
    fun f hf => ?_⟩
  have hwire : f.wire ∉ extra.names := by
    rw [hbeside]
    exact wire_notMem_extraOf hf
  rcases hfree f hf with hsame | hother
  · exact ⟨hwire, hsame ▸ hwire⟩
  · exact ⟨hwire, hother⟩

end Restorable

end Record

end SearchClient
