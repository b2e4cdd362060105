import Mathlib
import SearchClient.Proofs.Entries
import SearchClient.Proofs.Except
import SearchClient.Proofs.Verdicts
import SearchClient.Schema.Record

set_option autoImplicit false

/-! # What records take from data

A field takes the value under its name in data, or else the one under its own, and what no field
takes is left over (`leftover`). Checked or not, a record holds all of it: `check_map_eq_ok_iff` and
`keep_eq` say what its fields, its undeclared members and its given names are. -/

namespace SearchClient.Schema

/-! ## What fields take -/

/-- Fields that share no name. -/
def FieldOf.Apart (f g : FieldRule) : Prop :=
  f.name ≠ g.name ∧ f.name ≠ g.wire ∧ f.wire ≠ g.name ∧ f.wire ≠ g.wire

instance : DecidableRel FieldOf.Apart := fun f g =>
  inferInstanceAs (Decidable (f.name ≠ g.name ∧ f.name ≠ g.wire ∧ f.wire ≠ g.name ∧ f.wire ≠ g.wire))

/-- No two fields of a model share a name. -/
theorem apart_fieldsOf (model : Model) : (fieldsOf model).Pairwise FieldOf.Apart := by
  cases model <;> decide

theorem nodup_names_of_apart {fields : List FieldRule} (h : fields.Pairwise FieldOf.Apart) :
    (fields.map (·.name)).Nodup :=
  List.pairwise_map.2 (h.imp fun hapart => hapart.1)

theorem nodup_wires_of_apart {fields : List FieldRule} (h : fields.Pairwise FieldOf.Apart) :
    (fields.map (·.wire)).Nodup :=
  List.pairwise_map.2 (h.imp fun hapart => hapart.2.2.2)

/-- The value that data give a field. -/
def FieldOf.supplied? (f : FieldRule) (data : Entries Value) : Option Value :=
  (data.get? f.wire).or (data.get? f.name)

/-- Whether a field takes its value from under a name in the data. -/
def FieldOf.takes (f : FieldRule) (data : Entries Value) (name : String) : Bool :=
  name = f.wire || (name = f.name && !data.has f.wire)

/-- The entries that no field takes. -/
def leftover (fields : List FieldRule) (data : Entries Value) : Entries Value :=
  data.filter fun e => !fields.any (·.takes data e.1)

/-- The fields that data give a value. -/
def suppliedIn (data : Entries Value) (fields : List FieldRule) : List FieldRule :=
  fields.filter fun f => (f.supplied? data).isSome

theorem supplied?_eq_bind (f : FieldRule) (data : Entries Value) :
    (suppliedAs f.wire f.name data).bind data.get? = f.supplied? data := by
  unfold suppliedAs FieldOf.supplied? Entries.has
  cases hwire : data.get? f.wire with
  | some v => simp [hwire]
  | none => cases hname : data.get? f.name <;> simp [hname]

theorem eq_of_suppliedAs {wire name key : String} {data : Entries Value}
    (h : suppliedAs wire name data = some key) : key = wire ∨ key = name := by
  unfold suppliedAs at h
  split_ifs at h
  · exact Or.inl (Option.some.inj h).symm
  · exact Or.inr (Option.some.inj h).symm

theorem get?_of_suppliedAs {wire name key : String} {data : Entries Value}
    (h : suppliedAs wire name data = some key) : ∃ v, data.get? key = some v := by
  unfold suppliedAs at h
  split_ifs at h with hwire hname
  · rw [← Option.some.inj h]
    exact Option.isSome_iff_exists.1 hwire
  · rw [← Option.some.inj h]
    exact Option.isSome_iff_exists.1 hname

theorem supplied?_of_suppliedAs_none {f : FieldRule} {data : Entries Value}
    (h : suppliedAs f.wire f.name data = none) : f.supplied? data = none := by
  rw [← supplied?_eq_bind, h, Option.bind_none]

/-- A field is supplied with the value under the name that it takes. -/
theorem supplied?_of_suppliedAs {f : FieldRule} {data : Entries Value} {key : String}
    (h : suppliedAs f.wire f.name data = some key) :
    ∃ v, data.get? key = some v ∧ f.supplied? data = some v := by
  obtain ⟨v, hv⟩ := get?_of_suppliedAs h
  exact ⟨v, hv, by rw [← supplied?_eq_bind, h, Option.bind_some, hv]⟩

theorem suppliedIn_cons_of_neg {f : FieldRule} {fields : List FieldRule} {data : Entries Value}
    (h : f.supplied? data = none) : suppliedIn data (f :: fields) = suppliedIn data fields :=
  List.filter_cons_of_neg (by simp [h])

theorem suppliedIn_cons_of_pos {f : FieldRule} {fields : List FieldRule} {data : Entries Value}
    {v : Value} (h : f.supplied? data = some v) :
    suppliedIn data (f :: fields) = f :: suppliedIn data fields :=
  List.filter_cons_of_pos (by simp [h])

theorem suppliedAs_eq_some_iff {f : FieldRule} {data : Entries Value} {name : String}
    (h : data.has name = true) : suppliedAs f.wire f.name data = some name ↔ f.takes data name = true := by
  unfold suppliedAs FieldOf.takes
  cases hwire : data.has f.wire with
  | true => simp [eq_comm]
  | false =>
    have hne : name ≠ f.wire := by
      rintro rfl
      rw [h] at hwire
      exact nomatch hwire
    cases hname : data.has f.name with
    | true => simp [hne, eq_comm]
    | false =>
      have hother : name ≠ f.name := by
        rintro rfl
        rw [h] at hname
        exact nomatch hname
      simp [hne, hother]

theorem undeclared_eq (fields : List FieldRule) (data : Entries Value) :
    undeclared fields data = leftover fields data := by
  refine List.filter_congr fun e he => ?_
  have hhas : data.has e.1 = true := (Entries.mem_names_iff data e.1).1 (List.mem_map_of_mem he)
  have htakes : ∀ f : FieldRule,
      decide (suppliedAs f.wire f.name data = some e.1) = f.takes data e.1 := by
    intro f
    rw [Bool.eq_iff_iff, decide_eq_true_iff]
    exact suppliedAs_eq_some_iff hhas
  simp only [htakes]

/-! ## Members of fields -/

/-- The members of a record whose fields have the given values. -/
def membersOf (value : FieldRule → Option Value) (fields : List FieldRule) : Entries Value :=
  fields.filterMap fun f => (value f).map (f.name, ·)

theorem membersOf_cons (value : FieldRule → Option Value) (f : FieldRule) (fields : List FieldRule) :
    membersOf value (f :: fields) =
      ((value f).map (f.name, ·)).toList ++ membersOf value fields := by
  unfold membersOf
  cases h : value f <;> simp [h]

theorem get?_membersOf_of_notMem {value : FieldRule → Option Value} {fields : List FieldRule}
    {name : String} (h : name ∉ fields.map (·.name)) : (membersOf value fields).get? name = none := by
  induction fields with
  | nil => rfl
  | cons f fields ih =>
      rw [List.map_cons, List.mem_cons, not_or] at h
      rw [membersOf_cons]
      cases value f with
      | none => exact ih h.2
      | some v =>
        simp only [Option.map_some, Option.toList_some, List.singleton_append, Entries.get?,
          if_neg (Ne.symm h.1)]
        exact ih h.2

theorem get?_membersOf {value : FieldRule → Option Value} {fields : List FieldRule} {f : FieldRule}
    (hnodup : (fields.map (·.name)).Nodup) (hf : f ∈ fields) :
    (membersOf value fields).get? f.name = value f := by
  induction fields with
  | nil => exact absurd hf List.not_mem_nil
  | cons g fields ih =>
      rw [List.map_cons, List.nodup_cons] at hnodup
      rw [membersOf_cons]
      rcases List.mem_cons.1 hf with rfl | hrest
      · cases value f with
        | none => exact get?_membersOf_of_notMem hnodup.1
        | some v => simp [Entries.get?]
      · have hne : g.name ≠ f.name := by
          intro heq
          exact hnodup.1 (heq ▸ List.mem_map_of_mem hrest)
        cases value g with
        | none => exact ih hnodup.2 hrest
        | some v =>
          simp only [Option.map_some, Option.toList_some, List.singleton_append, Entries.get?,
            if_neg hne]
          exact ih hnodup.2 hrest

/-! ## Checked records -/

theorem exists_text_of_check {v w : Value} (h : Shape.text.check v = .ok w) : ∃ s, w = .text s := by
  obtain ⟨s, -, rfl⟩ := map_eq_ok_iff.1 h
  exact ⟨s, rfl⟩

theorem exists_float_of_checkFloat {v w : Value} (h : checkFloat v = .ok w) : ∃ x, w = .float x := by
  unfold checkFloat at h
  split at h
  · exact ⟨_, (Except.ok.inj h).symm⟩
  · exact ⟨_, (Except.ok.inj h).symm⟩
  · simp only [] at h
    split at h
    · exact ⟨_, (Except.ok.inj h).symm⟩
    · exact nomatch h
  · obtain ⟨s, -, h⟩ := bind_eq_ok_iff.1 h
    split at h
    · exact ⟨_, (Except.ok.inj h).symm⟩
    · exact nomatch h

/-- What a check makes of a field: the value that its shape makes of the one supplied, or its
    default. -/
def FieldOf.checked? (f : FieldRule) (data : Entries Value) : Option Value :=
  match f.supplied? data with
  | some v => (f.shape.check v).toOption
  | none => f.default

/-- What a field is without a check: the value supplied, or its default. -/
def FieldOf.kept? (f : FieldRule) (data : Entries Value) : Option Value :=
  (f.supplied? data).or f.default

/-- Whether data fit a field: they give it a value that its shape takes, or it has a default. -/
def FieldOf.Fits (f : FieldRule) (data : Entries Value) : Prop :=
  match f.supplied? data with
  | some v => ∃ w, f.shape.check v = .ok w
  | none => ∃ w, f.default = some w

theorem FieldOf.fits_iff {f : FieldRule} {data : Entries Value} :
    f.Fits data ↔ ∃ w, f.checked? data = some w := by
  unfold Fits checked?
  cases f.supplied? data with
  | none => rfl
  | some v => cases hcheck : f.shape.check v <;> simp [hcheck, Except.toOption]

/-- The fields are all made, and no issue is told, exactly if the data fit each of them. -/
theorem checkFields_of_fits {fields : List FieldRule} {data : Entries Value}
    (h : ∀ f ∈ fields, f.Fits data) :
    checkFields fields data = ⟨[], membersOf (·.checked? data) fields,
      (suppliedIn data fields).map (·.name)⟩ := by
  induction fields with
  | nil => rfl
  | cons f fields ih =>
      obtain ⟨w, hw⟩ := FieldOf.fits_iff.1 (h f List.mem_cons_self)
      have hrest := ih fun g hg => h g (List.mem_cons_of_mem f hg)
      rw [membersOf_cons, hw, checkFields, supplied?_eq_bind f data, hrest]
      simp only [suppliedIn, List.filter_cons]
      unfold FieldOf.checked? at hw
      cases hsupplied : f.supplied? data with
      | none =>
        rw [hsupplied] at hw
        simp only [] at hw ⊢
        rw [hw]
        rfl
      | some v =>
        rw [hsupplied] at hw
        simp only [] at hw ⊢
        cases hcheck : f.shape.check v with
        | error issues =>
          rw [hcheck] at hw
          exact nomatch hw
        | ok u =>
          rw [hcheck] at hw
          rw [← Option.some.inj hw]
          rfl

theorem fits_of_issues_eq_nil {fields : List FieldRule} {data : Entries Value}
    (h : (checkFields fields data).issues = []) : ∀ f ∈ fields, f.Fits data := by
  induction fields with
  | nil => simp
  | cons f fields ih =>
      rw [checkFields, supplied?_eq_bind f data] at h
      unfold FieldOf.Fits
      cases hsupplied : f.supplied? data with
      | none =>
        rw [hsupplied] at h
        cases hdefault : f.default with
        | none =>
          simp only [hdefault, Filled.omit] at h
          exact nomatch h
        | some w =>
          simp only [hdefault, Filled.omit] at h
          refine List.forall_mem_cons.2 ⟨?_, ih h⟩
          rw [hsupplied]
          exact ⟨w, hdefault⟩
      | some v =>
        rw [hsupplied] at h
        cases hcheck : f.shape.check v with
        | error issues =>
          simp only [hcheck, Filled.give, List.append_eq_nil_iff, List.map_eq_nil_iff] at h
          exact absurd h.1 (ne_nil_of_tells (f.shape.tells_check v) hcheck)
        | ok w =>
          simp only [hcheck, Filled.give] at h
          refine List.forall_mem_cons.2 ⟨?_, ih h⟩
          rw [hsupplied]
          exact ⟨w, hcheck⟩

/-! ## The end of a check -/

theorem Filled.finish_eq_ok_iff {filled : Filled} {model : Model} {extras : Extras} {data r : Value}
    {rest : Entries Value} : filled.finish model extras data rest = .ok r ↔
      filled.issues = [] ∧ (extras = .forbidden → rest = []) ∧
        Model.rule? model filled.fields = none ∧
        r = .record model filled.fields (if extras = .kept then rest else [])
          (filled.given ++ (Entries.names (if extras = .kept then rest else [])).filter
            fun name => !filled.given.contains name) := by
  simp only [finish]
  split
  · next hnil =>
    obtain ⟨hissues, hexcess⟩ := List.append_eq_nil_iff.1 hnil
    have hrest : extras = .forbidden → rest = [] := by
      rintro rfl
      exact List.map_eq_nil_iff.1 hexcess
    split
    · next rule hrule => simp [refuse, hrule]
    · next hrule =>
      constructor
      · exact fun h => ⟨hissues, hrest, hrule, (Except.ok.inj h).symm⟩
      · rintro ⟨-, -, -, rfl⟩
        rfl
  · next hne =>
    refine iff_of_false (by simp) fun h => hne (List.append_eq_nil_iff.2 ⟨h.1, ?_⟩)
    cases extras with
    | forbidden => exact List.map_eq_nil_iff.2 (h.2.1 rfl)
    | _ => rfl

/-- Where nothing may be left over, all that is left over is told. -/
theorem Filled.exists_issue_finish (filled : Filled) (model : Model) (data : Value)
    {rest : Entries Value} {e : String × Value} (he : e ∈ rest) :
    ∃ issues, filled.finish model .forbidden data rest = .error issues ∧
      ⟨[.name e.1], .undeclared, e.2⟩ ∈ issues := by
  simp only [finish]
  split
  · next hnil =>
    rw [List.map_eq_nil_iff.1 (List.append_eq_nil_iff.1 hnil).2] at he
    exact absurd he List.not_mem_nil
  · exact ⟨_, rfl, List.mem_append_right _ (List.mem_map.2 ⟨e, he, rfl⟩)⟩

end SearchClient.Schema

namespace SearchClient.Record

open Schema

/-- Whether data fit a model: they fit each of its fields. -/
def Fits (model : Model) (data : Entries Value) : Prop :=
  ∀ f ∈ fieldsOf model, f.Fits data

/-- The members of a record beside its fields: what no field takes, where the model keeps it. -/
def extraOf (model : Model) (data : Entries Value) : Entries Value :=
  if extrasOf model = .kept then leftover (fieldsOf model) data else []

/-- The names of the fields that data give a value. -/
def givenIn (model : Model) (data : Entries Value) : List String :=
  (suppliedIn data (fieldsOf model)).map (·.name)

/-- **What a check gives.** Data are a record of a model exactly if they fit it, hold nothing that it
    forbids, and keep its rule. -/
theorem check_map_eq_ok_iff {model : Model} {data : Entries Value} {r : Value} :
    check model (.map data) = .ok r ↔
      Fits model data ∧ (extrasOf model = .forbidden → leftover (fieldsOf model) data = []) ∧
        Model.rule? model (membersOf (·.checked? data) (fieldsOf model)) = none ∧
        r = .record model (membersOf (·.checked? data) (fieldsOf model)) (extraOf model data)
          (givenIn model data ++ (extraOf model data).names.filter
            fun name => !(givenIn model data).contains name) := by
  rw [check, mapError_eq_ok_iff, Shape.check, undeclared_eq, Filled.finish_eq_ok_iff]
  constructor
  · rintro ⟨hissues, h⟩
    have hfits := fits_of_issues_eq_nil hissues
    rw [checkFields_of_fits hfits] at h
    exact ⟨hfits, h⟩
  · rintro ⟨hfits, h⟩
    rw [checkFields_of_fits hfits]
    exact ⟨rfl, h⟩

/-- The member of an accepted record that stands for a field is what the check made of it. -/
theorem member?_eq_checked? {model : Model} {es : Entries Value} {r : Value}
    (h : check model (.map es) = .ok r) {f : FieldRule} (hf : f ∈ fieldsOf model) :
    r.member? f.name = f.checked? es := by
  obtain ⟨hfits, -, -, rfl⟩ := check_map_eq_ok_iff.1 h
  obtain ⟨w, hw⟩ := FieldOf.fits_iff.1 (hfits f hf)
  rw [Value.member?, get?_membersOf (nodup_names_of_apart (apart_fieldsOf model)) hf, hw,
    Option.some_or]

/-- **What a check tells of other names.** Where nothing else may be given, each name of no field is
    told, with what stands under it. -/
theorem exists_issue_of_undeclared {model : Model} (hforbidden : extrasOf model = .forbidden)
    {data : Entries Value} {name : String} {v : Value} (hv : data.get? name = some v)
    (hfree : ∀ f ∈ fieldsOf model, f.wire ≠ name ∧ f.name ≠ name) :
    ∃ issues, check model (.map data) = .error ⟨model, issues⟩ ∧
      ⟨[.name name], .undeclared, v⟩ ∈ issues := by
  have hleft : (name, v) ∈ leftover (fieldsOf model) data := by
    refine List.mem_filter.2 ⟨Entries.mem_of_get? hv, ?_⟩
    rw [Bool.not_eq_true', List.any_eq_false]
    intro f hf
    simp [FieldOf.takes, Ne.symm (hfree f hf).1, Ne.symm (hfree f hf).2]
  obtain ⟨issues, hissues, hmem⟩ :=
    Filled.exists_issue_finish (checkFields (fieldsOf model) data) model (.map data) hleft
  refine ⟨issues, ?_, hmem⟩
  rw [check, Shape.check, hforbidden, undeclared_eq, hissues]
  rfl

/-- Where nothing else may be given, data with a name of no field are refused. -/
theorem not_ok_of_undeclared {model : Model} (hforbidden : extrasOf model = .forbidden)
    {data : Entries Value} {name : String} (hname : data.has name = true)
    (hfree : ∀ f ∈ fieldsOf model, f.wire ≠ name ∧ f.name ≠ name) (r : Value) :
    check model (.map data) ≠ .ok r := by
  obtain ⟨v, hv⟩ := Option.isSome_iff_exists.1 hname
  obtain ⟨issues, hissues, -⟩ := exists_issue_of_undeclared hforbidden hv hfree
  rw [hissues]
  exact nofun

/-! ## Records without a check -/

theorem supplied?_erase {f g : FieldRule} (h : f.Apart g) {data : Entries Value} {name : String}
    (hname : name = f.wire ∨ name = f.name) : g.supplied? (data.erase name) = g.supplied? data := by
  obtain ⟨hnn, hnw, hwn, hww⟩ := h
  unfold FieldOf.supplied?
  rcases hname with rfl | rfl
  · rw [Entries.get?_erase_of_ne hww, Entries.get?_erase_of_ne hwn]
  · rw [Entries.get?_erase_of_ne hnw, Entries.get?_erase_of_ne hnn]

theorem takes_erase {f g : FieldRule} (h : f.Apart g) {data : Entries Value} {name : String}
    (hname : name = f.wire ∨ name = f.name) (other : String) :
    g.takes (data.erase name) other = g.takes data other := by
  obtain ⟨hnn, hnw, hwn, hww⟩ := h
  unfold FieldOf.takes
  rcases hname with rfl | rfl
  · rw [Entries.has_erase_of_ne hww]
  · rw [Entries.has_erase_of_ne hnw]

/-- What a field has taken is for no other field. -/
theorem suppliedIn_erase {f : FieldRule} {fields : List FieldRule} (h : ∀ g ∈ fields, f.Apart g)
    {data : Entries Value} {name : String} (hname : suppliedAs f.wire f.name data = some name) :
    suppliedIn (data.erase name) fields = suppliedIn data fields := by
  refine List.filter_congr fun g hg => ?_
  rw [supplied?_erase (h g hg) (eq_of_suppliedAs hname)]

/-- What the other fields leave over of the data without what a field has taken. -/
theorem leftover_erase {f : FieldRule} {fields : List FieldRule} (h : ∀ g ∈ fields, f.Apart g)
    {data : Entries Value} {name : String} (hname : suppliedAs f.wire f.name data = some name) :
    leftover fields (data.erase name) = leftover (f :: fields) data := by
  have hkey := eq_of_suppliedAs hname
  have hany : ∀ other, fields.any (·.takes (data.erase name) other) =
      fields.any (·.takes data other) := by
    intro other
    rw [Bool.eq_iff_iff, List.any_eq_true, List.any_eq_true]
    exact exists_congr fun g => and_congr_right fun hg => by rw [takes_erase (h g hg) hkey]
  unfold leftover
  simp only [hany]
  rw [Entries.erase, List.filter_filter]
  refine List.filter_congr fun e he => ?_
  have hhas : data.has e.1 = true := (Entries.mem_names_iff data e.1).1 (List.mem_map_of_mem he)
  have htakes : f.takes data e.1 = decide (e.1 = name) := by
    rw [Bool.eq_iff_iff, decide_eq_true_iff, ← suppliedAs_eq_some_iff hhas, hname, Option.some.injEq,
      eq_comm]
  rw [List.any_cons, htakes, Bool.not_or, Bool.and_comm]
  simp

theorem leftover_cons_of_none {f : FieldRule} {fields : List FieldRule} {data : Entries Value}
    (h : suppliedAs f.wire f.name data = none) : leftover (f :: fields) data = leftover fields data := by
  refine List.filter_congr fun e he => ?_
  have hhas : data.has e.1 = true := (Entries.mem_names_iff data e.1).1 (List.mem_map_of_mem he)
  have htakes : f.takes data e.1 = false := by
    rw [Bool.eq_false_iff, Ne, ← suppliedAs_eq_some_iff hhas, h]
    simp
  rw [List.any_cons, htakes, Bool.false_or]

/-- What is taken out of the data field by field is what each field takes of all the data. -/
theorem keepFields_eq {fields : List FieldRule} (h : fields.Pairwise FieldOf.Apart)
    (data : Entries Value) :
    keepFields fields data = (membersOf (·.kept? data) fields,
      (suppliedIn data fields).map (·.name), leftover fields data) := by
  induction fields generalizing data with
  | nil => simp [keepFields, membersOf, suppliedIn, leftover]
  | cons f fields ih =>
      rw [List.pairwise_cons] at h
      obtain ⟨hf, hfields⟩ := h
      rw [keepFields, membersOf_cons]
      cases hname : suppliedAs f.wire f.name data with
      | none =>
        have hsupplied := supplied?_of_suppliedAs_none hname
        rw [leftover_cons_of_none hname, suppliedIn_cons_of_neg hsupplied]
        simp only [Option.bind_none, ih hfields, FieldOf.kept?, hsupplied]
        cases f.default <;> rfl
      | some name =>
        obtain ⟨v, hv, hsupplied⟩ := supplied?_of_suppliedAs hname
        have hmembers : membersOf (·.kept? (data.erase name)) fields =
            membersOf (·.kept? data) fields := by
          refine List.filterMap_congr fun g hg => ?_
          simp only [FieldOf.kept?, supplied?_erase (hf g hg) (eq_of_suppliedAs hname)]
        have hkept : f.kept? data = some v := by rw [FieldOf.kept?, hsupplied, Option.some_or]
        simp only [Option.bind_some, hv, Option.map_some, ih hfields, leftover_erase hf hname,
          hmembers, suppliedIn_erase hf hname, suppliedIn_cons_of_pos hsupplied, hkept]
        rfl

/-- **What is kept without a check.** -/
theorem keep_eq (model : Model) (data : Entries Value) :
    keep model data = .record model (membersOf (·.kept? data) (fieldsOf model))
      (extraOf model data) (givenIn model data) := by
  rw [keep, keepFields_eq (apart_fieldsOf model)]
  rfl

end SearchClient.Record
