import Mathlib
import SearchClient.Proofs.Records

set_option autoImplicit false

/-! # What records give back

A record gives back the data of the fields that were given, by their names in data, and all that was
left over (`dump_made`). So the names that it gives back are those of the data it was made from, up
to the names of fields that the data gave under their own (`names_dump_perm`). -/

namespace SearchClient.Record

open Schema

/-! ## Names in data -/

/-- The name in data of a field that the data give under its own name; all other names stay. -/
def renamed (fields : List FieldRule) (data : Entries Value) (name : String) : String :=
  match fields.find? (·.name = name) with
  | some f => if data.has f.wire then name else f.wire
  | none => name

theorem renamed_cons_of_ne {f : FieldRule} {fields : List FieldRule} {data : Entries Value}
    {name : String} (h : f.name ≠ name) : renamed (f :: fields) data name = renamed fields data name := by
  rw [renamed, List.find?_cons_of_neg (by simpa using h)]
  rfl

theorem renamed_cons_self (f : FieldRule) (fields : List FieldRule) (data : Entries Value) :
    renamed (f :: fields) data f.name = if data.has f.wire then f.name else f.wire := by
  rw [renamed, List.find?_cons_of_pos (by simp)]

theorem renamed_of_ne {fields : List FieldRule} {data : Entries Value} {name : String}
    (h : ∀ g ∈ fields, g.name ≠ name) : renamed fields data name = name := by
  have hnone : fields.find? (·.name = name) = none := by
    rw [List.find?_eq_none]
    simpa using h
  rw [renamed, hnone]

theorem renamed_erase {f : FieldRule} {fields : List FieldRule} (h : ∀ g ∈ fields, f.Apart g)
    {data : Entries Value} {key : String} (hkey : key = f.wire ∨ key = f.name) (name : String) :
    renamed fields (data.erase key) name = renamed fields data name := by
  unfold renamed
  cases hfind : fields.find? (·.name = name) with
  | none => rfl
  | some g =>
    obtain ⟨hnn, hnw, hwn, hww⟩ := h g (List.mem_of_find?_eq_some hfind)
    have hhas : (data.erase key).has g.wire = data.has g.wire := by
      rcases hkey with rfl | rfl
      · exact Entries.has_erase_of_ne hww
      · exact Entries.has_erase_of_ne hnw
    simp only [hhas]

/-- The name that a field takes its value from is renamed to its name in data. -/
theorem renamed_of_suppliedAs {f : FieldRule} {fields : List FieldRule} (h : ∀ g ∈ fields, f.Apart g)
    {data : Entries Value} {key : String} (hkey : suppliedAs f.wire f.name data = some key) :
    renamed (f :: fields) data key = f.wire := by
  unfold suppliedAs at hkey
  split_ifs at hkey with hwire hname
  · obtain rfl := Option.some.inj hkey
    by_cases hsame : f.name = f.wire
    · have hself := renamed_cons_self f fields data
      rwa [hsame, ite_self] at hself
    · rw [renamed_cons_of_ne hsame]
      exact renamed_of_ne fun g hg => Ne.symm (h g hg).2.2.1
  · rw [← Option.some.inj hkey, renamed_cons_self, if_neg hwire]

/-- Every other name stands for itself as far as the field is concerned. -/
theorem renamed_cons_of_erased {f : FieldRule} {fields : List FieldRule}
    (h : ∀ g ∈ fields, f.Apart g) {data : Entries Value} {key name : String}
    (hkey : suppliedAs f.wire f.name data = some key) (hne : name ≠ key) :
    renamed (f :: fields) data name = renamed fields data name := by
  by_cases hname : f.name = name
  · -- the field was then given under its name in data
    unfold suppliedAs at hkey
    split_ifs at hkey with hwire hown
    · subst hname
      rw [renamed_cons_self, if_pos hwire]
      exact (renamed_of_ne fun g hg => Ne.symm (h g hg).1).symm
    · exact absurd (hname.symm.trans (Option.some.inj hkey)) hne
  · exact renamed_cons_of_ne hname

theorem perm_cons_erase {data : Entries Value} (hnodup : data.names.Nodup) {key : String} {v : Value}
    (hv : data.get? key = some v) : data.Perm ((key, v) :: data.erase key) := by
  induction data with
  | nil => exact nomatch hv
  | cons e data ih =>
      rw [Entries.names, List.map_cons, List.nodup_cons] at hnodup
      rw [Entries.get?] at hv
      split at hv
      · next hkey =>
        obtain rfl := Option.some.inj hv
        have hrest : Entries.erase (e :: data) key = data := by
          rw [Entries.erase, List.filter_cons_of_neg (by simp [hkey]), List.filter_eq_self]
          intro other hother
          have hne : other.1 ≠ key := by
            rintro rfl
            exact hnodup.1 (hkey ▸ List.mem_map_of_mem hother)
          simpa using hne
        rw [hrest, ← hkey]
      · next hkey =>
        have herase : Entries.erase (e :: data) key = e :: Entries.erase data key :=
          List.filter_cons_of_pos (by simpa using hkey)
        rw [herase]
        exact ((ih hnodup.2 hv).cons e).trans (List.Perm.swap _ _ _)

/-- What data give to fields, by the names of the fields in data. -/
def wired (fields : List FieldRule) (data : Entries Value) : Entries Value :=
  fields.filterMap fun f => (f.supplied? data).map (f.wire, ·)

theorem names_wired (fields : List FieldRule) (data : Entries Value) :
    (wired fields data).names = (suppliedIn data fields).map (·.wire) := by
  induction fields with
  | nil => rfl
  | cons f fields ih =>
      rw [wired, List.filterMap_cons]
      cases hsupplied : f.supplied? data with
      | none => rw [suppliedIn_cons_of_neg hsupplied, ← ih]; rfl
      | some v =>
        rw [suppliedIn_cons_of_pos hsupplied, List.map_cons, ← ih]
        rfl

theorem map_renamed_cons_of_none {f : FieldRule} {fields : List FieldRule} {data : Entries Value}
    (hkey : suppliedAs f.wire f.name data = none) :
    data.map (fun e => (renamed (f :: fields) data e.1, e.2)) =
      data.map fun e => (renamed fields data e.1, e.2) := by
  refine List.map_congr_left fun e he => ?_
  rw [renamed_cons_of_ne]
  intro hname
  have hhas := (Entries.mem_names_iff data e.1).1 (List.mem_map_of_mem he)
  unfold suppliedAs at hkey
  rw [hname, if_pos hhas] at hkey
  split_ifs at hkey

theorem map_renamed_cons_of_some {f : FieldRule} {fields : List FieldRule}
    (h : ∀ g ∈ fields, f.Apart g) {data : Entries Value} {key : String}
    (hkey : suppliedAs f.wire f.name data = some key) :
    (data.erase key).map (fun e => (renamed (f :: fields) data e.1, e.2)) =
      (data.erase key).map fun e => (renamed fields (data.erase key) e.1, e.2) := by
  refine List.map_congr_left fun e he => ?_
  rw [renamed_erase h (eq_of_suppliedAs hkey), renamed_cons_of_erased h hkey]
  intro hname
  have hmem : e.1 ∈ (data.erase key).names := List.mem_map_of_mem he
  rw [hname] at hmem
  exact Entries.notMem_names_erase data key hmem

/-- **Nothing is lost.** What data give to fields, by the names of the fields in data, and what is
    left over are all entries of the data, renamed. -/
theorem perm_renamed {fields : List FieldRule} (h : fields.Pairwise FieldOf.Apart)
    {data : Entries Value} (hnodup : data.names.Nodup) :
    (wired fields data ++ leftover fields data).Perm
      (data.map fun e => (renamed fields data e.1, e.2)) := by
  induction fields generalizing data with
  | nil =>
      have hself : data.map (fun e => (renamed [] data e.1, e.2)) = data := List.map_id _
      have hall : leftover [] data = data := by simp [leftover]
      rw [hself, hall]
      rfl
  | cons f fields ih =>
      rw [List.pairwise_cons] at h
      obtain ⟨hf, hfields⟩ := h
      cases hkey : suppliedAs f.wire f.name data with
      | none =>
        rw [wired, List.filterMap_cons, supplied?_of_suppliedAs_none hkey,
          leftover_cons_of_none hkey, map_renamed_cons_of_none hkey]
        exact ih hfields hnodup
      | some key =>
        obtain ⟨v, hv, hsupplied⟩ := supplied?_of_suppliedAs hkey
        have hsplit := perm_cons_erase hnodup hv
        have hrest : (data.erase key).names.Nodup :=
          hnodup.sublist (List.filter_sublist.map _)
        have hwired : wired fields data = wired fields (data.erase key) :=
          List.filterMap_congr fun g hg => by
            rw [supplied?_erase (hf g hg) (eq_of_suppliedAs hkey)]
        refine List.Perm.trans ?_ (hsplit.map _).symm
        rw [wired, List.filterMap_cons, hsupplied, ← leftover_erase hf hkey, List.map_cons,
          renamed_of_suppliedAs hf hkey, map_renamed_cons_of_some hf hkey]
        have hmore := (ih hfields hrest).cons (f.wire, v)
        rwa [← hwired] at hmore

/-- **No name is lost.** The names in data of the fields that were given, with the names left over,
    are all names of the data, renamed. -/
theorem names_perm_renamed {fields : List FieldRule} (h : fields.Pairwise FieldOf.Apart)
    {data : Entries Value} (hnodup : data.names.Nodup) :
    ((suppliedIn data fields).map (·.wire) ++ (leftover fields data).names).Perm
      (data.names.map (renamed fields data)) := by
  have hperm := (perm_renamed h hnodup).map Prod.fst
  rw [List.map_append, List.map_map] at hperm
  rw [← names_wired, Entries.names, Entries.names, Entries.names, List.map_map]
  exact hperm

/-! ## The data given back -/

theorem find?_name_of_mem {fields : List FieldRule} (h : fields.Pairwise FieldOf.Apart)
    {f : FieldRule} (hf : f ∈ fields) : fields.find? (·.name = f.name) = some f := by
  induction fields with
  | nil => exact absurd hf List.not_mem_nil
  | cons g fields ih =>
      rw [List.pairwise_cons] at h
      rcases List.mem_cons.1 hf with rfl | hrest
      · exact List.find?_cons_of_pos (by simp)
      · rw [List.find?_cons_of_neg (by simpa using (h.1 f hrest).1)]
        exact ih h.2 hrest

theorem wireOf_of_mem {model : Model} {f : FieldRule} (hf : f ∈ fieldsOf model) :
    wireOf model f.name = f.wire := by
  rw [wireOf, find?_name_of_mem (apart_fieldsOf model) hf]

theorem dumpItems_eq_map (o : DumpOptions) (items : List Value) :
    dumpItems o items = items.map (dump o) := by
  induction items with
  | nil => rfl
  | cons v items ih => rw [dumpItems, ih, List.map_cons]

theorem dumpEntries_eq_map (o : DumpOptions) (entries : Entries Value) :
    dumpEntries o entries = entries.map fun e => (e.1, dump o e.2) := by
  induction entries with
  | nil => rfl
  | cons e entries ih => rw [dumpEntries, ih, List.map_cons]

/-- How data are given back by their names in data, as far as they were given. -/
def asGiven : DumpOptions :=
  { byWire := true, omitUnset := true }

/-- The data of fields, by their names in data. -/
def wireMembers (value : FieldRule → Option Value) (fields : List FieldRule) : Entries Value :=
  fields.filterMap fun f => (value f).map fun v => (f.wire, dump asGiven v)

theorem names_wireMembers {value : FieldRule → Option Value} {fields : List FieldRule}
    (h : ∀ f ∈ fields, ∃ v, value f = some v) :
    (wireMembers value fields).names = fields.map (·.wire) := by
  induction fields with
  | nil => rfl
  | cons f fields ih =>
      obtain ⟨v, hv⟩ := h f List.mem_cons_self
      have hrest := ih fun g hg => h g (List.mem_cons_of_mem f hg)
      rw [wireMembers, List.filterMap_cons, hv]
      exact congrArg (f.wire :: ·) hrest

theorem mem_names_wireMembers {value : FieldRule → Option Value} {fields : List FieldRule}
    {name : String} (h : name ∈ (wireMembers value fields).names) : ∃ f ∈ fields, name = f.wire := by
  obtain ⟨e, he, rfl⟩ := List.mem_map.1 h
  obtain ⟨f, hf, hmember⟩ := List.mem_filterMap.1 he
  obtain ⟨v, -, rfl⟩ := Option.map_eq_some_iff.1 hmember
  exact ⟨f, hf, rfl⟩

theorem dumpFields_membersOf {model : Model} {given : List String}
    {value : FieldRule → Option Value} {fields : List FieldRule}
    (h : ∀ f ∈ fields, f ∈ fieldsOf model) :
    dumpFields asGiven model given (membersOf value fields) =
      wireMembers value (fields.filter fun f => given.contains f.name) := by
  induction fields with
  | nil => rfl
  | cons f fields ih =>
      have hrest := ih fun g hg => h g (List.mem_cons_of_mem f hg)
      have hwire : asGiven.nameOf model f.name = f.wire := wireOf_of_mem (h f List.mem_cons_self)
      rw [membersOf_cons, List.filter_cons]
      cases hv : value f with
      | none =>
        simp only [Option.map_none, Option.toList_none, List.nil_append, hrest]
        split
        · rw [wireMembers, wireMembers, List.filterMap_cons, hv]
          rfl
        · rfl
      | some v =>
        simp only [Option.map_some, Option.toList_some, List.singleton_append, dumpFields, hwire, hrest]
        cases hgiven : given.contains f.name with
        | true => simp [asGiven, wireMembers, hv]
        | false => simp [asGiven]

theorem dumpExtra_eq_map {o : DumpOptions} (ho : o.omitNull = false) (extra : Entries Value) :
    dumpExtra o extra = extra.map fun e => (e.1, dump o e.2) := by
  induction extra with
  | nil => rfl
  | cons e extra ih =>
      rw [dumpExtra, ih, ho]
      rfl

theorem extraOf_sublist (model : Model) (data : Entries Value) :
    (extraOf model data).Sublist data := by
  unfold extraOf
  split
  · exact List.filter_sublist
  · exact List.nil_sublist data

theorem wire_notMem_extraOf {model : Model} {data : Entries Value} {f : FieldRule}
    (hf : f ∈ fieldsOf model) : f.wire ∉ (extraOf model data).names := by
  intro hmem
  obtain ⟨e, he, hname⟩ := List.mem_map.1 hmem
  unfold extraOf at he
  split at he
  · have htaken := (List.mem_filter.1 he).2
    rw [Bool.not_eq_true', List.any_eq_false] at htaken
    exact htaken f hf (by simp [FieldOf.takes, hname])
  · exact absurd he List.not_mem_nil

/-- **What a record gives back.** The data of a record with the given fields and what is left over of
    data are, as far as they were given, those of the fields supplied, and all that is left over. -/
theorem dump_made {model : Model} {data : Entries Value} (hnodup : data.names.Nodup)
    {value : FieldRule → Option Value} {given : List String}
    (hgiven : ∀ f ∈ fieldsOf model, f.name ∈ given ↔ (f.supplied? data).isSome = true) :
    dump asGiven (.record model (membersOf value (fieldsOf model)) (extraOf model data) given) =
      .map (wireMembers value (suppliedIn data (fieldsOf model)) ++
        (extraOf model data).map fun e => (e.1, dump asGiven e.2)) := by
  have hfilter : (fieldsOf model).filter (fun f => given.contains f.name) =
      suppliedIn data (fieldsOf model) := by
    refine List.filter_congr fun f hf => ?_
    rw [Bool.eq_iff_iff, List.contains_iff_mem]
    exact hgiven f hf
  rw [dump, dumpFields_membersOf (fun f hf => hf), hfilter, dumpExtra_eq_map rfl]
  have hnames : Entries.names ((extraOf model data).map fun e => (e.1, dump asGiven e.2)) =
      (extraOf model data).names := by
    simp [Entries.names]
  refine congrArg Value.map (Entries.merge_eq_append ?_ ?_)
  · intro name hname hfield
    rw [hnames] at hname
    obtain ⟨f, hf, rfl⟩ := mem_names_wireMembers hfield
    exact wire_notMem_extraOf (List.mem_of_mem_filter hf) hname
  · rw [hnames]
    exact hnodup.sublist ((extraOf_sublist model data).map _)

theorem mem_givenIn_iff {model : Model} {data : Entries Value} {f : FieldRule}
    (hf : f ∈ fieldsOf model) : f.name ∈ givenIn model data ↔ (f.supplied? data).isSome = true := by
  constructor
  · intro hmem
    obtain ⟨g, hg, hname⟩ := List.mem_map.1 hmem
    obtain ⟨hgf, hsupplied⟩ := List.mem_filter.1 hg
    have hfind := find?_name_of_mem (apart_fieldsOf model) hf
    rw [← hname, find?_name_of_mem (apart_fieldsOf model) hgf] at hfind
    rwa [← Option.some.inj hfind]
  · exact fun hsupplied => List.mem_map_of_mem (List.mem_filter.2 ⟨hf, hsupplied⟩)

/-- The names left over that count as given beside the fields are no names of fields left out. -/
theorem mem_given_append_iff {model : Model} {data : Entries Value} {f : FieldRule}
    (hf : f ∈ fieldsOf model) :
    f.name ∈ givenIn model data ++ (extraOf model data).names.filter
        (fun name => !(givenIn model data).contains name) ↔ (f.supplied? data).isSome = true := by
  rw [List.mem_append, mem_givenIn_iff hf]
  refine or_iff_left_of_imp fun hmem => ?_
  have hextra : f.name ∈ (extraOf model data).names := (List.mem_filter.1 hmem).1
  have hname : f.name ∈ data.names := ((extraOf_sublist model data).map _).subset hextra
  have hhas := (Entries.mem_names_iff data f.name).1 hname
  unfold FieldOf.supplied?
  rw [Option.isSome_or, Bool.or_eq_true]
  exact Or.inr hhas

/-- **A record gives all names back.** Where the model keeps what no field takes, the data given back
    have the names of the data, renamed. -/
theorem names_dump_perm {model : Model} (hkept : extrasOf model = .kept) {data : Entries Value}
    (hnodup : data.names.Nodup) {value : FieldRule → Option Value}
    (hvalue : ∀ f ∈ fieldsOf model, (f.supplied? data).isSome = true → ∃ v, value f = some v)
    {given : List String}
    (hgiven : ∀ f ∈ fieldsOf model, f.name ∈ given ↔ (f.supplied? data).isSome = true) :
    ∃ dumped : Entries Value,
      dump asGiven (.record model (membersOf value (fieldsOf model)) (extraOf model data) given) =
          .map dumped ∧
        dumped.names.Perm (data.names.map (renamed (fieldsOf model) data)) := by
  refine ⟨_, dump_made hnodup hgiven, ?_⟩
  have hfields : (wireMembers value (suppliedIn data (fieldsOf model))).names =
      (suppliedIn data (fieldsOf model)).map (·.wire) := by
    refine names_wireMembers fun f hf => ?_
    exact hvalue f (List.mem_of_mem_filter hf) (List.mem_filter.1 hf).2
  have hextra : extraOf model data = leftover (fieldsOf model) data := if_pos hkept
  have hperm := names_perm_renamed (apart_fieldsOf model) hnodup
  rw [← hfields] at hperm
  rw [hextra, Entries.names, List.map_append, List.map_map]
  exact hperm

end SearchClient.Record
