import Mathlib
import SearchClient.Proofs.ReadingBack
import SearchClient.Proofs.Surfaces

set_option autoImplicit false

/-! # Overrides of a search

A search with parameters and overrides makes the parameters again, from the members that were given
to them and the overrides. The shapes of all members take what they have made as it is, so this is
the verdict on the data that the parameters were made of, with the overrides written over them
(`check_merge_given`), issues and all. Hence such a search is the one that is given all the data at
once: `overrides_compose`. -/

namespace SearchClient

open Schema

/-! ## Members of a search -/

namespace Schema

/-- The members of a search are null unless they are given, have one name only, and take what they
    have made as it is. -/
structure FieldOf.Overridable (f : FieldRule) : Prop where
  default : f.default = some .null
  wire : f.wire = f.name
  lasts : Lasts f.shape

theorem overridable_nullable (name : String) {shape : Shape} (h : Lasts shape) :
    (FieldRule.nullable name shape).Overridable :=
  ⟨rfl, rfl, lasts_optional h⟩

theorem lasts_anything : Lasts .anything :=
  fun _ _ _ => rfl

theorem overridable_search : ∀ f ∈ fieldsOf .search, f.Overridable := by
  have hnumber := lasts_integer (some 0)
  have hmap := lasts_map lasts_anything
  have htexts := lasts_list settles_text.again
  simp only [fieldsOf, searchFields, List.forall_mem_cons]
  exact ⟨overridable_nullable _ settles_text.again, overridable_nullable _ hmap,
    overridable_nullable _ hmap, overridable_nullable _ hnumber, overridable_nullable _ hnumber,
    overridable_nullable _ hnumber, overridable_nullable _ (lasts_list lasts_anything),
    overridable_nullable _ htexts, overridable_nullable _ htexts,
    fun _ h => absurd h List.not_mem_nil⟩

theorem FieldOf.Overridable.supplied? {f : FieldRule} (h : f.Overridable) (data : Entries Value) :
    f.supplied? data = data.get? f.name := by
  rw [FieldOf.supplied?, h.wire, Option.or_self]

theorem FieldOf.Overridable.takes {f : FieldRule} (h : f.Overridable) (data : Entries Value)
    (name : String) : f.takes data name = decide (name = f.name) := by
  rw [FieldOf.takes, h.wire]
  by_cases hname : name = f.name <;> simp [hname]

/-! ## Verdicts on different data -/

/-- Where no field is required, only the verdicts on the values of the fields count. -/
theorem checkFields_congr {fields : List FieldRule} {data other : Entries Value}
    (hdefault : ∀ f ∈ fields, f.default = some .null)
    (h : ∀ f ∈ fields, (f.supplied? data).map f.shape.check = (f.supplied? other).map f.shape.check) :
    checkFields fields data = checkFields fields other := by
  induction fields with
  | nil => rfl
  | cons f fields ih =>
      obtain ⟨hfirst, hrest⟩ := List.forall_mem_cons.1 h
      obtain ⟨hnull, hmore⟩ := List.forall_mem_cons.1 hdefault
      rw [checkFields, checkFields, supplied?_eq_bind f data, supplied?_eq_bind f other, ih hmore hrest]
      cases hdata : f.supplied? data with
      | none =>
        rw [hdata, Option.map_none, eq_comm, Option.map_eq_none_iff] at hfirst
        rw [hfirst]
        simp only [hnull, Filled.omit]
      | some v =>
        rw [hdata, Option.map_some, eq_comm, Option.map_eq_some_iff] at hfirst
        obtain ⟨w, hw, hcheck⟩ := hfirst
        simp only [hw, hcheck]

/-- The data as a whole count only for a rule on them. -/
theorem Filled.finish_congr {model : Model} (hrule : ∀ fields, Model.rule? model fields = none)
    (filled : Filled) (extras : Extras) (data other : Value) (rest : Entries Value) :
    filled.finish model extras data rest = filled.finish model extras other rest := by
  simp only [finish, hrule]

end Schema

namespace Record

/-- Data of a search get the same verdict if the verdicts on all members are the same, and so is what
    no member takes. -/
theorem check_search_congr {data other : Entries Value}
    (h : ∀ f ∈ fieldsOf .search,
      (data.get? f.name).map f.shape.check = (other.get? f.name).map f.shape.check)
    (hrest : leftover (fieldsOf .search) data = leftover (fieldsOf .search) other) :
    check .search (.map data) = check .search (.map other) := by
  have hfields : checkFields (fieldsOf .search) data = checkFields (fieldsOf .search) other := by
    refine checkFields_congr (fun f hf => (overridable_search f hf).default) fun f hf => ?_
    rw [(overridable_search f hf).supplied?, (overridable_search f hf).supplied?]
    exact h f hf
  simp only [check, Shape.check, undeclared_eq, hfields, hrest]
  rw [Filled.finish_congr fun _ => rfl]

/-! ## Given members -/

/-- What a check makes of the value that data give a field. -/
def remade? (data : Entries Value) (f : FieldRule) : Option Value :=
  (f.supplied? data).bind fun v => (f.shape.check v).toOption

/-- A value that is made again gets the verdict that it got when it was made. -/
theorem map_check_remade? {data : Entries Value} {f : FieldRule} (hlasts : Lasts f.shape)
    (hfits : f.Fits data) :
    (remade? data f).map f.shape.check = (f.supplied? data).map f.shape.check := by
  unfold FieldOf.Fits at hfits
  unfold remade?
  cases hsupplied : f.supplied? data with
  | none => rfl
  | some v =>
    rw [hsupplied] at hfits
    obtain ⟨w, hw⟩ := hfits
    simp only [Option.bind_some, hw, Except.toOption, Option.map_some, hlasts v w hw]

theorem map_suppliedIn {data : Entries Value} {fields : List FieldRule} {member : String → Value}
    (hfits : ∀ f ∈ fields, f.Fits data)
    (hmember : ∀ f ∈ fields, member f.name = .ofOption (f.checked? data)) :
    (suppliedIn data fields).map (fun f => (f.name, member f.name)) =
      membersOf (remade? data) fields := by
  induction fields with
  | nil => rfl
  | cons f fields ih =>
      obtain ⟨hfirst, hrest⟩ := List.forall_mem_cons.1 hfits
      obtain ⟨hhere, hmore⟩ := List.forall_mem_cons.1 hmember
      obtain ⟨w, hw⟩ := FieldOf.fits_iff.1 hfirst
      rw [membersOf_cons, ← ih hrest hmore, remade?]
      rw [hw] at hhere
      unfold FieldOf.checked? at hw
      cases hsupplied : f.supplied? data with
      | none => rw [suppliedIn_cons_of_neg hsupplied]; rfl
      | some v =>
        rw [hsupplied] at hw
        dsimp only at hw
        rw [suppliedIn_cons_of_pos hsupplied, Option.bind_some, hw, List.map_cons, hhere]
        rfl

/-- The given members of accepted parameters are what was made of the values given to them. -/
theorem givenMembers_of_check {data : Entries Value} {params : Value}
    (h : check .search (.map data) = .ok params) :
    Client.Operation.givenMembers params = .ok (membersOf (remade? data) (fieldsOf .search)) := by
  obtain ⟨hfits, -, -, rfl⟩ := check_map_eq_ok_iff.1 h
  refine congrArg Except.ok ?_
  have hextra : extraOf .search data = [] := rfl
  rw [hextra, Entries.names, List.map_nil, List.filter_nil, List.append_nil]
  have hnodup := nodup_names_of_apart (apart_fieldsOf .search)
  refine (List.map_map).trans (map_suppliedIn hfits fun f hf => ?_)
  rw [Value.member, Value.member?, get?_membersOf hnodup hf, Entries.get?, Option.or_none]

/-! ## Names of members -/

/-- Whether a name is that of no member of a search. -/
def isForeign (name : String) : Bool :=
  !(fieldsOf .search).any fun f => decide (name = f.name)

theorem leftover_search (data : Entries Value) :
    leftover (fieldsOf .search) data = data.filter fun e => isForeign e.1 := by
  refine List.filter_congr fun e _ => congrArg (!·) ?_
  rw [Bool.eq_iff_iff, List.any_eq_true, List.any_eq_true]
  exact exists_congr fun f => and_congr_right fun hf => by rw [(overridable_search f hf).takes]

/-- No name in accepted data is foreign. -/
theorem isForeign_of_check {data : Entries Value} {params : Value}
    (h : check .search (.map data) = .ok params) {name : String} (hname : isForeign name = true) :
    data.has name = false := by
  obtain ⟨-, hnone, -, -⟩ := check_map_eq_ok_iff.1 h
  have hleft := hnone rfl
  rw [leftover_search, List.filter_eq_nil_iff] at hleft
  rw [← Bool.not_eq_true]
  intro hhas
  obtain ⟨v, hv⟩ := Option.isSome_iff_exists.1 hhas
  exact hleft _ (Entries.mem_of_get? hv) hname

/-- **Made again with overrides.** The verdict on the given members of accepted parameters, with
    overrides written over them, is that on the data of the parameters with the same overrides. -/
theorem check_merge_given {data : Entries Value} {params : Value}
    (h : check .search (.map data) = .ok params) (overrides : Entries Value) :
    check .search (.map ((membersOf (remade? data) (fieldsOf .search)).merge overrides)) =
      check .search (.map (data.merge overrides)) := by
  obtain ⟨hfits, hnone, -, -⟩ := check_map_eq_ok_iff.1 h
  apply check_search_congr
  · intro f hf
    have hfield := overridable_search f hf
    rw [Entries.get?_merge, Entries.get?_merge]
    cases (Entries.ofPairs overrides).get? f.name with
    | some v => rfl
    | none =>
      have hnodup := nodup_names_of_apart (apart_fieldsOf .search)
      rw [Option.none_or, Option.none_or, get?_membersOf hnodup hf,
        map_check_remade? hfield.lasts (hfits f hf), hfield.supplied?]
  · have hmembers : (membersOf (remade? data) (fieldsOf .search)).filter (isForeign ·.1) = [] := by
      rw [List.filter_eq_nil_iff]
      intro e he hforeign
      obtain ⟨f, hf, hmade⟩ := List.mem_filterMap.1 he
      obtain ⟨v, -, rfl⟩ := Option.map_eq_some_iff.1 hmade
      rw [isForeign, Bool.not_eq_true', List.any_eq_false] at hforeign
      exact hforeign f hf (decide_eq_true rfl)
    have hdata := hnone rfl
    rw [leftover_search] at hdata
    rw [leftover_search, leftover_search, Entries.filter_merge isForeign,
      Entries.filter_merge isForeign, hmembers, hdata]

/-- A member that is not overridden is as it was. -/
theorem member?_of_merge {data overrides : Entries Value} {params accepted : Value}
    (hparams : check .search (.map data) = .ok params)
    (haccepted : check .search (.map (data.merge overrides)) = .ok accepted) {f : FieldRule}
    (hf : f ∈ fieldsOf .search) (hkept : overrides.has f.name = false) :
    accepted.member? f.name = params.member? f.name := by
  have hname : f.name ∉ overrides.names := by
    rw [Entries.mem_names_iff, hkept]
    exact Bool.false_ne_true
  rw [member?_eq_checked? haccepted hf, member?_eq_checked? hparams hf, FieldOf.checked?,
    FieldOf.checked?, (overridable_search f hf).supplied?, (overridable_search f hf).supplied?,
    Entries.get?_merge_of_notMem hname]

end Record

/-! ## Calls of a search -/

namespace Client

open Http Failure Query Operation

/-- Overrides that a search can be called with beside parameters: none of them has the name of a part
    of the call itself. -/
def Surface.Takes (s : Surface) (overrides : Entries Value) : Prop :=
  ∀ name ∈ "index_id" :: "params" :: s.reserved, overrides.has name = false

instance (s : Surface) (overrides : Entries Value) : Decidable (s.Takes overrides) :=
  inferInstanceAs (Decidable (∀ name ∈ _, _ = false))

/-- What is called to search. -/
def searchMethod : Method :=
  ⟨"search", { positional := [required "index_id", omittable "params"], extensible := true },
    fun b => .search (b.get "index_id") (b.get "params") b.further⟩

theorem operation_search_eq (blocking : Bool) (args : List Value) (given : Entries Value) :
    (Surface.client blocking).operation "search" args given =
      (searchMethod.signature.bind (Surface.client blocking).reserved args given).map
        searchMethod.build := by
  have hbuild : ∀ bound : Except Misuse Signature.Bound,
      (bound >>= fun b => if blocking then (searchMethod.build b).materialized
        else .ok (searchMethod.build b)) = bound.map searchMethod.build := by
    intro bound
    cases bound <;> cases blocking <;> rfl
  exact hbuild _

/-- A call of a search that has bound its own parameters is refused exactly if it names a part of the
    call once more. -/
theorem refuses_search {s : Surface} {bound given : Entries Value}
    (hbound : ∀ name ∈ given.names, bound.has name = true ↔ name = "index_id" ∨ name = "params") :
    searchMethod.signature.refuses s.reserved bound given = !decide (s.Takes given) := by
  have hextensible : searchMethod.signature.extensible = true := rfl
  rw [Signature.refuses, hextensible, Bool.not_true, Bool.false_and, Bool.or_false, Bool.eq_iff_iff,
    List.any_eq_true, Bool.not_eq_true', decide_eq_false_iff_not]
  constructor
  · rintro ⟨e, he, hclash⟩ htakes
    have hname : e.1 ∈ given.names := List.mem_map_of_mem he
    have hpart : e.1 ∈ "index_id" :: "params" :: s.reserved := by
      simpa [hbound e.1 hname, or_assoc] using hclash
    exact Bool.eq_false_iff.1 (htakes e.1 hpart) ((Entries.mem_names_iff given e.1).1 hname)
  · intro hnot
    simp only [Surface.Takes, not_forall, Bool.not_eq_false] at hnot
    obtain ⟨name, hpart, hhas⟩ := hnot
    have hname := (Entries.mem_names_iff given name).2 hhas
    obtain ⟨e, he, rfl⟩ := List.mem_map.1 hname
    exact ⟨e, he, by simpa [hbound e.1 hname, or_assoc] using hpart⟩

/-- A search is called with what is bound for its index and parameters, and overridden by the rest. -/
theorem operation_search_of_bound {args : List Value} {given bound rest : Entries Value}
    {pending : List Parameter}
    (hpositional : Signature.bindPositional searchMethod.signature.positional args =
      .ok (bound, pending))
    (hfurther : ∀ name ∈ given.names, ∀ p ∈ pending, p.1 ≠ name)
    (hrest : Signature.bindNamed given pending = .ok rest)
    (hbound : ∀ name ∈ given.names, bound.has name = true ↔ name = "index_id" ∨ name = "params")
    (blocking : Bool) :
    (Surface.client blocking).operation "search" args given =
      if (Surface.client blocking).Takes given then
        .ok (searchMethod.build ⟨bound ++ rest, given⟩) else .error .wrongType := by
  have hnamed : pending ++ searchMethod.signature.named = pending := List.append_nil pending
  have hall : Signature.furtherOf pending given = given := by
    refine List.filter_eq_self.2 fun e he => ?_
    have hnone := hfurther e.1 (List.mem_map_of_mem he)
    simpa using fun name default hp => hnone (name, default) hp
  rw [operation_search_eq, Signature.bind_eq, hpositional]
  show (Signature.complete searchMethod.signature _ given (bound, pending)).map _ = _
  unfold Signature.complete
  simp only [hnamed, hall, refuses_search hbound, hrest]
  by_cases htakes : (Surface.client blocking).Takes given
  · simp only [htakes, decide_true, Bool.not_true, Bool.false_eq_true, if_false, if_true]
    rfl
  · simp only [htakes, decide_false, Bool.not_false, if_true, if_false]
    rfl

theorem operation_search (blocking : Bool) (index params : Value) (given : Entries Value) :
    (Surface.client blocking).operation "search" [index, params] given =
      if (Surface.client blocking).Takes given then .ok (.search index params given)
      else .error .wrongType := by
  have hpositional : Signature.bindPositional searchMethod.signature.positional [index, params] =
      .ok ([("index_id", index), ("params", params)], []) := rfl
  refine operation_search_of_bound hpositional (fun _ _ _ hp => absurd hp List.not_mem_nil) rfl ?_
    blocking
  intro name _
  have hnil : Entries.has ([] : Entries Value) name = false := rfl
  rw [Entries.has_cons, Entries.has_cons, hnil, Bool.or_false, Bool.or_eq_true,
    decide_eq_true_iff, decide_eq_true_iff, @eq_comm _ name, @eq_comm _ name]

/-- Without parameters everything that is given by name overrides them. -/
theorem operation_search_alone (blocking : Bool) (index : Value) {given : Entries Value}
    (h : given.has "params" = false) :
    (Surface.client blocking).operation "search" [index] given =
      if (Surface.client blocking).Takes given then .ok (.search index .null given)
      else .error .wrongType := by
  have hne : ∀ name ∈ given.names, name ≠ "params" := by
    rintro name hname rfl
    exact Bool.eq_false_iff.1 h ((Entries.mem_names_iff given _).1 hname)
  have hpositional : Signature.bindPositional searchMethod.signature.positional [index] =
      .ok ([("index_id", index)], [omittable "params"]) := rfl
  have hdefault : Signature.bindNamed given [omittable "params"] = .ok [("params", .null)] := by
    have hget : given.get? "params" = none := Option.isSome_eq_false_iff.1 h |> Option.isNone_iff_eq_none.1
    simp only [omittable, Signature.bindNamed, hget]
    rfl
  refine operation_search_of_bound hpositional ?_ hdefault ?_ blocking
  · intro name hname p hp
    rw [List.mem_singleton.1 hp]
    exact (hne name hname).symm
  · intro name hname
    have hnil : Entries.has ([] : Entries Value) name = false := rfl
    rw [Entries.has_cons, hnil, Bool.or_false, decide_eq_true_iff, or_iff_left (hne name hname)]
    exact eq_comm

theorem searchParams_merge {data : Entries Value} {params : Value}
    (h : Record.check .search (.map data) = .ok params) (overrides : Entries Value) :
    searchParams params overrides = searchParams .null (data.merge overrides) := by
  obtain ⟨fields, extra, given, rfl⟩ : ∃ fields extra given, params = .record .search fields extra given := by
    obtain ⟨-, -, -, rfl⟩ := Record.check_map_eq_ok_iff.1 h
    exact ⟨_, _, _, rfl⟩
  cases overrides with
  | nil =>
    show Except.ok _ = (Record.check .search (.map data)).mapError Problem.refused
    rw [h]
    rfl
  | cons e overrides =>
    show ((givenMembers _).mapError Problem.misuse >>= fun current =>
      (Record.check .search (.map (Entries.merge current (e :: overrides)))).mapError Problem.refused) = _
    rw [Record.givenMembers_of_check h]
    show (Record.check .search _).mapError Problem.refused = _
    rw [Record.check_merge_given h]
    rfl

theorem plan_search_merge {data : Entries Value} {params : Value}
    (h : Record.check .search (.map data) = .ok params) (index : Value) (overrides : Entries Value)
    (x : Executor) :
    (search index params overrides).plan x = (search index .null (data.merge overrides)).plan x := by
  have hcall : (search index params overrides).call =
      (search index .null (data.merge overrides)).call := by
    simp only [call, searchParams_merge h]
    rfl
  have hshown : (search index params overrides).shown =
      (search index .null (data.merge overrides)).shown := by
    simp only [shown, searchParams_merge h]
    rfl
  exact plan_congr hcall hshown rfl x

/-- Names that parts of a call have are foreign to a search. -/
theorem takes_merge_iff {data : Entries Value} {params : Value}
    (h : Record.check .search (.map data) = .ok params) (blocking : Bool) (overrides : Entries Value) :
    (Surface.client blocking).Takes (data.merge overrides) ↔
      (Surface.client blocking).Takes overrides := by
  have hforeign : ∀ name ∈ "index_id" :: "params" :: (Surface.client blocking).reserved,
      Record.isForeign name = true := by
    cases blocking <;> decide
  refine forall₂_congr fun name hname => ?_
  rw [Entries.has_merge, Record.isForeign_of_check h (hforeign name hname), Bool.false_or]

/-- A search with parameters is planned with all overrides that fit it. -/
theorem plan_search {c : Connection} {x : Executor} (hx : c.executor = .ok x) (blocking : Bool)
    (index params : Value) (overrides : Entries Value) :
    c.plan (.client blocking) "search" [index, params] overrides =
      if (Surface.client blocking).Takes overrides then (search index params overrides).plan x
      else .refuse (.misuse .wrongType) := by
  rw [Connection.plan_of_ok hx, operation_search]
  by_cases htakes : (Surface.client blocking).Takes overrides
  · rw [if_pos htakes, if_pos htakes]
  · rw [if_neg htakes, if_neg htakes]

theorem plan_search_alone {c : Connection} {x : Executor} (hx : c.executor = .ok x)
    {data : Entries Value} {params : Value} (hparams : Record.check .search (.map data) = .ok params)
    (blocking : Bool) (index : Value) {overrides : Entries Value}
    (hfree : overrides.has "params" = false) :
    c.plan (.client blocking) "search" [index, params] overrides =
      c.plan (.client blocking) "search" [index] (data.merge overrides) := by
  have hnone : (data.merge overrides).has "params" = false := by
    rw [Entries.has_merge, Record.isForeign_of_check hparams (by decide), hfree, Bool.or_false]
  have htakes := takes_merge_iff hparams blocking overrides
  rw [plan_search hx, Connection.plan_of_ok hx, operation_search_alone blocking index hnone]
  by_cases hfits : (Surface.client blocking).Takes overrides
  · rw [if_pos hfits, if_pos (htakes.2 hfits)]
    exact plan_search_merge hparams index overrides x
  · rw [if_neg hfits, if_neg (mt htakes.1 hfits)]

/-- A search with accepted parameters and overrides is refused with the issues of the data, or sent
    with what is accepted of them. -/
theorem run_search_merge {data : Entries Value} {params : Value}
    (hparams : Record.check .search (.map data) = .ok params) (x : Executor) (index : Value)
    (overrides : Entries Value) (outcome : Outcome) :
    let trace := ((search index params overrides).plan x).run outcome
    (∃ refusal, Record.check .search (.map (data.merge overrides)) = .error refusal ∧
      trace.Fails (.refused refusal)) ∨
    ∃ accepted, Record.check .search (.map (data.merge overrides)) = .ok accepted ∧
      (∀ f ∈ fieldsOf .search, overrides.has f.name = false →
        accepted.member? f.name = params.member? f.name) ∧
      (Ranged (accepted.member "range") → trace.Sent) ∧
      (¬Ranged (accepted.member "range") → trace.Fails (.misuse .noMember)) := by
  intro trace
  have hmade := searchParams_merge hparams overrides
  cases hcheck : Record.check .search (.map (data.merge overrides)) with
  | error refusal =>
    have hrefused : searchParams params overrides = .error (.refused refusal) := by
      rw [hmade, searchParams, hcheck]
      rfl
    exact Or.inl ⟨refusal, rfl, fails_of_call (bind_eq_error_iff.2 (Or.inl hrefused)) outcome⟩
  | ok accepted =>
    have haccepted : searchParams params overrides = .ok accepted := by
      rw [hmade, searchParams, hcheck]
      rfl
    have hpairs := hingesOn_searchPairs (searchable_of_check hcheck)
    refine Or.inr ⟨accepted, rfl, ?_, run_search haccepted hpairs outcome⟩
    intro f hf hkept
    exact Record.member?_of_merge hparams hcheck hf hkept

/-- **Overrides compose.** A search with accepted parameters and overrides is planned like the one
    that is given the data of the parameters with the overrides written over them, and without
    overrides like the one that is given just the data. It is refused with the issues of these data,
    or sent with them, in which all that is not overridden is as it was in the parameters; only a
    range with an entry that cannot be compiled makes it fail. Overrides with the name of a part of
    the call do not fit. -/
theorem overrides_compose {c : Connection} {x : Executor} (hx : c.executor = .ok x)
    {data : Entries Value} {params : Value} (hparams : Record.check .search (.map data) = .ok params)
    (blocking : Bool) (index : Value) (overrides : Entries Value) :
    let s := Surface.client blocking
    let composed := c.plan s "search" [index, params] overrides
    (overrides.has "params" = false → composed = c.plan s "search" [index] (data.merge overrides)) ∧
    (overrides = [] → composed = c.plan s "search" [index] data) ∧
    (s.Takes overrides → ∀ outcome,
      (∃ refusal, Record.check .search (.map (data.merge overrides)) = .error refusal ∧
        (composed.run outcome).Fails (.refused refusal)) ∨
      ∃ accepted, Record.check .search (.map (data.merge overrides)) = .ok accepted ∧
        (∀ f ∈ fieldsOf .search, overrides.has f.name = false →
          accepted.member? f.name = params.member? f.name) ∧
        (Ranged (accepted.member "range") → (composed.run outcome).Sent) ∧
        (¬Ranged (accepted.member "range") → (composed.run outcome).Fails (.misuse .noMember))) ∧
    (¬s.Takes overrides → ∀ outcome, (composed.run outcome).Fails (.misuse .wrongType)) := by
  intro s composed
  have hplan := plan_search hx blocking index params overrides
  refine ⟨plan_search_alone hx hparams blocking index, ?_, ?_, ?_⟩
  · rintro rfl
    exact plan_search_alone hx hparams blocking index rfl
  · intro htakes outcome
    rw [if_pos htakes] at hplan
    rw [show composed = _ from hplan]
    exact run_search_merge hparams x index overrides outcome
  · intro hnot outcome
    rw [if_neg hnot] at hplan
    rw [show composed = _ from hplan]
    exact Plan.fails_run rfl outcome

/-- A limit that was read from a text, a sorting that is set to null and a range of bounds are sent as
    they were, beside an offset that is a truth value. -/
theorem overrides_compose_of_read_limit :
    let data : Entries Value :=
      [("limit", .text "5"), ("sort", .null), ("range", .map [("year", .map [("gte", .int 1960)])])]
    let c := Connection.of "http://bright.test" none
    ∃ params, Record.check .search (.map data) = .ok params ∧
      params.member? "limit" = some (.int 5) ∧
      c.plan (.client true) "search" [.text "books", params] [("offset", .bool true)] =
        c.plan (.client true) "search" [.text "books"] (data.merge [("offset", .bool true)]) ∧
      ((c.plan (.client true) "search" [.text "books", params] [("offset", .bool true)]).run
        (.interrupted "" "")).Sent := by
  intro data c
  let range : Value := .map [("year", .map [("gte", .int 1960)])]
  obtain ⟨params, hparams, hlimit⟩ : ∃ params, Record.check .search (.map data) = .ok params ∧
      params.member? "limit" = some (.int 5) := ⟨_, rfl, rfl⟩
  obtain ⟨accepted, haccepted, hmember⟩ : ∃ accepted,
      Record.check .search (.map (data.merge [("offset", .bool true)])) = .ok accepted ∧
        accepted.member "range" = range := ⟨_, rfl, rfl⟩
  have hranged : Ranged range := by
    rintro entries hentries
    obtain rfl := Value.map.inj hentries
    simp [IsBounds]
  obtain ⟨hsame, -, hfits, -⟩ :=
    overrides_compose executor_root hparams true (.text "books") [("offset", .bool true)]
  refine ⟨params, hparams, hlimit, hsame rfl, ?_⟩
  rcases hfits (by decide) (.interrupted "" "") with
    ⟨refusal, hrefused, -⟩ | ⟨other, hother, -, hsent, -⟩
  · exact absurd (haccepted.symm.trans hrefused) (by simp)
  · rw [haccepted] at hother
    obtain rfl := Except.ok.inj hother
    exact hsent (by rwa [hmember])

/-- A number for an entry of a range is accepted in parameters and with an override of another member,
    and both searches fail for it alike. -/
theorem composed_search_of_number_fails :
    let data : Entries Value := [("range", .map [("year", .int 5)])]
    let c := Connection.of "http://bright.test" none
    ∃ params accepted, Record.check .search (.map data) = .ok params ∧
      Record.check .search (.map (data.merge [("limit", .int 3)])) = .ok accepted ∧
      ∀ outcome,
        ((c.plan (.client false) "search" [.text "books", params] [("limit", .int 3)]).run
          outcome).Fails (.misuse .noMember) ∧
        ((c.plan (.client false) "search" [.text "books"] (data.merge [("limit", .int 3)])).run
          outcome).Fails (.misuse .noMember) := by
  intro data c
  refine ⟨_, _, rfl, rfl, fun outcome => ⟨?_, ?_⟩⟩
  · rw [Connection.plan_of_ok executor_root, operation_search, if_pos (by decide)]
    exact fails_of_call rfl outcome
  · rw [Connection.plan_of_ok executor_root, operation_search_alone _ _ rfl, if_pos (by decide)]
    exact fails_of_call rfl outcome

end Client

end SearchClient
