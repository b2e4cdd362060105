import Mathlib
import SearchClient.Proofs.Criteria
import SearchClient.Proofs.Json
import SearchClient.Proofs.Layers
import SearchClient.Proofs.LetterCase

set_option autoImplicit false

/-! # Variables of the settings of logging

A setting of logging has a variable of its own, and a place in the JSON text of all of them, where
names may be spelled in any letter case. What variables say about it comes from its own variable, or
else from the JSON text, unless the text stands in the way (`memberOf?_of_fieldValue?`). -/

namespace SearchClient.Settings

open Schema (FieldRule)

/-! ## Values at paths -/

theorem get?_nest_single (v : Value) (name : String) (es : Entries Value) (x : String) :
    (nest false v [name] es).get? x = if name = x then some v else es.get? x := by
  unfold nest
  split <;> simp [Entries.get?_put]

/-- A path of several names leads through a map, unless something else stands in its way. -/
theorem map_hollow_get?_nest (v : Value) (name next : String) (path : List String)
    (es : Entries Value) (x : String) :
    ((nest false v (name :: next :: path) es).get? x).map hollow =
      if name = x then ((es.get? x).map hollow).or (some (.map [])) else (es.get? x).map hollow := by
  unfold nest
  split
  · next hnone =>
    rw [Entries.get?_put]
    by_cases hname : name = x
    · subst hname
      simp [hnone, hollow]
    · simp [hname]
  · next inner hinner =>
    rw [Entries.get?_put]
    by_cases hname : name = x
    · subst hname
      simp [hinner, hollow]
    · simp [hname]
  · next w _ hw =>
    by_cases hname : name = x
    · subst hname
      simp [hw]
    · simp [hname]

theorem nest_cases (v : Value) (name : String) (path : List String) (es : Entries Value) :
    (∃ w, nest false v (name :: path) es = es.put name w) ∨ nest false v (name :: path) es = es := by
  cases path with
  | nil =>
      unfold nest
      split <;> exact Or.inl ⟨v, by simp⟩
  | cons next path =>
      unfold nest
      split
      · exact Or.inl ⟨_, rfl⟩
      · exact Or.inl ⟨_, rfl⟩
      · exact Or.inr rfl

/-! ## Variables of single settings -/

/-- What the variables of single settings of logging start with. -/
def groupStem : String :=
  "bright_observability__"

/-- What stands between the names in a variable. -/
def delimiter : List Char :=
  ['_', '_']

/-- The names that a variable of a setting of logging goes through. -/
def pathOf? (full : String) : Option (List String) :=
  (Text.dropText? groupStem.toList full.toList).map fun rest =>
    (Text.splitBy delimiter rest).map String.ofList

/-- Takes the value of one variable in. -/
def nestStep (es : Entries Value) (e : String × Option String) : Entries Value :=
  match pathOf? e.1 with
  | some path => nest false (Value.ofOption (e.2.map .text)) path es
  | none => es

/-- The settings of logging in variables of their own. -/
def nestedValues (vs : EnvFile.Variables) : Entries Value :=
  vs.foldl nestStep []

theorem nested_eq (vs : EnvFile.Variables) :
    nested {} vs "observability" = .ok (nestedValues vs) := by
  have hstem : (({} : Naming).variableOf "observability" ++ ({} : Naming).delimiter).toList =
      groupStem.toList := by
    decide +kernel
  have hsome : ({} : Naming).delimiter.isEmpty = false := by decide
  unfold nested nestedValues
  simp only [hsome, hstem, Bool.false_eq_true, if_false]
  generalize ([] : Entries Value) = es
  induction vs generalizing es with
  | nil => rfl
  | cons e vs ih =>
      rw [List.foldlM_cons, List.foldl_cons, ← ih]
      unfold nestStep pathOf?
      cases Text.dropText? groupStem.toList e.1.toList with
      | none => rfl
      | some rest =>
        cases e.2 with
        | none => rfl
        | some s => rfl

/-- A name that no delimiter starts in, whatever stands behind the name. -/
def Undivided (name : String) : Prop :=
  ∀ rest, Text.splitByFrom delimiter [] 0 (name.toList ++ rest) =
    Text.splitByFrom delimiter name.toList.reverse 0 rest

theorem pathOf?_eq_some_iff {full : String} {path : List String} :
    pathOf? full = some path ↔ ∃ rest, full.toList = groupStem.toList ++ rest ∧
      (Text.splitBy delimiter rest).map String.ofList = path := by
  simp only [pathOf?, Option.map_eq_some_iff, Text.dropText?_eq_some_iff]

theorem exists_of_pathOf? {full : String} {path : List String} (h : pathOf? full = some path) :
    ∃ name more, path = name :: more ∧ ∀ c ∈ name.toList, c ∈ full.toList := by
  obtain ⟨rest, hfull, rfl⟩ := pathOf?_eq_some_iff.1 h
  obtain ⟨first, parts, hparts⟩ :=
    List.exists_cons_of_ne_nil (Text.splitByFrom_ne_nil delimiter [] 0 rest)
  refine ⟨String.ofList first, parts.map String.ofList, by rw [Text.splitBy, hparts]; rfl,
    fun c hc => ?_⟩
  obtain ⟨front, rfl, hfront⟩ := Text.splitByFrom_eq_cons hparts
  rw [String.toList_ofList] at hc
  rw [hfull]
  rcases hfront with ⟨-, rfl⟩ | ⟨-, more, rfl⟩
  · exact List.mem_append_right _ hc
  · exact List.mem_append_right _ (List.mem_append_left _ hc)

/-- What a variable starts with that goes on behind the name of a setting of logging. -/
def deepStem (name : String) : List Char :=
  groupStem.toList ++ (name.toList ++ delimiter)

/-- What variables of their own say about a setting of logging: one that goes on behind the name makes
    it a map. -/
def exploded? (vs : EnvFile.Variables) (name : String) : Option Value :=
  match vs.get? (groupStem ++ name) with
  | some v => some (Value.ofOption (v.map .text))
  | none => if ∃ e ∈ vs, deepStem name <+: e.1.toList then some (.map []) else none

section

variable {name : String} (hname : Undivided name)

include hname

theorem splitBy_self : Text.splitBy delimiter name.toList = [name.toList] := by
  have h := hname []
  rw [List.append_nil] at h
  rw [Text.splitBy, h, Text.splitByFrom, List.reverse_reverse]

theorem splitBy_append_delimiter (rest : List Char) :
    Text.splitBy delimiter (name.toList ++ (delimiter ++ rest)) =
      name.toList :: Text.splitBy delimiter rest := by
  rw [Text.splitBy, hname]
  show name.toList.reverse.reverse :: _ = _
  rw [List.reverse_reverse]
  rfl

/-- A variable is that of a name alone if it has nothing else behind the stem. -/
theorem pathOf?_eq_single_iff {full : String} :
    pathOf? full = some [name] ↔ full = groupStem ++ name := by
  rw [pathOf?_eq_some_iff, ← String.toList_inj, String.toList_append]
  constructor
  · rintro ⟨rest, hfull, hpath⟩
    obtain ⟨first, parts, hparts⟩ :=
      List.exists_cons_of_ne_nil (Text.splitByFrom_ne_nil delimiter [] 0 rest)
    rw [Text.splitBy, hparts, List.map_cons, List.cons.injEq, List.map_eq_nil_iff] at hpath
    obtain ⟨rfl, rfl⟩ := hpath
    obtain ⟨front, rfl, ⟨-, rfl⟩ | ⟨hne, -⟩⟩ := Text.splitByFrom_eq_cons hparts
    · rw [hfull, String.toList_ofList]
    · exact absurd rfl hne
  · intro hfull
    refine ⟨name.toList, hfull, ?_⟩
    rw [splitBy_self hname, List.map_singleton, String.ofList_toList]

/-- A variable goes through a name if it has the name and a delimiter behind the stem. -/
theorem exists_pathOf?_iff {full : String} :
    (∃ next path, pathOf? full = some (name :: next :: path)) ↔
      deepStem name <+: full.toList := by
  simp only [pathOf?_eq_some_iff, deepStem]
  constructor
  · rintro ⟨next, path, rest, hfull, hpath⟩
    obtain ⟨first, parts, hparts⟩ :=
      List.exists_cons_of_ne_nil (Text.splitByFrom_ne_nil delimiter [] 0 rest)
    rw [Text.splitBy, hparts, List.map_cons, List.cons.injEq] at hpath
    obtain ⟨rfl, hmore⟩ := hpath
    obtain ⟨front, rfl, ⟨rfl, -⟩ | ⟨-, more, rfl⟩⟩ := Text.splitByFrom_eq_cons hparts
    · exact nomatch hmore
    · refine ⟨more, ?_⟩
      rw [hfull, String.toList_ofList]
      simp
  · rintro ⟨more, hfull⟩
    obtain ⟨first, parts, hparts⟩ :=
      List.exists_cons_of_ne_nil (Text.splitByFrom_ne_nil delimiter [] 0 more)
    refine ⟨String.ofList first, parts.map String.ofList, name.toList ++ (delimiter ++ more), ?_, ?_⟩
    · rw [← hfull]
      simp
    · rw [splitBy_append_delimiter hname, List.map_cons, String.ofList_toList, Text.splitBy, hparts,
        List.map_cons]

/-- One variable says of a setting what it holds if it is that of the setting, and that it is a map if
    it goes on behind the name. -/
theorem get?_nestStep (es : Entries Value) (e : String × Option String) :
    ((nestStep es e).get? name).map hollow =
      if e.1 = groupStem ++ name then some (Value.ofOption (e.2.map .text))
      else if deepStem name <+: e.1.toList then ((es.get? name).map hollow).or (some (.map []))
      else (es.get? name).map hollow := by
  have hsingle : pathOf? e.1 = some [name] ↔ e.1 = groupStem ++ name := pathOf?_eq_single_iff hname
  have hdeep : (∃ next path, pathOf? e.1 = some (name :: next :: path)) ↔
      deepStem name <+: e.1.toList := exists_pathOf?_iff hname
  unfold nestStep
  cases hpath : pathOf? e.1 with
  | none =>
    rw [hpath] at hsingle hdeep
    rw [if_neg (mt hsingle.2 nofun), if_neg (mt hdeep.2 nofun)]
  | some path =>
    rw [hpath, Option.some.injEq] at hsingle
    obtain ⟨first, more, rfl, -⟩ := exists_of_pathOf? hpath
    cases more with
    | nil =>
      have hnot : ¬deepStem name <+: e.1.toList := by
        rw [← hdeep, hpath]
        nofun
      rw [get?_nest_single, if_neg hnot]
      by_cases hfirst : first = name
      · rw [if_pos hfirst, if_pos (hsingle.1 (by rw [hfirst]))]
        cases e.2 <;> rfl
      · rw [if_neg hfirst, if_neg (mt hsingle.2 (by simpa using hfirst))]
    | cons next more =>
      rw [map_hollow_get?_nest, if_neg (mt hsingle.2 (by simp))]
      have hiff : first = name ↔ deepStem name <+: e.1.toList := by
        rw [← hdeep, hpath]
        simp
      simp only [hiff]

/-- **Single settings.** The variables of single settings say of each what its own variable holds. -/
theorem map_hollow_get?_nestedValues {vs : EnvFile.Variables} (hnodup : vs.names.Nodup) :
    ((nestedValues vs).get? name).map hollow = exploded? vs name := by
  -- from the end, as a variable is taken in over those in front of it
  induction vs using List.reverseRecOn with
  | nil => rfl
  | append_singleton vs e ih =>
      have hstep : nestedValues (vs ++ [e]) = nestStep (nestedValues vs) e := List.foldl_append
      rw [Entries.names, List.map_append, List.map_singleton, ← List.concat_eq_append,
        List.nodup_concat] at hnodup
      rw [hstep, get?_nestStep hname, ih hnodup.2]
      unfold exploded?
      have hdeep : (∃ d ∈ vs ++ [e], deepStem name <+: d.1.toList) ↔
          (∃ d ∈ vs, deepStem name <+: d.1.toList) ∨ deepStem name <+: e.1.toList := by
        simp only [List.mem_append, List.mem_singleton, or_and_right, exists_or, exists_eq_left]
      simp only [Entries.get?_append, Entries.get?, hdeep]
      by_cases hown : e.1 = groupStem ++ name
      · have hnone : Entries.get? vs (groupStem ++ name) = none :=
          Entries.get?_eq_none_iff.2 (hown ▸ hnodup.1)
        simp [hown, hnone]
      · simp only [hown, if_false, Option.or_none]
        cases Entries.get? vs (groupStem ++ name) with
        | some v => simp
        | none =>
          by_cases hgoes : deepStem name <+: e.1.toList
          · simp only [hgoes, if_true, or_true]
            split <;> rfl
          · simp only [hgoes, if_false, or_false]

end

/-- Variables by names without letter case. -/
structure Folded (vs : EnvFile.Variables) : Prop where
  nodup : vs.names.Nodup
  small : ∀ e ∈ vs, ∀ c ∈ e.1.toList, c.isUpper = false

theorem folded_select (vs : EnvFile.Variables) : Folded (({} : Naming).select vs) where
  nodup := Entries.nodup_names_ofPairs _
  small e he := by
    obtain ⟨own, -, rfl⟩ := List.mem_map.1 (Entries.mem_ofPairs he)
    show ∀ c ∈ (Text.lower own.1).toList, _
    rw [Text.lower, String.toList_ofList]
    exact Text.isUpper_of_mem_lowerFrom

theorem nodup_names_nestedValues (vs : EnvFile.Variables) : (nestedValues vs).names.Nodup := by
  induction vs using List.reverseRecOn with
  | nil => exact List.nodup_nil
  | append_singleton vs e ih =>
      rw [nestedValues, List.foldl_append]
      show (nestStep (nestedValues vs) e).names.Nodup
      unfold nestStep
      split
      · next path hpath =>
        obtain ⟨name, more, rfl, -⟩ := exists_of_pathOf? hpath
        obtain ⟨w, hput⟩ | hsame := nest_cases (Value.ofOption (e.2.map .text)) name more
          (nestedValues vs)
        · rw [hput]
          exact Entries.nodup_names_put ih
        · rw [hsame]
          exact ih
      · exact ih

/-- The name of a single setting is a part of the name of its variable. -/
theorem exists_variable_of_nestedValues {vs : EnvFile.Variables} {d : String × Value}
    (h : d ∈ nestedValues vs) : ∃ e ∈ vs, ∀ c ∈ d.1.toList, c ∈ e.1.toList := by
  induction vs using List.reverseRecOn with
  | nil => exact absurd h List.not_mem_nil
  | append_singleton vs e ih =>
      have hrest : d ∈ nestedValues vs → ∃ e' ∈ vs ++ [e], ∀ c ∈ d.1.toList, c ∈ e'.1.toList :=
        fun hd => (ih hd).imp fun _ he => ⟨List.mem_append_left _ he.1, he.2⟩
      rw [nestedValues, List.foldl_append] at h
      change d ∈ nestStep (nestedValues vs) e at h
      unfold nestStep at h
      split at h
      · next path hpath =>
        obtain ⟨name, more, rfl, hchars⟩ := exists_of_pathOf? hpath
        obtain ⟨w, hput⟩ | hsame := nest_cases (Value.ofOption (e.2.map .text)) name more
          (nestedValues vs)
        · rw [hput] at h
          rcases Entries.mem_put h with hd | rfl
          · exact hrest hd
          · exact ⟨e, by simp, hchars⟩
        · rw [hsame] at h
          exact hrest h
      · exact hrest h

/-! ## Names in a JSON text -/

/-- The value of a name in entries whose names may differ from it in letter case: the last one. -/
def spelled? (es : Entries Value) (name : String) : Option Value :=
  (CommandLine.lastOf? (fun e => Text.sameLetters name e.1) es).map (·.2)

theorem lastOf?_eq_getLast? {α : Type} (p : α → Bool) (items : List α) :
    CommandLine.lastOf? p items = (items.filter p).getLast? := by
  rw [CommandLine.lastOf?, ← List.head?_filter, List.filter_reverse, List.head?_reverse]

/-- The name that an entry gets. -/
def respelling (fields : List FieldRule) (name : String) : String :=
  match fields.find? fun f => Text.sameLetters f.name name with
  | some f => f.name
  | none => name

theorem sameLetters_self (name : String) : Text.sameLetters name name = true :=
  decide_eq_true rfl

theorem respelling_eq_iff {fields : List FieldRule}
    (hapart : ∀ f ∈ fields, ∀ g ∈ fields, Text.sameLetters f.name g.name = true → f.name = g.name)
    {f : FieldRule} (hf : f ∈ fields) (name : String) :
    respelling fields name = f.name ↔ Text.sameLetters f.name name = true := by
  unfold respelling
  split
  · next g hg =>
    have hgname := List.find?_some (p := fun f : FieldRule => Text.sameLetters f.name name) hg
    constructor
    · intro heq
      rw [← heq]
      exact hgname
    · intro hfname
      refine hapart g (List.mem_of_find?_eq_some hg) f hf (decide_eq_true ?_)
      rw [of_decide_eq_true hgname, ← of_decide_eq_true hfname]
  · next hnone =>
    constructor
    · rintro rfl
      exact sameLetters_self _
    · intro hfname
      exact absurd hfname (List.find?_eq_none.1 hnone f hf)

/-- Once entries have the names of fields, a field has the last value that is spelled like it. -/
theorem get?_respell {fields : List FieldRule}
    (hapart : ∀ f ∈ fields, ∀ g ∈ fields, Text.sameLetters f.name g.name = true → f.name = g.name)
    {f : FieldRule} (hf : f ∈ fields) (es : Entries Value) :
    (respell fields es).get? f.name = spelled? es f.name := by
  have hmap : respell fields es =
      Entries.ofPairs (es.map fun e => (respelling fields e.1, e.2)) := by
    unfold respell respelling
    congr 2
    funext ⟨own, v⟩
    dsimp only
    cases fields.find? fun f => Text.sameLetters f.name own <;> rfl
  rw [hmap, CommandLine.get?_ofPairs_map, spelled?]
  congr 2
  funext e
  rw [Bool.eq_iff_iff, decide_eq_true_iff]
  exact respelling_eq_iff hapart hf e.1

theorem filter_sameLetters {es : Entries Value} {name : String} (hnodup : es.names.Nodup)
    (hexact : ∀ e ∈ es, Text.sameLetters name e.1 = true → e.1 = name) :
    es.filter (fun e => Text.sameLetters name e.1) = ((es.get? name).map (name, ·)).toList := by
  rw [← Entries.filter_name_eq hnodup]
  refine List.filter_congr fun e he => Bool.eq_iff_iff.2 ?_
  rw [decide_eq_true_iff]
  exact ⟨hexact e he, fun heq => heq ▸ sameLetters_self name⟩

theorem spelled?_eq_get? {es : Entries Value} {name : String} (hnodup : es.names.Nodup)
    (hexact : ∀ e ∈ es, Text.sameLetters name e.1 = true → e.1 = name) :
    spelled? es name = es.get? name := by
  rw [spelled?, lastOf?_eq_getLast?, filter_sameLetters hnodup hexact]
  cases es.get? name <;> rfl

/-- Entries in which the exact spelling of a name comes last, if it occurs. -/
def ExactLast (es : Entries Value) (name : String) : Prop :=
  ∀ e, CommandLine.lastOf? (fun e => Text.sameLetters name e.1) es = some e → es.has name = true →
    e.1 = name

/-- Over entries with an exact spelling that comes last, a name is what it is in exact spelling. -/
theorem spelled?_overlay {low high : Entries Value} {name : String} (hlow : low.names.Nodup)
    (hhigh : high.names.Nodup)
    (hexact : ∀ e ∈ high, Text.sameLetters name e.1 = true → e.1 = name)
    (hlast : high.has name = true → ExactLast low name) :
    (spelled? (overlay low high) name).map hollow =
      ((high.get? name).or (spelled? low name)).map hollow := by
  rw [spelled?, spelled?, lastOf?_eq_getLast?, lastOf?_eq_getLast?,
    filter_overlay fun own => Text.sameLetters name own, filter_sameLetters hhigh hexact]
  cases hget : high.get? name with
  | none => rfl
  | some v =>
    specialize hlast (by rw [Entries.has, hget]; rfl)
    rw [ExactLast, lastOf?_eq_getLast?] at hlast
    show Option.map hollow (Option.map _ (List.getLast? (Entries.put _ name _))) = _
    have hnames : (Entries.names (low.filter fun e => Text.sameLetters name e.1)).Nodup :=
      hlow.sublist (List.filter_sublist.map _)
    have hget : Entries.get? (low.filter fun e => Text.sameLetters name e.1) name = low.get? name := by
      rw [Entries.get?_filter fun own => Text.sameLetters name own,
        if_pos (sameLetters_self name)]
    generalize low.filter (fun e => Text.sameLetters name e.1) = alike at *
    -- the exact spelling is put where it stands, or at the end: the last one either way
    rcases List.eq_nil_or_concat' alike with rfl | ⟨init, e, rfl⟩
    · simp [Entries.put, hollow_written]
    · by_cases hhas : low.has name = true
      · obtain ⟨own, u⟩ := e
        obtain rfl : own = name := hlast (own, u) List.getLast?_concat hhas
        rw [Entries.names, List.map_append, List.map_singleton, ← List.concat_eq_append,
          List.nodup_concat] at hnames
        rw [Entries.put_concat hnames.1, List.getLast?_concat]
        simp [hollow_written]
      · have hnew : name ∉ Entries.names (init ++ [e]) := by
          rw [← Entries.get?_eq_none_iff, hget]
          simpa [Entries.has] using hhas
        rw [Entries.put_eq_append hnew, List.getLast?_concat]
        simp [hollow_written]

theorem isJson_of_readText {cs : List Char} {v : Value} (h : Json.readText cs = .ok v) : IsJson v := by
  unfold Json.readText at h
  split at h
  · exact nomatch h
  · exact Json.of_read Json.closed_isJson h

/-! ## The settings of logging -/

/-- The field that holds the settings of logging. -/
def groupField : FieldRule :=
  .defaulted "observability" (.record .observability .ignored Schema.observabilityFields)
    Schema.defaultObservability

/-- The JSON text of all settings of logging, if there is one. -/
def groupText? (vs : EnvFile.Variables) : Option String :=
  (vs.get? "bright_observability").join

/-- What a JSON text says about a setting of logging. -/
def jsonValue? (s : String) (name : String) : Option Value :=
  match Json.readText s.toList with
  | .ok (.map es) => spelled? es name
  | _ => none

/-- What variables say about a setting of logging: in a variable of its own, or else in the JSON text
    of all of them. -/
def inGroup? (vs : EnvFile.Variables) (name : String) : Option Value :=
  (exploded? vs name).or ((groupText? vs).bind fun s => jsonValue? s name)

/-- Whether nothing in the JSON text stands in the way of a setting in a variable of its own. -/
def Plain (vs : EnvFile.Variables) (name : String) : Prop :=
  exploded? vs name = none ∨
    ∀ s, groupText? vs = some s → ∃ es, Json.readText s.toList = .ok (.map es) ∧ ExactLast es name

/-- The value of a name in a map or a record. -/
def memberOf? (v : Option Value) (name : String) : Option Value :=
  match v with
  | some (.map es) => Entries.get? es name
  | some v => v.member? name
  | none => none

theorem innerFields?_groupField : innerFields? groupField = some Schema.observabilityFields := rfl

/-- What variables say about all settings of logging. -/
theorem fieldValue?_groupField (vs : EnvFile.Variables) : fieldValue? {} vs groupField =
    match groupText? vs with
    | none =>
      .ok (if (nestedValues vs).isEmpty then none
        else some (.map (respell Schema.observabilityFields (nestedValues vs))))
    | some s =>
      match Json.readText s.toList with
      | .error _ => .error .badSetting
      | .ok .null => .ok none
      | .ok (.map es) =>
        .ok (some (.map (respell Schema.observabilityFields (overlay es (nestedValues vs)))))
      | .ok v => .ok (some v) := by
  have hvariable : ({} : Naming).variableOf groupField.name = "bright_observability" := by
    decide +kernel
  have hname : groupField.name = "observability" := rfl
  unfold fieldValue? structured?
  rw [innerFields?_groupField, hvariable, hname, nested_eq]
  unfold groupText?
  cases (vs.get? "bright_observability").join with
  | none => cases nestedValues vs <;> rfl
  | some s =>
    have hnull : ({} : Naming).isNullText s = false := rfl
    simp only [hnull, Bool.false_eq_true, if_false]
    cases Json.readText s.toList with
    | error e => rfl
    | ok v => cases v <;> rfl

/-- The names of the settings of logging. -/
def groupNames : List String :=
  Schema.observabilityFields.map (·.name)

section

variable {name : String} (hname : name ∈ groupNames)
include hname

theorem undivided_of_mem : Undivided name := by
  have hcases : name = "log_level" ∨ name = "log_format" := by
    simpa [groupNames, Schema.observabilityFields, Schema.FieldRule.defaulted] using hname
  rcases hcases with rfl | rfl
  · exact fun _ => rfl
  · exact fun _ => rfl

theorem isOrdinary_of_mem : name.toList.all Text.isOrdinary = true :=
  (by decide : ∀ name ∈ groupNames, name.toList.all Text.isOrdinary = true) name hname

theorem lower_of_mem : Text.lower name = name :=
  (by decide +kernel : ∀ name ∈ groupNames, Text.lower name = name) name hname

theorem get?_respell_group (es : Entries Value) :
    (respell Schema.observabilityFields es).get? name = spelled? es name := by
  obtain ⟨f, hf, rfl⟩ := List.mem_map.1 hname
  refine get?_respell ?_ hf es
  decide +kernel

/-- A single setting that is spelled like a setting of logging has exactly its name. -/
theorem eq_of_nestedValues {vs : EnvFile.Variables} (hvs : Folded vs) {d : String × Value}
    (hd : d ∈ nestedValues vs) (hsame : Text.sameLetters name d.1 = true) : d.1 = name := by
  obtain ⟨e, he, hchars⟩ := exists_variable_of_nestedValues hd
  have hsmall : ∀ c ∈ d.1.toList, c.isUpper = false := fun c hc => hvs.small e he c (hchars c hc)
  rw [← String.ofList_toList (s := d.1)] at hsame ⊢
  exact Text.eq_of_sameLetters_lower (lower_of_mem hname) (isOrdinary_of_mem hname) hsmall hsame

/-- **What variables say about a setting of logging** comes from its own variable, or else from the
    JSON text, unless the text stands in the way. -/
theorem memberOf?_of_fieldValue? {vs : EnvFile.Variables} (hvs : Folded vs) (hplain : Plain vs name)
    {v : Option Value} (h : fieldValue? {} vs groupField = .ok v) :
    (memberOf? v name).map hollow = (inGroup? vs name).map hollow := by
  have hexploded := map_hollow_get?_nestedValues (undivided_of_mem hname) hvs.nodup
  have hnested := nodup_names_nestedValues vs
  have hexact := fun d hd => eq_of_nestedValues hname hvs (d := d) hd
  rw [fieldValue?_groupField] at h
  rw [inGroup?, Option.map_or, ← hexploded, map_hollow_map_hollow]
  cases htext : groupText? vs with
  | none =>
    rw [htext] at h
    obtain rfl := Except.ok.inj h
    rw [Option.bind_none, Option.map_none, Option.or_none]
    split
    · next hempty =>
      rw [List.isEmpty_iff.1 hempty]
      rfl
    · rw [memberOf?, get?_respell_group hname, spelled?_eq_get? hnested hexact]
  | some s =>
    rw [htext] at h
    -- a text that is no map hides variables, so none are there
    have hnone : (∀ es, Json.readText s.toList ≠ .ok (.map es)) →
        ((nestedValues vs).get? name).map hollow = none := by
      intro hnot
      refine hexploded.trans (hplain.resolve_right fun htexts => ?_)
      obtain ⟨es, hes, -⟩ := htexts s htext
      exact hnot es hes
    simp only [Option.bind_some, jsonValue?]
    dsimp only at h
    split at h
    · exact nomatch h
    · next hread =>
      obtain rfl := Except.ok.inj h
      rw [hnone (by simp [hread]), hread]
      rfl
    · next es hread =>
      obtain rfl := Except.ok.inj h
      have hjson : (Entries.names es).Nodup := by
        cases isJson_of_readText hread with
        | map hnames => exact hnames
      rw [memberOf?, get?_respell_group hname, spelled?_overlay hjson hnested hexact, Option.map_or,
        hread]
      intro hhas
      have hne : exploded? vs name ≠ none := by
        rw [← hexploded]
        simpa [Entries.has, Option.isSome_iff_ne_none] using hhas
      obtain ⟨es', hes', hlast⟩ := hplain.resolve_left hne s htext
      obtain rfl : es = es' := by simpa [hread] using hes'
      exact hlast
    · next v hnull hmap hread =>
      obtain rfl := Except.ok.inj h
      rw [hnone (by simpa [hread] using hmap), hread]
      cases isJson_of_readText hread with
      | @map es => exact absurd rfl (hmap es)
      | _ => rfl

end

end SearchClient.Settings
