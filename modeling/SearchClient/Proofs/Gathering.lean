import Mathlib
import SearchClient.Proofs.Records
import SearchClient.Proofs.Variables
import SearchClient.Settings.Load

set_option autoImplicit false

/-! # What settings are gathered from

Unless keywords say how other sources are read, settings depend on what the keywords, the environment
and the environment file tell (`load_eq`). They load if these can be read, declare all that they name,
and give each field a value that it takes (`Told.gather_eq_ok_iff`). -/

namespace SearchClient.Settings

open Failure (Problem)
open Schema (FieldRule membersOf)

/-- What the keywords tell, and the variables of the environment and of the environment file by their
    names without letter case. -/
structure Told where
  keywords : Entries Value
  environment : EnvFile.Variables
  file : EnvFile.Variables

/-- What is told where no keyword says how to read. -/
def told (h : Host) (keywords : Entries Value) : Except Problem Told := do
  let file ← fileVariables h {} ({} : Sources).envFiles
  let environment := ({} : Naming).select (h.environment.map fun (name, s) => (name, some s))
  return ⟨keywords, environment, file⟩

namespace Told

/-- All that is told, each source over the ones behind it. -/
def gather (t : Told) : Except Problem (Entries Value) := do
  let environment ← layer {} t.environment Schema.settingsFields
  let file ← fileLayer {} t.file
  return overlay file (overlay environment (keywordLayer {} t.keywords Schema.settingsFields))

/-- The settings that are told. -/
def load (t : Told) : Except Problem Settings := do
  let state ← t.gather
  let record ← (Record.check .settings (.map state)).mapError .refused
  return ofRecord record

end Told

/-! ## Keywords that say how to read -/

namespace Sources

theorem applyNaming_of_notMem (n : Naming) {name : String} (h : name ∉ reserved) (v : Value) :
    applyNaming n name v = .ok n := by
  unfold applyNaming
  split <;> first | rfl | exact absurd (by decide) h

theorem applyArguments_of_notMem (a : ArgumentStyle) {name : String} (h : name ∉ reserved) (v : Value) :
    applyArguments a name v = a := by
  unfold applyArguments
  split <;> first | rfl | exact absurd (by decide) h

theorem apply_of_notMem (s : Sources) {name : String} (h : name ∉ reserved ++ impossible) (v : Value) :
    s.apply name v = .ok s := by
  rw [List.mem_append, not_or] at h
  have hne : ∀ other ∈ reserved, name ≠ other := fun other hother heq => h.1 (heq ▸ hother)
  unfold apply
  rw [if_neg (by simpa using h.2), if_neg (hne _ (by decide)), if_neg (hne _ (by decide)),
    if_neg (hne _ (by decide)), if_neg (hne _ (by decide)), applyNaming_of_notMem _ h.1,
    applyArguments_of_notMem _ h.1]
  cases v.isNull <;> rfl

/-- Only keywords that say how to read count for how the other sources are read. -/
theorem ofKeywords_filter (keywords : Entries Value) :
    ofKeywords (keywords.filter fun e => (reserved ++ impossible).contains e.1) =
      ofKeywords keywords := by
  unfold ofKeywords
  generalize ({} : Sources) = s
  induction keywords generalizing s with
  | nil => rfl
  | cons e keywords ih =>
      rw [List.filter_cons, List.foldlM_cons]
      split
      · rw [List.foldlM_cons]
        exact congrArg _ (funext ih)
      · next hother =>
        have hsame : s.apply e.1 e.2 = .ok s :=
          apply_of_notMem s (fun hmem => hother (List.contains_iff_mem.2 hmem)) e.2
        rw [ih s]
        change _ = s.apply e.1 e.2 >>= _
        rw [hsame]
        rfl

/-- Keywords of other names leave it as it is how the other sources are read. -/
theorem ofKeywords_of_notMem {keywords : Entries Value}
    (h : ∀ name ∈ keywords.names, name ∉ reserved ++ impossible) : ofKeywords keywords = .ok {} := by
  have hnone : keywords.filter (fun e => (reserved ++ impossible).contains e.1) = [] :=
    List.filter_eq_nil_iff.2 fun e he hway =>
      h e.1 (List.mem_map_of_mem he) (List.contains_iff_mem.1 hway)
  rw [← ofKeywords_filter, hnone]
  rfl

end Sources

/-! ## Sources that are not there -/

/-- What variables say about a field, if they can be read. -/
def said? (n : Naming) (vs : EnvFile.Variables) (f : FieldRule) : Option Value :=
  (fieldValue? n vs f).toOption.join

/-- A layer is read if each field is, and has what is said about each of them. -/
theorem layer_eq_ok_iff {n : Naming} {vs : EnvFile.Variables} {fields : List FieldRule}
    {es : Entries Value} : layer n vs fields = .ok es ↔
      (∀ f ∈ fields, ∃ v, fieldValue? n vs f = .ok v) ∧ es = membersOf (said? n vs) fields := by
  induction fields generalizing es with
  | nil => simp [layer, membersOf, eq_comm]
  | cons f fields ih =>
      rw [layer, List.forall_mem_cons, Schema.membersOf_cons]
      constructor
      · intro h
        obtain ⟨v, hv, h⟩ := bind_eq_ok_iff.1 h
        obtain ⟨rest, hrest, h⟩ := bind_eq_ok_iff.1 h
        obtain ⟨hfields, rfl⟩ := ih.1 hrest
        refine ⟨⟨⟨v, hv⟩, hfields⟩, ?_⟩
        rw [said?, hv]
        cases v <;> exact (Except.ok.inj h).symm
      · rintro ⟨⟨⟨v, hv⟩, hfields⟩, rfl⟩
        rw [said?, hv, ih.2 ⟨hfields, rfl⟩]
        cases v <;> rfl

theorem nodup_names_membersOf {value : FieldRule → Option Value} {fields : List FieldRule}
    (h : (fields.map (·.name)).Nodup) : (membersOf value fields).names.Nodup := by
  refine h.sublist ?_
  induction fields with
  | nil => exact List.Sublist.refl _
  | cons f fields ih =>
      rw [Schema.membersOf_cons]
      cases value f with
      | none => exact (ih (List.nodup_cons.1 h).2).cons _
      | some v => exact (ih (List.nodup_cons.1 h).2).cons_cons _

theorem nodup_names_layer {n : Naming} {vs : EnvFile.Variables} {fields : List FieldRule}
    (hnodup : (fields.map (·.name)).Nodup) {es : Entries Value} (h : layer n vs fields = .ok es) :
    es.names.Nodup := by
  rw [(layer_eq_ok_iff.1 h).2]
  exact nodup_names_membersOf hnodup

theorem nodup_names_fileLayer {n : Naming} {vs : EnvFile.Variables} {es : Entries Value}
    (h : fileLayer n vs = .ok es) : es.names.Nodup := by
  obtain ⟨taken, htaken, h⟩ := bind_eq_ok_iff.1 h
  obtain rfl := Except.ok.inj h
  exact Entries.nodup_names_merge (nodup_names_layer (by decide) htaken)

theorem gather_eq (h : Host) {keywords : Entries Value}
    (hsources : Sources.ofKeywords keywords = .ok {}) :
    gather h keywords = told h keywords >>= Told.gather := by
  have harguments : argumentVariables {} Schema.settingsFields = .ok ({}, []) := rfl
  have hgiven : layer {} [] Schema.settingsFields = .ok [] := rfl
  have hsecrets : secretLayer h {} Schema.settingsFields = .ok [] := rfl
  unfold gather told Told.gather
  rw [hsources]
  dsimp only [bind, Except.bind]
  cases fileVariables h {} ({} : Sources).envFiles with
  | error e => rfl
  | ok file =>
    simp only [harguments, hgiven, hsecrets]
    show _ = Except.bind (layer {} _ _) _
    cases layer {} (({} : Naming).select _) Schema.settingsFields with
    | error e => rfl
    | ok environment =>
      cases hfile : fileLayer {} file with
      | error e => rfl
      | ok low =>
        exact congrArg Except.ok (overlay_nil (nodup_names_overlay
          (overlay environment (keywordLayer {} keywords Schema.settingsFields))
          (nodup_names_fileLayer hfile)))

/-- **Where no keyword says how to read**, settings are what is told. -/
theorem load_eq (h : Host) {keywords : Entries Value}
    (hsources : Sources.ofKeywords keywords = .ok {}) :
    load h keywords = told h keywords >>= Told.load := by
  rw [load, gather_eq h hsources, bind_assoc]
  rfl

/-! ## Keywords -/

/-- The value of the first keyword that names a field. -/
def keyword? (keywords : Entries Value) (name : String) : Option Value :=
  (keywords.find? fun e => Text.sameLetters e.1 name).map (·.2)

/-- The keywords that neither name a field nor say how to read. -/
def otherKeywords (keywords : Entries Value) : Entries Value :=
  (keywords.filter fun e => !Sources.reserved.contains e.1).filter fun e =>
    !Schema.settingsFields.any fun f => Text.sameLetters e.1 f.name

theorem keywordLayer_eq (keywords : Entries Value) :
    keywordLayer {} keywords Schema.settingsFields =
      membersOf (fun f => keyword? keywords f.name) Schema.settingsFields ++
        otherKeywords keywords := by
  -- no field is left out with the keywords that say how to read
  have hreserved : ∀ f ∈ Schema.settingsFields, ∀ name ∈ Sources.reserved,
      Text.sameLetters name f.name = false := by
    decide +kernel
  unfold keywordLayer otherKeywords membersOf keyword?
  refine congrArg (· ++ _) (List.filterMap_congr fun f hf => ?_)
  rw [Option.map_map, List.find?_filter]
  refine congrArg (Option.map _) (congrFun (congrArg List.find? (funext fun e => ?_)) _)
  show decide ((!Sources.reserved.contains e.1) = true ∧ Text.sameLetters e.1 f.name = true) = _
  cases hsame : Text.sameLetters e.1 f.name with
  | false => simp
  | true =>
    have hnot : e.1 ∉ Sources.reserved := by
      intro hmem
      rw [hreserved f hf e.1 hmem] at hsame
      exact nomatch hsame
    simpa using hnot

/-- The names of the fields of the settings. -/
def fieldNames : List String :=
  Schema.settingsFields.map (·.name)

theorem nodup_fieldNames : fieldNames.Nodup := by decide

theorem notMem_of_otherKeywords {keywords : Entries Value} {e : String × Value}
    (h : e ∈ otherKeywords keywords) : e.1 ∉ fieldNames := by
  intro hname
  obtain ⟨f, hf, hname⟩ := List.mem_map.1 hname
  have hnot := (List.mem_filter.1 h).2
  rw [Bool.not_eq_true', List.any_eq_false] at hnot
  exact hnot f hf (hname ▸ sameLetters_self f.name)

/-! ## The environment file -/

/-- What an environment file says about the fields. -/
def taken (vs : EnvFile.Variables) : Entries Value :=
  membersOf (said? {} vs) Schema.settingsFields

theorem mem_fieldNames_of_membersOf {value : FieldRule → Option Value} {name : String}
    (h : name ∈ (membersOf value Schema.settingsFields).names) : name ∈ fieldNames := by
  obtain ⟨e, he, rfl⟩ := List.mem_map.1 h
  obtain ⟨f, hf, he⟩ := List.mem_filterMap.1 he
  obtain ⟨v, -, rfl⟩ := Option.map_eq_some_iff.1 he
  exact List.mem_map_of_mem hf

/-- A variable of an environment file that counts, and that no field takes. -/
def Undeclared (e : String × Option String) : Prop :=
  (∃ s, e.2 = some s ∧ s ≠ "") ∧ e.1 ∉ fieldNames ∧
    ∀ f ∈ Schema.settingsFields, belongsTo {} e.1 f = false

theorem mem_leftovers_iff {vs : EnvFile.Variables} {d : String × Value} :
    d ∈ leftovers {} vs Schema.settingsFields (taken vs) ↔
      ∃ e ∈ vs, Undeclared e ∧ d = (e.1, .text (e.2.getD "")) := by
  have hstem : ({} : Naming).stem.isEmpty = false := by decide
  have hbare : ∀ name : String, (Schema.settingsFields.any fun f => decide (f.name = name)) = true ↔
      name ∈ fieldNames := by
    intro name
    simp [fieldNames]
  have htaken : ∀ name, (taken vs).has name = true → name ∈ fieldNames := fun name h =>
    mem_fieldNames_of_membersOf ((Entries.mem_names_iff _ _).2 h)
  unfold leftovers
  rw [List.mem_filterMap]
  refine exists_congr fun e => and_congr_right fun _ => ?_
  obtain ⟨name, v⟩ := e
  cases v with
  | none => simp [Undeclared]
  | some s =>
    simp only [hstem, Bool.not_false, Bool.true_and, Option.ite_none_left_eq_some, Bool.or_eq_true,
      not_or, hbare, Option.some.injEq, Option.getD_some, Undeclared, exists_eq_left', and_assoc,
      String.isEmpty_iff, List.any_eq_true, not_exists, not_and, Bool.not_eq_true]
    constructor
    · rintro ⟨hs, -, hname, hfree, rfl⟩
      exact ⟨hs, hname, hfree, rfl⟩
    · rintro ⟨hs, hname, hfree, rfl⟩
      exact ⟨hs, by simpa using mt (htaken name) hname, hname, hfree, rfl⟩

theorem leftovers_eq_nil_iff {vs : EnvFile.Variables} :
    leftovers {} vs Schema.settingsFields (taken vs) = [] ↔ ∀ e ∈ vs, ¬Undeclared e := by
  rw [List.eq_nil_iff_forall_not_mem]
  constructor
  · exact fun h e he hundeclared => h _ (mem_leftovers_iff.2 ⟨e, he, hundeclared, rfl⟩)
  · intro h d hd
    obtain ⟨e, he, hundeclared, -⟩ := mem_leftovers_iff.1 hd
    exact h e he hundeclared

/-! ## All that is told -/

/-- A field without fields of its own is what its variable holds, if it has a value. -/
theorem fieldValue?_single (vs : EnvFile.Variables) {f : FieldRule} (h : innerFields? f = none) :
    fieldValue? {} vs f = .ok ((vs.get? (({} : Naming).variableOf f.name)).join.map .text) := by
  unfold fieldValue?
  rw [h]
  rfl

/-- Variables whose text of the settings of logging, if there is one, is a JSON text. -/
def Readable (vs : EnvFile.Variables) : Prop :=
  ∃ v, fieldValue? {} vs groupField = .ok v

theorem readable_iff {vs : EnvFile.Variables} :
    Readable vs ↔ ∀ f ∈ Schema.settingsFields, ∃ v, fieldValue? {} vs f = .ok v := by
  constructor
  · intro h f hf
    rcases List.mem_cons.1 hf with rfl | hf
    · exact ⟨_, fieldValue?_single vs rfl⟩
    rcases List.mem_cons.1 hf with rfl | hf
    · exact ⟨_, fieldValue?_single vs rfl⟩
    rcases List.mem_cons.1 hf with rfl | hf
    · exact ⟨_, fieldValue?_single vs rfl⟩
    obtain rfl := List.mem_singleton.1 hf
    exact h
  · intro h
    exact h groupField (by simp [Schema.settingsFields, groupField])

theorem layer_settings_eq_ok_iff {vs : EnvFile.Variables} {es : Entries Value} :
    layer {} vs Schema.settingsFields = .ok es ↔ Readable vs ∧ es = taken vs := by
  rw [layer_eq_ok_iff, readable_iff]
  rfl

theorem fileLayer_eq_ok_iff {vs : EnvFile.Variables} {es : Entries Value} :
    fileLayer {} vs = .ok es ↔ Readable vs ∧
      es = (taken vs).merge (leftovers {} vs Schema.settingsFields (taken vs)) := by
  unfold fileLayer
  rw [bind_eq_ok_iff]
  constructor
  · rintro ⟨here, hhere, h⟩
    obtain ⟨hread, rfl⟩ := layer_settings_eq_ok_iff.1 hhere
    exact ⟨hread, (Except.ok.inj h).symm⟩
  · rintro ⟨hread, rfl⟩
    exact ⟨taken vs, layer_settings_eq_ok_iff.2 ⟨hread, rfl⟩, rfl⟩

namespace Told

/-- All that is told about a field, each source over the ones behind it. -/
def about? (t : Told) (f : FieldRule) : Option Value :=
  stacked (said? {} t.file f) (stacked (said? {} t.environment f) (keyword? t.keywords f.name))

/-- Whether all names that are told are declared. -/
structure Declares (t : Told) : Prop where
  keywords : otherKeywords t.keywords = []
  file : ∀ e ∈ t.file, ¬Undeclared e

/-- All that is told, where it can be read. -/
def state (t : Told) : Entries Value :=
  overlay ((taken t.file).merge (leftovers {} t.file Schema.settingsFields (taken t.file)))
    (overlay (taken t.environment) (keywordLayer {} t.keywords Schema.settingsFields))

theorem gather_eq_ok_iff {t : Told} {es : Entries Value} :
    t.gather = .ok es ↔ Readable t.environment ∧ Readable t.file ∧ es = t.state := by
  unfold gather
  rw [bind_eq_ok_iff]
  constructor
  · rintro ⟨environment, henvironment, h⟩
    obtain ⟨file, hfile, h⟩ := bind_eq_ok_iff.1 h
    obtain ⟨hread, rfl⟩ := layer_settings_eq_ok_iff.1 henvironment
    obtain ⟨hreadFile, rfl⟩ := fileLayer_eq_ok_iff.1 hfile
    exact ⟨hread, hreadFile, (Except.ok.inj h).symm⟩
  · rintro ⟨hread, hreadFile, rfl⟩
    rw [layer_settings_eq_ok_iff.2 ⟨hread, rfl⟩, fileLayer_eq_ok_iff.2 ⟨hreadFile, rfl⟩]
    exact ⟨_, rfl, rfl⟩

/-- Where all names are declared, each field is what is told about it. -/
theorem get?_state {t : Told} (h : t.Declares) {f : FieldRule} (hf : f ∈ Schema.settingsFields) :
    t.state.get? f.name = t.about? f := by
  have hnodup : ∀ value : FieldRule → Option Value,
      (membersOf value Schema.settingsFields).names.Nodup := fun value =>
    nodup_names_membersOf nodup_fieldNames
  have hget : ∀ value : FieldRule → Option Value,
      (membersOf value Schema.settingsFields).get? f.name = value f := fun value =>
    Schema.get?_membersOf nodup_fieldNames hf
  have hupper : (overlay (taken t.environment)
      (membersOf (fun f => keyword? t.keywords f.name) Schema.settingsFields)).names.Nodup :=
    nodup_names_overlay _ (hnodup _)
  unfold state
  rw [leftovers_eq_nil_iff.2 h.file, keywordLayer_eq, h.keywords, List.append_nil,
    get?_overlay hupper, get?_overlay (hnodup _), hget]
  show stacked (Entries.get? (taken t.file) _) (stacked (Entries.get? (taken t.environment) _) _) = _
  rw [taken, taken, hget, hget]
  rfl

/-- What is told holds no other names exactly if all that are told are declared. -/
theorem names_state_iff {t : Told} : (∀ name ∈ t.state.names, name ∈ fieldNames) ↔ t.Declares := by
  have hhas : ∀ name, name ∈ t.state.names ↔ name ∈ (taken t.file).names ∨
      name ∈ (leftovers {} t.file Schema.settingsFields (taken t.file)).names ∨
      name ∈ (taken t.environment).names ∨
      name ∈ (membersOf (fun f => keyword? t.keywords f.name) Schema.settingsFields).names ∨
      name ∈ (otherKeywords t.keywords).names := by
    intro name
    rw [state, keywordLayer_eq]
    simp only [Entries.mem_names_iff, has_overlay, Entries.has_merge, Entries.has_append,
      Bool.or_eq_true, or_assoc]
  constructor
  · intro h
    constructor
    · refine List.eq_nil_iff_forall_not_mem.2 fun e he => notMem_of_otherKeywords he (h _ ?_)
      exact (hhas _).2 (.inr (.inr (.inr (.inr (List.mem_map_of_mem he)))))
    · intro e he hundeclared
      refine hundeclared.2.1 (h _ ((hhas _).2 (.inr (.inl ?_))))
      exact List.mem_map.2 ⟨_, mem_leftovers_iff.2 ⟨e, he, hundeclared, rfl⟩, rfl⟩
  · intro h name hname
    rcases (hhas name).1 hname with htaken | hleft | htaken | hkeyword | hother
    · exact mem_fieldNames_of_membersOf htaken
    · rw [leftovers_eq_nil_iff.2 h.file] at hleft
      exact absurd hleft List.not_mem_nil
    · exact mem_fieldNames_of_membersOf htaken
    · exact mem_fieldNames_of_membersOf hkeyword
    · rw [h.keywords] at hother
      exact absurd hother List.not_mem_nil

end Told

end SearchClient.Settings
