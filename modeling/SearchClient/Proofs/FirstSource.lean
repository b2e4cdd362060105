import Mathlib
import SearchClient.Proofs.Leaves

set_option autoImplicit false

/-! # The first source

Keywords, the environment and the environment file may each say something about a setting. What is
told about it is what the first of them says that says anything (`Told.map_hollow_leaf?`), unless the
JSON text of the settings of logging stands in the way of a variable. -/

namespace SearchClient.Settings

open Schema

/-! ## The first source -/

namespace Leaf

/-- What keywords say about a setting. -/
def inKeywords? (l : Leaf) (keywords : Entries Value) : Option Value :=
  if l.inLogging then memberOf? (keyword? keywords groupField.name) l.field.name
  else keyword? keywords l.field.name

/-- What variables say about a setting: in a variable of its own, or else, about one of logging, in
    the JSON text of all of them. -/
def inVariables? (l : Leaf) (vs : EnvFile.Variables) : Option Value :=
  if l.inLogging then inGroup? vs l.field.name
  else (vs.get? ("bright_" ++ l.field.name)).join.map .text

/-- Whether nothing in the JSON text of the settings of logging stands in the way of a setting in a
    variable of its own. -/
def PlainIn (l : Leaf) (vs : EnvFile.Variables) : Prop :=
  l.inLogging = true → Plain vs l.field.name

theorem said?_field {l : Leaf} (hl : l.inLogging = false) (vs : EnvFile.Variables) :
    said? {} vs l.field = l.inVariables? vs := by
  have hvariable : ({} : Naming).variableOf l.field.name = "bright_" ++ l.field.name := by
    cases l <;> decide +kernel
  have hinner : innerFields? l.field = none := by
    cases l <;> rfl
  rw [said?, fieldValue?_single vs hinner, hvariable, inVariables?, hl]
  rfl

theorem mem_groupNames {l : Leaf} (hl : l.inLogging = true) : l.field.name ∈ groupNames :=
  List.mem_map_of_mem (field_mem_logging hl)

/-- Where nothing stands in the way, what variables say about a setting of logging is a part of what
    they say about all of them. -/
theorem memberOf?_said? {l : Leaf} (hl : l.inLogging = true) {vs : EnvFile.Variables}
    (hvs : Folded vs) (hread : Readable vs) (hplain : l.PlainIn vs) :
    (memberOf? (said? {} vs groupField) l.field.name).map hollow = (l.inVariables? vs).map hollow := by
  obtain ⟨v, hv⟩ := hread
  have hsaid : said? {} vs groupField = v := by rw [said?, hv]; rfl
  rw [hsaid, inVariables?, if_pos hl]
  exact memberOf?_of_fieldValue? (mem_groupNames hl) hvs (hplain hl) hv

end Leaf

/-! ## Stacks of groups -/

theorem isGroup_of_written {low : Option Value} {v : Value} (h : IsGroup (written low v)) :
    IsGroup v := by
  cases v with
  | map es => exact Or.inl ⟨es, rfl⟩
  | _ => exact h

theorem isGroup_of_hollow {v w : Value} (h : hollow v = hollow w) (hv : IsGroup v) : IsGroup w := by
  rcases hollow_cases w with ⟨es, rfl⟩ | hw
  · exact Or.inl ⟨es, rfl⟩
  · rw [← hw, ← h]
    rcases hv with ⟨es, rfl⟩ | ⟨fields, extra, given, rfl⟩
    · exact Or.inl ⟨[], rfl⟩
    · exact Or.inr ⟨fields, extra, given, rfl⟩

theorem nodup_of_stacked {low high : Option Value}
    (hlow : ∀ es, low = some (.map es) → (Entries.names es).Nodup)
    (hhigh : ∀ es, high = some (.map es) → (Entries.names es).Nodup) {es : Entries Value}
    (h : stacked low high = some (.map es)) : (Entries.names es).Nodup := by
  cases high with
  | none => exact hlow es h
  | some v =>
    have hw : written low v = .map es := Option.some.inj h
    cases v with
    | map upper =>
      unfold written at hw
      split at hw
      · next lower =>
        rw [← Value.map.inj hw]
        exact nodup_names_overlay _ (hlow lower rfl)
      · rw [← Value.map.inj hw]
        exact hhigh upper rfl
    | _ => exact nomatch hw

/-- A name in what is said of a group has what the upper source says, and else what the lower one
    says. -/
theorem memberOf?_stacked {low high : Option Value} {name : String}
    (hgroup : ∀ v, high = some v → IsGroup v)
    (hnodup : ∀ es, high = some (.map es) → (Entries.names es).Nodup)
    (hrecord : ∀ model fields extra given, high = some (.record model fields extra given) →
      (memberOf? high name).isSome = true)
    (hlow : ∀ model fields extra given, low ≠ some (.record model fields extra given)) :
    (memberOf? (stacked low high) name).map hollow =
      ((memberOf? high name).map hollow).or ((memberOf? low name).map hollow) := by
  cases high with
  | none => rfl
  | some v =>
    rcases hgroup v rfl with ⟨upper, rfl⟩ | ⟨fields, extra, given, rfl⟩
    · rcases low with _ | w
      · exact Option.or_none.symm
      · cases w with
        | map lower =>
          have hover : memberOf? (stacked (some (.map lower)) (some (.map upper))) name =
              stacked (Entries.get? lower name) (Entries.get? upper name) :=
            get?_overlay (hnodup upper rfl) name
          rw [hover, map_hollow_stacked]
          rfl
        | record model fields extra given => exact absurd rfl (hlow model fields extra given)
        | _ => exact Option.or_none.symm
    · obtain ⟨w, hw⟩ := Option.isSome_iff_exists.1 (hrecord _ _ _ _ rfl)
      have hsame : stacked low (some (.record .observability fields extra given)) =
          some (.record .observability fields extra given) := rfl
      rw [hsame, hw]
      rfl

namespace Told

/-- What the first source says that says anything about a setting. -/
def first? (t : Told) (l : Leaf) : Option Value :=
  (l.inKeywords? t.keywords).or ((l.inVariables? t.environment).or (l.inVariables? t.file))

/-- Whether nothing stands in the way of what the sources say about a setting in variables of its
    own, as far as they are looked at. -/
def Plain (t : Told) (l : Leaf) : Prop :=
  l.inKeywords? t.keywords = none →
    l.PlainIn t.environment ∧ (l.inVariables? t.environment = none → l.PlainIn t.file)

variable {t : Told}

theorem isSome_of_record (hmade : Made t.keywords) {l : Leaf} (hl : l.inLogging = true) {model : Model}
    {fields extra : Entries Value} {given : List String}
    (h : keyword? t.keywords groupField.name = some (.record model fields extra given)) :
    (memberOf? (some (.record model fields extra given)) l.field.name).isSome = true := by
  obtain ⟨es, hes⟩ := hmade.record _ _ _ _ h
  have hfield : l.field ∈ fieldsOf .observability := Leaf.field_mem_logging hl
  obtain ⟨w, -, hmember⟩ := Leaf.member?_of_check hfield hes
  exact Option.isSome_iff_exists.2 ⟨w, hmember⟩

/-- **The first source counts.** What is told about a setting is what the first source says that says
    anything about it. -/
theorem map_hollow_leaf? (hmade : Made t.keywords) (henvironment : Folded t.environment)
    (hfile : Folded t.file) (hload : t.Loadable) {l : Leaf} (hplain : t.Plain l) :
    (t.leaf? l).map hollow = (t.first? l).map hollow := by
  unfold leaf? first?
  cases hl : l.inLogging with
  | false =>
    rw [if_neg Bool.false_ne_true, about?, map_hollow_stacked, map_hollow_stacked,
      Leaf.said?_field hl, Leaf.said?_field hl, Leaf.inKeywords?, hl, Option.map_or, Option.map_or,
      Option.or_assoc]
    rfl
  | true =>
    have hkeywords : l.inKeywords? t.keywords =
        memberOf? (keyword? t.keywords groupField.name) l.field.name := by
      rw [Leaf.inKeywords?, if_pos hl]
    have hnodup : ∀ vs es, said? {} vs groupField = some (.map es) → (Entries.names es).Nodup :=
      fun vs es h => (said?_groupField h).1 es rfl
    have hnone : ∀ vs model fields extra given,
        said? {} vs groupField ≠ some (.record model fields extra given) := fun vs _ _ _ _ h =>
      (said?_groupField h).2 _ _ _ _ rfl
    have hupper : ∀ v, stacked (said? {} t.environment groupField)
        (keyword? t.keywords groupField.name) = some v → IsGroup v := fun v hv =>
      isGroup_of_written (hload.group _ (by rw [about?, hv]; rfl))
    have hkeyword : ∀ v, keyword? t.keywords groupField.name = some v → IsGroup v := fun v hv =>
      isGroup_of_written (hupper _ (by rw [hv]; rfl))
    -- keywords over the environment, and both over the file
    rw [if_pos rfl, about?, memberOf?_stacked hupper (fun es => nodup_of_stacked (hnodup _) hmade.map)
      ?_ (hnone _), memberOf?_stacked hkeyword hmade.map ?_ (hnone _), ← hkeywords, Option.map_or,
      Option.map_or, Option.or_assoc]
    · cases hdefined : l.inKeywords? t.keywords with
      | some v => rfl
      | none =>
        obtain ⟨hplainEnvironment, hplainFile⟩ := hplain hdefined
        rw [Leaf.memberOf?_said? hl henvironment hload.environment hplainEnvironment]
        cases hdefined : l.inVariables? t.environment with
        | some v => rfl
        | none => rw [Leaf.memberOf?_said? hl hfile hload.file (hplainFile hdefined)]
    · intro model fields extra given h
      rw [h]
      exact isSome_of_record hmade hl h
    · intro model fields extra given h
      rw [h]
      refine isSome_of_record hmade hl ((stacked_eq_record h).resolve_right (hnone _ _ _ _ _))

/-- Settings load exactly if what is told can be loaded, and a check takes of each setting what the
    first source says. -/
theorem load_eq_ok_iff_first (hmade : Made t.keywords) (henvironment : Folded t.environment)
    (hfile : Folded t.file) (hplain : ∀ l, t.Plain l) {s : Settings} :
    t.load = .ok s ↔ t.Loadable ∧ ∀ l : Leaf, l.verdict (t.first? l) = .ok (l.get s) := by
  rw [load_eq_ok_iff hmade]
  refine and_congr_right fun hload => forall_congr' fun l => Leaf.verdict_congr ?_
  exact map_hollow_leaf? hmade henvironment hfile hload (hplain l)

end Told

end SearchClient.Settings
