import Mathlib
import SearchClient.Proofs.FirstSource

set_option autoImplicit false

/-! # Definitions behind others

What a source says about a setting does not count if a source in front says something about it. So it
can be deleted, be it a variable of its own or an entry of the JSON text of the settings of logging,
or the text if it has no other entry: the settings load still, and are what they were
(`Told.load_of_deletes`). -/

namespace SearchClient.Settings

open Schema

/-! ## Deletions -/

/-- The entries that are not spelled like a name. -/
def withoutName (es : Entries Value) (name : String) : Entries Value :=
  es.filter fun e => !Text.sameLetters name e.1

namespace Leaf

/-- Whether a variable is one of a setting alone. -/
def owns (l : Leaf) (full : String) : Bool :=
  if l.inLogging then full = groupStem ++ l.field.name || deepStem l.field.name <+: full.toList
  else full = "bright_" ++ l.field.name

/-- Deleting what variables say about a setting that a source `ahead` of them says something about:
    its own variables, or what the JSON text says about it, which these are ahead of as well. A text
    that says nothing else can be deleted as a whole. -/
inductive Drops (l : Leaf) (vs : EnvFile.Variables) (ahead : Option Value) :
    EnvFile.Variables → Prop
  | single (hahead : ahead.isSome = true) : Drops l vs ahead (vs.filter fun e => !l.owns e.1)
  | json {s s' : String} {es : Entries Value} (hl : l.inLogging = true)
      (hahead : (ahead.or (exploded? vs l.field.name)).isSome = true)
      (htext : groupText? vs = some s) (hread : Json.readText s.toList = .ok (.map es))
      (hread' : Json.readText s'.toList = .ok (.map (withoutName es l.field.name))) :
      Drops l vs ahead (vs.put "bright_observability" (some s'))
  | text {s : String} {es : Entries Value} (hl : l.inLogging = true)
      (hahead : (ahead.or (exploded? vs l.field.name)).isSome = true)
      (htext : groupText? vs = some s) (hread : Json.readText s.toList = .ok (.map es))
      (honly : withoutName es l.field.name = []) :
      Drops l vs ahead (vs.filter fun e => e.1 ≠ "bright_observability")

theorem eq_of_name {l l' : Leaf} (h : l.field.name = l'.field.name) : l = l' := by
  cases l <;> cases l' <;> first | rfl | exact absurd h (by decide)

theorem owns_iff_pathOf? {l : Leaf} (hl : l.inLogging = true) {full : String} :
    l.owns full = true ↔ ∃ path, pathOf? full = some (l.field.name :: path) := by
  have hname := undivided_of_mem (mem_groupNames hl)
  rw [owns, if_pos hl, Bool.or_eq_true, decide_eq_true_iff, decide_eq_true_iff,
    ← pathOf?_eq_single_iff hname, ← exists_pathOf?_iff hname]
  constructor
  · rintro (h | ⟨next, path, h⟩)
    · exact ⟨_, h⟩
    · exact ⟨_, h⟩
  · rintro ⟨path, h⟩
    cases path with
    | nil => exact Or.inl h
    | cons next path => exact Or.inr ⟨next, path, h⟩

theorem owns_iff_eq {l : Leaf} (hl : l.inLogging = false) {full : String} :
    l.owns full = true ↔ full = "bright_" ++ l.field.name := by
  rw [owns, hl, if_neg Bool.false_ne_true, decide_eq_true_iff]

theorem pathOf?_single {l : Leaf} (hl : l.inLogging = false) :
    pathOf? ("bright_" ++ l.field.name) = none := by
  cases l with
  | logLevel => exact nomatch hl
  | logFormat => exact nomatch hl
  | _ => decide

/-- No variable is one of two settings. -/
theorem eq_of_owns {l l' : Leaf} {full : String} (h : l.owns full = true) (h' : l'.owns full = true) :
    l = l' := by
  cases hl : l.inLogging with
  | false =>
    rw [owns_iff_eq hl] at h
    cases hl' : l'.inLogging with
    | false =>
      rw [owns_iff_eq hl', h] at h'
      exact eq_of_name (by simpa using h')
    | true =>
      obtain ⟨path, hpath⟩ := (owns_iff_pathOf? hl').1 h'
      rw [h, pathOf?_single hl] at hpath
      exact nomatch hpath
  | true =>
    obtain ⟨path, hpath⟩ := (owns_iff_pathOf? hl).1 h
    cases hl' : l'.inLogging with
    | false =>
      rw [(owns_iff_eq hl').1 h', pathOf?_single hl'] at hpath
      exact nomatch hpath
    | true =>
      obtain ⟨path', hpath'⟩ := (owns_iff_pathOf? hl').1 h'
      rw [hpath, Option.some.injEq, List.cons.injEq] at hpath'
      exact eq_of_name hpath'.1

theorem not_owns_group (l : Leaf) : (!l.owns "bright_observability") = true := by
  cases l <;> decide

/-! ### Variables left out -/

theorem groupText?_filter {p : String → Bool} (hgroup : p "bright_observability" = true)
    (vs : EnvFile.Variables) : groupText? (vs.filter fun e => p e.1) = groupText? vs := by
  rw [groupText?, groupText?, Entries.get?_filter, if_pos hgroup]

section

variable {l : Leaf} {p : String → Bool} (hown : ∀ full, l.owns full = true → p full = true)

include hown

theorem exploded?_filter (hl : l.inLogging = true) (vs : EnvFile.Variables) :
    exploded? (vs.filter fun e => p e.1) l.field.name = exploded? vs l.field.name := by
  have hsingle : p (groupStem ++ l.field.name) = true :=
    hown _ (by simp [owns, hl])
  have hdeep : (∃ e ∈ vs.filter fun e => p e.1, deepStem l.field.name <+: e.1.toList) ↔
      ∃ e ∈ vs, deepStem l.field.name <+: e.1.toList := by
    constructor
    · rintro ⟨e, he, hprefix⟩
      exact ⟨e, (List.mem_filter.1 he).1, hprefix⟩
    · rintro ⟨e, he, hprefix⟩
      exact ⟨e, List.mem_filter.2 ⟨he, hown _ (by simp [owns, hl, hprefix])⟩, hprefix⟩
  unfold exploded?
  rw [Entries.get?_filter, if_pos hsingle]
  simp only [hdeep]

/-- Variables of other names do not matter for a setting. -/
theorem inVariables?_filter (hgroup : p "bright_observability" = true) (vs : EnvFile.Variables) :
    l.inVariables? (vs.filter fun e => p e.1) = l.inVariables? vs := by
  cases hl : l.inLogging with
  | false =>
    rw [inVariables?, inVariables?, hl, if_neg Bool.false_ne_true, if_neg Bool.false_ne_true,
      Entries.get?_filter, if_pos (hown _ ((owns_iff_eq hl).2 rfl))]
  | true =>
    rw [inVariables?, inVariables?, if_pos hl, if_pos hl, inGroup?, inGroup?,
      exploded?_filter hown hl, groupText?_filter hgroup]

theorem plainIn_filter (hgroup : p "bright_observability" = true) {vs : EnvFile.Variables}
    (h : l.PlainIn vs) : l.PlainIn (vs.filter fun e => p e.1) := by
  intro hl
  rw [Settings.Plain, exploded?_filter hown hl, groupText?_filter hgroup]
  exact h hl

end

/-! ### Another JSON text -/

section

variable {vs : EnvFile.Variables} {s s' : String}

theorem mem_names_of_groupText? (htext : groupText? vs = some s) :
    "bright_observability" ∈ vs.names := by
  by_contra hnew
  rw [groupText?, Entries.get?_eq_none_iff.2 hnew] at htext
  exact nomatch htext

theorem exploded?_put (htext : groupText? vs = some s) {name : String} (hname : name ∈ groupNames) :
    exploded? (vs.put "bright_observability" (some s')) name = exploded? vs name := by
  have hother : "bright_observability" ≠ groupStem ++ name := by
    intro h
    have hpath := (pathOf?_eq_single_iff (undivided_of_mem hname)).2 h
    exact nomatch (show pathOf? "bright_observability" = none by decide).symm.trans hpath
  have hdeep : (∃ e ∈ vs.put "bright_observability" (some s'), deepStem name <+: e.1.toList) ↔
      ∃ e ∈ vs, deepStem name <+: e.1.toList := by
    simp only [← Entries.exists_name_iff (p := fun full => deepStem name <+: full.toList),
      Entries.names_put, if_pos (mem_names_of_groupText? htext)]
  unfold exploded?
  rw [Entries.get?_put, if_neg hother]
  simp only [hdeep]

theorem groupText?_put : groupText? (vs.put "bright_observability" (some s')) = some s' := by
  rw [groupText?, Entries.get?_put_self]
  rfl

theorem lastOf?_withoutName_self (es : Entries Value) (name : String) :
    CommandLine.lastOf? (fun e => Text.sameLetters name e.1) (withoutName es name) = none := by
  refine CommandLine.lastOf?_eq_none fun e he => ?_
  simpa using (List.mem_filter.1 he).2

theorem lastOf?_withoutName {name other : String} (hname : name ∈ groupNames)
    (hother : other ∈ groupNames) (hne : other ≠ name) (es : Entries Value) :
    CommandLine.lastOf? (fun e => Text.sameLetters other e.1) (withoutName es name) =
      CommandLine.lastOf? (fun e => Text.sameLetters other e.1) es := by
  rw [lastOf?_eq_getLast?, lastOf?_eq_getLast?, withoutName, List.filter_filter]
  refine congrArg List.getLast? (List.filter_congr fun e _ => ?_)
  rw [Bool.and_eq_left_iff_imp, Bool.not_eq_true']
  intro hsame
  rw [← Bool.not_eq_true]
  intro hsame'
  -- one text is spelled like two names only if these are the same in small letters
  refine hne ?_
  rw [← lower_of_mem hother, ← lower_of_mem hname, of_decide_eq_true hsame,
    of_decide_eq_true hsame']

end

theorem jsonValue?_of_read {s name : String} {es : Entries Value}
    (h : Json.readText s.toList = .ok (.map es)) : jsonValue? s name = spelled? es name := by
  rw [jsonValue?, h]

theorem readable_iff_text {vs : EnvFile.Variables} :
    Readable vs ↔ ∀ s, groupText? vs = some s → ∃ v, Json.readText s.toList = .ok v := by
  rw [Readable, fieldValue?_groupField]
  cases groupText? vs with
  | none => simp
  | some s =>
    simp only [Option.some.injEq, forall_eq']
    cases Json.readText s.toList with
    | error e => simp
    | ok v => cases v <;> simp

theorem nestedValues_filter {p : String → Bool} (h : ∀ full, p full = false → pathOf? full = none)
    (vs : EnvFile.Variables) : nestedValues (vs.filter fun e => p e.1) = nestedValues vs := by
  rw [nestedValues, nestedValues, List.foldl_filter]
  refine congrArg (fun f => List.foldl f [] vs) (funext fun es => funext fun e => ?_)
  by_cases hp : p e.1 = true
  · rw [if_pos hp]
  · rw [if_neg hp, nestStep, h e.1 (Bool.not_eq_true _ ▸ hp)]

/-! ### No JSON text -/

theorem ne_group_of_owns {l : Leaf} {full : String} (h : l.owns full = true) :
    decide (full ≠ "bright_observability") = true := by
  refine decide_eq_true ?_
  rintro rfl
  have hnot := l.not_owns_group
  rw [h] at hnot
  exact absurd hnot Bool.false_ne_true

theorem groupText?_filter_ne (vs : EnvFile.Variables) :
    groupText? (vs.filter fun e => e.1 ≠ "bright_observability") = none := by
  rw [groupText?, Entries.get?_filter fun full => full ≠ "bright_observability"]
  rfl

theorem jsonValue?_of_only {l l' : Leaf} (hl : l.inLogging = true) (hl' : l'.inLogging = true)
    (hne : l' ≠ l) {s : String} {es : Entries Value} (hread : Json.readText s.toList = .ok (.map es))
    (honly : withoutName es l.field.name = []) : jsonValue? s l'.field.name = none := by
  have hnames : l'.field.name ≠ l.field.name := fun h => hne (eq_of_name h)
  rw [jsonValue?_of_read hread, spelled?,
    ← lastOf?_withoutName (mem_groupNames hl) (mem_groupNames hl') hnames, honly]
  rfl

/-- Where a setting has a variable of its own, variables say something about the settings of
    logging. -/
theorem nestedValues_ne_nil {l : Leaf} (hl : l.inLogging = true) {vs : EnvFile.Variables}
    (hvs : vs.names.Nodup) (h : (exploded? vs l.field.name).isSome = true) :
    (nestedValues vs).isEmpty = false := by
  have hexploded := map_hollow_get?_nestedValues (undivided_of_mem (mem_groupNames hl)) hvs
  rw [← hexploded, Option.isSome_map] at h
  cases hvalues : nestedValues vs with
  | nil =>
    rw [hvalues] at h
    exact nomatch h
  | cons d ds => rfl

/-! ### What a deletion leaves -/

namespace Drops

variable {l : Leaf} {vs vs' : EnvFile.Variables} {ahead : Option Value}

theorem keeps {l' : Leaf} (hne : l' ≠ l) (full : String) (h : l'.owns full = true) :
    (!l.owns full) = true := by
  rw [Bool.not_eq_true', ← Bool.not_eq_true]
  exact fun hown => hne (eq_of_owns h hown)

/-- All other settings are what they were. -/
theorem other (h : l.Drops vs ahead vs') {l' : Leaf} (hne : l' ≠ l) :
    l'.inVariables? vs' = l'.inVariables? vs := by
  cases h with
  | single =>
    exact inVariables?_filter (p := fun full => !l.owns full) (keeps hne) l.not_owns_group vs
  | @json s s' es hl hahead htext hread hread' =>
    cases hl' : l'.inLogging with
    | false =>
      have hvariable : "bright_observability" ≠ "bright_" ++ l'.field.name := by
        cases l' with
        | logLevel => exact nomatch hl'
        | logFormat => exact nomatch hl'
        | _ => decide
      rw [inVariables?, inVariables?, hl', if_neg Bool.false_ne_true, if_neg Bool.false_ne_true,
        Entries.get?_put, if_neg hvariable]
    | true =>
      have hnames : l'.field.name ≠ l.field.name := fun h => hne (eq_of_name h)
      rw [inVariables?, inVariables?, if_pos hl', if_pos hl', inGroup?, inGroup?,
        exploded?_put htext (mem_groupNames hl'), groupText?_put, htext, Option.bind_some,
        Option.bind_some, jsonValue?_of_read hread, jsonValue?_of_read hread', spelled?, spelled?,
        lastOf?_withoutName (mem_groupNames hl) (mem_groupNames hl') hnames]
  | @text s es hl hahead htext hread honly =>
    cases hl' : l'.inLogging with
    | false =>
      rw [inVariables?, inVariables?, hl', if_neg Bool.false_ne_true, if_neg Bool.false_ne_true,
        Entries.get?_filter fun full => full ≠ "bright_observability",
        if_pos (ne_group_of_owns ((owns_iff_eq hl').2 rfl))]
    | true =>
      rw [inVariables?, inVariables?, if_pos hl', if_pos hl', inGroup?, inGroup?,
        exploded?_filter (fun _ => ne_group_of_owns) hl', groupText?_filter_ne, htext,
        Option.bind_some, jsonValue?_of_only hl hl' hne hread honly]
      rfl

/-- With what is ahead, the setting itself is what it was. -/
theorem same (h : l.Drops vs ahead vs') :
    ahead.or (l.inVariables? vs') = ahead.or (l.inVariables? vs) := by
  cases h with
  | single hahead =>
    obtain ⟨v, rfl⟩ := Option.isSome_iff_exists.1 hahead
    rfl
  | @json s s' es hl hahead htext hread hread' =>
    rw [inVariables?, inVariables?, if_pos hl, if_pos hl, inGroup?, inGroup?,
      exploded?_put htext (mem_groupNames hl), ← Option.or_assoc, ← Option.or_assoc]
    obtain ⟨v, hv⟩ := Option.isSome_iff_exists.1 hahead
    rw [hv]
    rfl
  | text hl hahead =>
    rw [inVariables?, inVariables?, if_pos hl, if_pos hl, inGroup?, inGroup?,
      exploded?_filter (fun _ => ne_group_of_owns) hl, ← Option.or_assoc, ← Option.or_assoc]
    obtain ⟨v, hv⟩ := Option.isSome_iff_exists.1 hahead
    rw [hv]
    rfl

theorem exploded?_single (hl : l.inLogging = true) (vs : EnvFile.Variables) :
    exploded? (vs.filter fun e => !l.owns e.1) l.field.name = none := by
  have hown : l.owns (groupStem ++ l.field.name) = true := by simp [owns, hl]
  have hnone : ¬∃ e ∈ vs.filter fun e => !l.owns e.1, deepStem l.field.name <+: e.1.toList := by
    rintro ⟨e, he, hprefix⟩
    have hnot := (List.mem_filter.1 he).2
    simp [owns, hl, hprefix] at hnot
  rw [exploded?, Entries.get?_filter fun full => !l.owns full, hown, if_neg hnone]
  rfl

/-- Nothing comes to stand in the way. -/
theorem plainIn (h : l.Drops vs ahead vs') {l' : Leaf} (hplain : l'.PlainIn vs) : l'.PlainIn vs' := by
  cases h with
  | single =>
    by_cases hne : l' = l
    · subst hne
      exact fun hl => Or.inl (exploded?_single hl vs)
    · exact plainIn_filter (p := fun full => !l.owns full) (keeps hne) l.not_owns_group hplain
  | @json s s' es hl hahead htext hread hread' =>
    intro hl'
    rw [Settings.Plain, exploded?_put htext (mem_groupNames hl'), groupText?_put]
    refine (hplain hl').imp_right fun htexts t ht => ?_
    obtain rfl := Option.some.inj ht
    refine ⟨_, hread', fun e he hhas => ?_⟩
    by_cases hne : l' = l
    · subst hne
      rw [lastOf?_withoutName_self] at he
      exact nomatch he
    · have hnames : l'.field.name ≠ l.field.name := fun h => hne (eq_of_name h)
      rw [lastOf?_withoutName (mem_groupNames hl) (mem_groupNames hl') hnames] at he
      obtain ⟨es', hes', hlast⟩ := htexts s htext
      obtain rfl : es = es' := by simpa [hread] using hes'
      refine hlast e he ?_
      rw [← Entries.mem_names_iff] at hhas ⊢
      exact (List.filter_sublist.map _).subset hhas
  | text =>
    intro _
    rw [Settings.Plain, groupText?_filter_ne]
    exact Or.inr nofun

theorem readable (h : l.Drops vs ahead vs') (hread : Readable vs) : Readable vs' := by
  rw [readable_iff_text] at hread ⊢
  cases h with
  | single =>
    rwa [groupText?_filter (p := fun full => !l.owns full) l.not_owns_group]
  | json _ _ _ _ hread' =>
    rw [groupText?_put]
    intro t ht
    obtain rfl := Option.some.inj ht
    exact ⟨_, hread'⟩
  | text =>
    rw [groupText?_filter_ne]
    exact nofun

theorem declared (h : l.Drops vs ahead vs') (hvs : ∀ e ∈ vs, ¬Undeclared e) :
    ∀ e ∈ vs', ¬Undeclared e := by
  intro e he
  cases h with
  | single => exact hvs e (List.mem_filter.1 he).1
  | json =>
    rcases Entries.mem_put he with hold | rfl
    · exact hvs e hold
    · intro hundeclared
      have hbelongs : belongsTo {} "bright_observability" groupField = true := by decide +kernel
      rw [hundeclared.2.2 groupField groupField_mem] at hbelongs
      exact nomatch hbelongs
  | text => exact hvs e (List.mem_filter.1 he).1

/-- All settings of logging stay of a kind, unless the deleted one comes from a source ahead. -/
theorem group (h : l.Drops vs ahead vs') (hvs : vs.names.Nodup) :
    l.inLogging = true ∧ ahead.isSome = true ∨
      (said? {} vs' groupField).map hollow = (said? {} vs groupField).map hollow := by
  cases h with
  | single hahead =>
    cases hl : l.inLogging with
    | true => exact Or.inl ⟨rfl, hahead⟩
    | false =>
      have hpath : ∀ full, (!l.owns full) = false → pathOf? full = none := by
        intro full hfull
        rw [Bool.not_eq_false', owns_iff_eq hl] at hfull
        rw [hfull, pathOf?_single hl]
      rw [said?, said?, fieldValue?_groupField, fieldValue?_groupField,
        groupText?_filter (p := fun full => !l.owns full) l.not_owns_group,
        nestedValues_filter (p := fun full => !l.owns full) hpath]
      exact Or.inr rfl
  | json _ _ htext hread hread' =>
    rw [said?, said?, fieldValue?_groupField, fieldValue?_groupField, groupText?_put, htext]
    simp only [hread, hread']
    exact Or.inr rfl
  | text hl hahead htext hread =>
    -- without a source ahead, its own variables make a map with or without the text
    cases hnone : ahead.isSome with
    | true => exact Or.inl ⟨hl, rfl⟩
    | false =>
      rw [Option.isSome_or, hnone, Bool.false_or] at hahead
      have hnested := nestedValues_ne_nil hl hvs hahead
      have hpath : ∀ full, decide (full ≠ "bright_observability") = false → pathOf? full = none := by
        intro full hfull
        obtain rfl := not_not.1 (of_decide_eq_false hfull)
        decide
      rw [said?, said?, fieldValue?_groupField, fieldValue?_groupField, groupText?_filter_ne, htext,
        nestedValues_filter (p := fun full => full ≠ "bright_observability") hpath]
      simp only [hread, hnested]
      exact Or.inr rfl

end Drops

end Leaf

namespace Told

/-- Deleting what the environment or the environment file says about a setting that a source in front
    says something about. -/
inductive Deletes (t : Told) (l : Leaf) : Told → Prop
  | environment {vs : EnvFile.Variables}
      (h : l.Drops t.environment (l.inKeywords? t.keywords) vs) :
      Deletes t l { t with environment := vs }
  | file {vs : EnvFile.Variables}
      (h : l.Drops t.file ((l.inKeywords? t.keywords).or (l.inVariables? t.environment)) vs) :
      Deletes t l { t with file := vs }

variable {t t' : Told} {l : Leaf}

theorem isSome_keyword? (hl : l.inLogging = true) (h : (l.inKeywords? t.keywords).isSome = true) :
    ∃ v, keyword? t.keywords groupField.name = some v := by
  rw [Leaf.inKeywords?, if_pos hl] at h
  cases hkeyword : keyword? t.keywords groupField.name with
  | none =>
    rw [hkeyword] at h
    exact absurd h Bool.false_ne_true
  | some v => exact ⟨v, rfl⟩

namespace Deletes

theorem keywords_eq (h : t.Deletes l t') : t'.keywords = t.keywords := by
  cases h <;> rfl

/-- **A definition behind another one does not count.** -/
theorem first?_eq (h : t.Deletes l t') (l' : Leaf) : t'.first? l' = t.first? l' := by
  cases h with
  | environment h =>
    unfold first?
    by_cases hne : l' = l
    · subst hne
      dsimp only
      rw [← Option.or_assoc, h.same, Option.or_assoc]
    · rw [h.other hne]
  | file h =>
    unfold first?
    by_cases hne : l' = l
    · subst hne
      dsimp only
      rw [← Option.or_assoc, h.same, Option.or_assoc]
    · rw [h.other hne]

theorem plain (h : t.Deletes l t') {l' : Leaf} (hplain : t.Plain l') : t'.Plain l' := by
  cases h with
  | @environment vs h =>
    intro hkeywords
    obtain ⟨hplainEnvironment, hplainFile⟩ := hplain hkeywords
    refine ⟨h.plainIn hplainEnvironment, fun hnone => hplainFile ?_⟩
    change l'.inVariables? vs = none at hnone
    by_cases hne : l' = l
    · subst hne
      have hsame := h.same
      rwa [hkeywords, Option.none_or, Option.none_or, hnone, eq_comm] at hsame
    · rwa [h.other hne] at hnone
  | file h =>
    intro hkeywords
    obtain ⟨hplainEnvironment, hplainFile⟩ := hplain hkeywords
    exact ⟨hplainEnvironment, fun hnone => h.plainIn (hplainFile hnone)⟩

/-- All settings of logging stay of a kind. -/
theorem map_hollow_about? (h : t.Deletes l t') (henvironment : Folded t.environment)
    (hfile : Folded t.file) (hread : Readable t.environment) (hplain : t.Plain l) :
    (t'.about? groupField).map hollow = (t.about? groupField).map hollow := by
  unfold about?
  cases h with
  | environment h =>
    simp only [map_hollow_stacked]
    rcases h.group henvironment.nodup with ⟨hl, hsome⟩ | hsame
    · obtain ⟨v, hv⟩ := isSome_keyword? hl hsome
      rw [hv]
      rfl
    · rw [hsame]
  | file h =>
    simp only [map_hollow_stacked]
    rcases h.group hfile.nodup with ⟨hl, hsome⟩ | hsame
    · cases hkeywords : l.inKeywords? t.keywords with
      | some w =>
        obtain ⟨v, hv⟩ := isSome_keyword? hl (Option.isSome_iff_exists.2 ⟨w, hkeywords⟩)
        rw [hv]
        rfl
      | none =>
        rw [hkeywords, Option.none_or] at hsome
        have hmember := Leaf.memberOf?_said? hl henvironment hread (hplain hkeywords).1
        cases hsaid : said? {} t.environment groupField with
        | none =>
          rw [hsaid] at hmember
          rw [Option.map_eq_none_iff.1 hmember.symm] at hsome
          exact nomatch hsome
        | some v => cases keyword? t.keywords groupField.name <;> rfl
    · rw [hsame]

theorem loadable (h : t.Deletes l t') (hfolded : Folded t.environment ∧ Folded t.file)
    (hplain : t.Plain l) (hload : t.Loadable) : t'.Loadable := by
  have hkind := h.map_hollow_about? hfolded.1 hfolded.2 hload.environment hplain
  have hgroup : ∀ v, t'.about? groupField = some v → IsGroup v := by
    intro v hv
    rw [hv] at hkind
    obtain ⟨w, hw, hsame⟩ := Option.map_eq_some_iff.1 hkind.symm
    exact isGroup_of_hollow hsame (hload.group w hw)
  cases h with
  | environment h =>
    exact ⟨h.readable hload.environment, hload.file, ⟨hload.declares.keywords, hload.declares.file⟩,
      hgroup⟩
  | file h =>
    exact ⟨hload.environment, h.readable hload.file,
      ⟨hload.declares.keywords, h.declared hload.declares.file⟩, hgroup⟩

end Deletes

/-- **What is behind another definition can be deleted.** -/
theorem load_of_deletes (hmade : Made t.keywords) (hold : Folded t.environment ∧ Folded t.file)
    (hnew : Folded t'.environment ∧ Folded t'.file) (hplain : ∀ l, t.Plain l) (h : t.Deletes l t')
    {s : Settings} (hload : t.load = .ok s) : t'.load = .ok s := by
  obtain ⟨hloadable, hverdicts⟩ := (load_eq_ok_iff_first hmade hold.1 hold.2 hplain).1 hload
  refine (load_eq_ok_iff_first (h.keywords_eq ▸ hmade) hnew.1 hnew.2
    fun l' => h.plain (hplain l')).2 ⟨h.loadable hold (hplain l) hloadable, fun l' => ?_⟩
  rw [h.first?_eq]
  exact hverdicts l'

end Told

end SearchClient.Settings
