import Mathlib
import SearchClient.Proofs.Gathering

set_option autoImplicit false

/-! # Keys of a configuration file

Beside those by which it is told how to read, the keys of a configuration file only set settings: they
leave the other sources as they are, and one that names no setting is told as undeclared
(`keys_only_set`). -/

namespace SearchClient.Settings

open Failure (Problem)
open Schema (FieldRule Issue)

/-! ## The other sources -/

/-- What the sources beside the keywords say, and how variables are named in them. -/
structure Surroundings where
  naming : Naming
  arguments : Entries Value
  environment : Entries Value
  files : Entries Value
  secrets : Entries Value

namespace Surroundings

/-- What is found where the sources are read in a given way. -/
def read (h : Host) (s : Sources) : Except Problem Surroundings := do
  let inFiles ← fileVariables h s s.envFiles
  let (argumentNaming, given) ← argumentVariables s Schema.settingsFields
  let arguments ← layer argumentNaming given Schema.settingsFields
  let present := s.naming.select (h.environment.map fun (name, s) => (name, some s))
  let environment ← layer s.naming present Schema.settingsFields
  let files ← fileLayer s.naming inFiles
  let secrets ← secretLayer h s Schema.settingsFields
  return ⟨s.naming, arguments, environment, files, secrets⟩

/-- What is found where keywords say how to read. -/
def found (h : Host) (keywords : Entries Value) : Except Problem Surroundings :=
  Sources.ofKeywords keywords >>= read h

/-- What keywords say amid the other sources, each over the ones behind it. -/
def around (s : Surroundings) (keywords : Entries Value) : Entries Value :=
  overlay s.secrets (overlay s.files (overlay s.environment
    (overlay (keywordLayer s.naming keywords Schema.settingsFields) s.arguments)))

end Surroundings

/-- The settings are what the keywords say amid the other sources. -/
theorem load_eq_around (h : Host) (keywords : Entries Value) :
    load h keywords = do
      let s ← Surroundings.found h keywords
      let record ← (Record.check .settings (.map (s.around keywords))).mapError .refused
      return ofRecord record := by
  simp only [load, gather, Surroundings.found, Surroundings.read, bind_assoc, pure_bind]
  rfl

/-- The keywords by which it is told how to read. -/
def ways (keywords : Entries Value) : Entries Value :=
  keywords.filter fun e => (Sources.reserved ++ Sources.impossible).contains e.1

/-- Other keywords leave the other sources as they are. -/
theorem found_ways (h : Host) (keywords : Entries Value) :
    Surroundings.found h (ways keywords) = Surroundings.found h keywords :=
  congrArg (· >>= Surroundings.read h) (Sources.ofKeywords_filter keywords)

/-! ## Names of no setting -/

/-- Whether a name is that of no setting, in whatever letter case. -/
def NamesNone (name : String) : Prop :=
  ∀ f ∈ Schema.settingsFields, Text.sameLetters name f.name = false

instance : DecidablePred NamesNone := fun name =>
  inferInstanceAs (Decidable (∀ f ∈ Schema.settingsFields, Text.sameLetters name f.name = false))

theorem NamesNone.notMem_fieldNames {name : String} (h : NamesNone name) : name ∉ fieldNames := by
  intro hname
  obtain ⟨f, hf, rfl⟩ := List.mem_map.1 hname
  have hnot := h f hf
  rw [sameLetters_self] at hnot
  exact nomatch hnot

theorem NamesNone.names_eq_false {name : String} (h : NamesNone name) (n : Naming) {f : FieldRule}
    (hf : f ∈ Schema.settingsFields) : n.names name f = false := by
  unfold Naming.names
  split
  · refine decide_eq_false ?_
    rintro rfl
    exact h.notMem_fieldNames (List.mem_map_of_mem hf)
  · exact h f hf

/-- What is said under one name. -/
def under (name : String) (es : Entries Value) : Entries Value :=
  es.filter fun e => decide (e.1 = name)

theorem under_eq_nil {name : String} {es : Entries Value} (h : name ∉ es.names) :
    under name es = [] := by
  refine List.filter_eq_nil_iff.2 fun e he heq => h ?_
  rw [← of_decide_eq_true heq]
  exact List.mem_map_of_mem he

theorem under_of_get? {name : String} {es : Entries Value} (h : es.names.Nodup) {v : Value}
    (hv : es.get? name = some v) : under name es = [(name, v)] := by
  rw [under, Entries.filter_name_eq h, hv]
  rfl

theorem get?_of_under {name : String} {es : Entries Value} {v : Value}
    (h : under name es = [(name, v)]) : es.get? name = some v := by
  have hget := Entries.get?_filter (fun own => decide (own = name)) es name
  change Entries.get? (under name es) name = _ at hget
  rw [h, decide_eq_true rfl, if_pos rfl] at hget
  simpa [Entries.get?] using hget.symm

theorem under_append (name : String) (es later : Entries Value) :
    under name (es ++ later) = under name es ++ under name later :=
  List.filter_append es later

theorem under_overlay (name : String) (low high : Entries Value) :
    under name (overlay low high) = overlay (under name low) (under name high) :=
  filter_overlay (fun own => decide (own = name)) low high

/-- Variables say nothing under a name that is no field's. -/
theorem under_layer {n : Naming} {vs : EnvFile.Variables} {es : Entries Value}
    (h : layer n vs Schema.settingsFields = .ok es) {name : String} (hname : name ∉ fieldNames) :
    under name es = [] := by
  obtain rfl := (layer_eq_ok_iff.1 h).2
  exact under_eq_nil (mt mem_fieldNames_of_membersOf hname)

/-- An environment file says at most a text under such a name. -/
theorem under_fileLayer {n : Naming} {vs : EnvFile.Variables} {es : Entries Value}
    (h : fileLayer n vs = .ok es) {name : String} (hname : name ∉ fieldNames) :
    under name es = [] ∨ ∃ s, under name es = [(name, .text s)] := by
  have hnodup := nodup_names_fileLayer h
  obtain ⟨taken, htaken, h⟩ := bind_eq_ok_iff.1 h
  obtain rfl := Except.ok.inj h
  cases hget : Entries.get? _ name with
  | none => exact Or.inl (under_eq_nil (Entries.get?_eq_none_iff.1 hget))
  | some v =>
    refine Or.inr ?_
    rcases Entries.mem_merge (Entries.mem_of_get? hget) with hmem | hmem
    · have hhere : (name, v) ∈ under name taken := List.mem_filter.2 ⟨hmem, by simp⟩
      rw [under_layer htaken hname] at hhere
      exact absurd hhere List.not_mem_nil
    · obtain ⟨⟨own, text⟩, -, he⟩ := List.mem_filterMap.1 hmem
      cases text with
      | none => exact nomatch he
      | some s =>
        obtain ⟨-, he⟩ := Option.ite_none_left_eq_some.1 he
        obtain ⟨-, rfl⟩ := Prod.mk.inj (Option.some.inj he)
        exact ⟨s, under_of_get? hnodup hget⟩

theorem under_secretLayer {h : Host} {s : Sources} {es : Entries Value}
    (hes : secretLayer h s Schema.settingsFields = .ok es) {name : String}
    (hname : name ∉ fieldNames) : under name es = [] := by
  obtain ⟨_, -, hes⟩ := bind_eq_ok_iff.1 hes
  obtain ⟨_, -, hes⟩ := bind_eq_ok_iff.1 hes
  obtain ⟨_, -, hes⟩ := bind_eq_ok_iff.1 hes
  exact under_layer hes hname

/-- A keyword of no setting is said as it is. -/
theorem under_keywordLayer (n : Naming) {keywords : Entries Value} {name : String}
    (hname : NamesNone name) (hway : name ∉ Sources.reserved) :
    under name (keywordLayer n keywords Schema.settingsFields) = under name keywords := by
  have hnone : Schema.settingsFields.any (n.names name) = false :=
    List.any_eq_false.2 fun f hf => by simp [hname.names_eq_false n hf]
  unfold keywordLayer
  rw [under_append, under_eq_nil, List.nil_append]
  -- a keyword that says how to read, or that names a field, has another name than this one
  · rw [under, List.filter_filter, List.filter_filter]
    refine List.filter_congr fun e _ => ?_
    by_cases heq : e.1 = name
    · simp [heq, hnone, hway]
    · simp [heq]
  · intro hmem
    obtain ⟨e, he, rfl⟩ := List.mem_map.1 hmem
    obtain ⟨f, hf, he⟩ := List.mem_filterMap.1 he
    obtain ⟨d, -, rfl⟩ := Option.map_eq_some_iff.1 he
    exact hname.notMem_fieldNames (List.mem_map_of_mem hf)

/-- What lies over a text, or over nothing, is as it is. -/
theorem overlay_singleton {name : String} {low : Entries Value} (v : Value)
    (hlow : low = [] ∨ ∃ s, low = [(name, .text s)]) :
    overlay low [(name, v)] = [(name, v)] := by
  rcases hlow with rfl | ⟨s, rfl⟩
  · exact overlay_nil (List.nodup_singleton name)
  · have hwritten : written (some (.text s)) v = v := by cases v <;> rfl
    have hget : Entries.get? [(name, Value.text s)] name = some (.text s) := by simp [Entries.get?]
    rw [overlay_cons, hget, hwritten]
    simp [Entries.put, overlay]

/-- **A keyword of no setting** is there as it is, whatever the other sources say. -/
theorem get?_around {h : Host} {s : Sources} {r : Surroundings} (hr : Surroundings.read h s = .ok r)
    {keywords : Entries Value} (hnodup : keywords.names.Nodup) {name : String} {v : Value}
    (hv : keywords.get? name = some v) (hname : NamesNone name) (hway : name ∉ Sources.reserved) :
    (r.around keywords).get? name = some v := by
  obtain ⟨_, -, hr⟩ := bind_eq_ok_iff.1 hr
  obtain ⟨⟨argumentNaming, given⟩, -, hr⟩ := bind_eq_ok_iff.1 hr
  obtain ⟨arguments, harguments, hr⟩ := bind_eq_ok_iff.1 hr
  obtain ⟨environment, henvironment, hr⟩ := bind_eq_ok_iff.1 hr
  obtain ⟨files, hfiles, hr⟩ := bind_eq_ok_iff.1 hr
  obtain ⟨secrets, hsecrets, hr⟩ := bind_eq_ok_iff.1 hr
  obtain rfl := Except.ok.inj hr
  have hfield := hname.notMem_fieldNames
  -- layer by layer under this name alone: all are silent but the keywords and, perhaps, a text of the
  -- environment files, which the keywords lie over
  refine get?_of_under ?_
  rw [Surroundings.around, under_overlay, under_overlay, under_overlay, under_overlay,
    under_secretLayer hsecrets hfield, under_layer henvironment hfield, under_layer harguments hfield,
    under_keywordLayer _ hname hway, under_of_get? hnodup hv]
  change overlay [] (overlay _ (overlay [] [(name, v)])) = _
  rw [overlay_singleton v (.inl rfl), overlay_singleton v (under_fileLayer hfiles hfield),
    overlay_singleton v (.inl rfl)]

/-- Settings of such a keyword are refused, and it is told. -/
theorem exists_issue_around {h : Host} {s : Sources} {r : Surroundings}
    (hr : Surroundings.read h s = .ok r) {keywords : Entries Value} (hnodup : keywords.names.Nodup)
    {e : String × Value} (he : e ∈ keywords) (hname : NamesNone e.1) (hway : e.1 ∉ Sources.reserved) :
    ∃ issues, Record.check .settings (.map (r.around keywords)) = .error ⟨.settings, issues⟩ ∧
      ⟨[.name e.1], .undeclared, e.2⟩ ∈ issues := by
  have hget := get?_around hr hnodup (Entries.get?_of_mem hnodup he) hname hway
  refine Record.exists_issue_of_undeclared (by decide) hget fun f hf => ?_
  have hwire : ∀ g ∈ Schema.fieldsOf .settings, g.wire = g.name := by decide
  have hne : f.name ≠ e.1 := fun heq => hname.notMem_fieldNames (heq ▸ List.mem_map_of_mem hf)
  exact ⟨hwire f hf ▸ hne, hne⟩

/-! ## Configuration files -/

/-- A configuration file whose document is a mapping with the given entries. -/
def HoldsMapping (h : Host) (path : String) (es : List (String × Value)) : Prop :=
  ∃ octets cs, h.files.place path = .file octets ∧ configText octets = .ok cs ∧
    Yaml.Document.read cs = .ok (.mapping (es.map fun e => (.text e.1, e.2)))

theorem keywordsOfEntries_map (es : List (String × Value)) :
    keywordsOfEntries (es.map fun e => (.text e.1, e.2)) = .ok es := by
  induction es with
  | nil => rfl
  | cons e es ih =>
      rw [List.map_cons, keywordsOfEntries, ih]
      rfl

/-- The keys of such a file are the keywords. -/
theorem HoldsMapping.configKeywords {h : Host} {path : String} {es : List (String × Value)}
    (hfile : HoldsMapping h path es) :
    configKeywords h path = .ok (Entries.ofPairs es) := by
  obtain ⟨octets, cs, hplace, htext, hread⟩ := hfile
  unfold Settings.configKeywords
  rw [hplace]
  simp only [htext, hread, keywordsOf, keywordsOfEntries_map, Except.mapError, Except.map, bind,
    Except.bind]

/-- Keys of a configuration file that do nothing but set settings, but for those that say how to
    read. -/
structure OnlySet (h : Host) (path : String) (keywords : Entries Value) : Prop where
  /-- Only the keys that say how to read count for the other sources, and the settings are what the
      keys say amid these. -/
  load : loadFile h path = do
    let s ← Surroundings.found h (ways keywords)
    let record ← (Record.check .settings (.map (s.around keywords))).mapError .refused
    return ofRecord record
  /-- The file is refused for any other key that names no setting, unless the other sources cannot be
      read and it is refused for this. -/
  unknown : ∀ e ∈ keywords, e.1 ∉ Sources.reserved ++ Sources.impossible → NamesNone e.1 →
    (∃ p, Surroundings.found h (ways keywords) = .error p ∧ loadFile h path = .error p) ∨
      ∃ issues : List Issue, loadFile h path = .error (.refused ⟨.settings, issues⟩) ∧
        ⟨[.name e.1], .undeclared, e.2⟩ ∈ issues

/-- **Keys only set settings.** Of a configuration file with texts for keys, those that do not say how
    to read leave the other sources as they are, and those that moreover name no setting, in whatever
    letter case, are told as undeclared. -/
theorem keys_only_set {h : Host} {path : String} {es : List (String × Value)}
    (hfile : HoldsMapping h path es) : OnlySet h path (Entries.ofPairs es) := by
  have hload : loadFile h path = load h (Entries.ofPairs es) := by
    rw [loadFile, hfile.configKeywords]
    rfl
  rw [load_eq_around, ← found_ways] at hload
  refine ⟨hload, fun e he hway hname => ?_⟩
  rw [hload]
  cases hfound : Surroundings.found h (ways (Entries.ofPairs es)) with
  | error p => exact Or.inl ⟨p, rfl, rfl⟩
  | ok s =>
    refine Or.inr ?_
    rw [found_ways] at hfound
    obtain ⟨sources, -, hread⟩ := bind_eq_ok_iff.1 hfound
    obtain ⟨issues, hissues, hmem⟩ := exists_issue_around hread (Entries.nodup_names_ofPairs es) he
      hname fun hmem => hway (List.mem_append_left _ hmem)
    refine ⟨issues, ?_, hmem⟩
    show (Except.mapError _ _ >>= _) = _
    rw [hissues]
    rfl

/-- The entries of a mapping of an integer and a text. -/
def integerAndText? : Yaml.Document → Option (String × Int × String × String)
  | .mapping [(.text a, .int n), (.text b, .text s)] => some (a, n, b, s)
  | _ => none

theorem eq_of_integerAndText? {d : Yaml.Document} {a b s : String} {n : Int}
    (h : integerAndText? d = some (a, n, b, s)) :
    d = .mapping [(.text a, .int n), (.text b, .text s)] := by
  unfold integerAndText? at h
  split at h
  · cases h
    rfl
  · simp at h

/-- A key in capitals that is a setting, and one that is none. -/
theorem keys_only_set_of_mixed :
    let text := "TIMEOUT: 5\nNoSuch: here\n"
    let octets : List UInt8 := text.toList.map fun c => UInt8.ofNat c.toNat
    let h : Host := ⟨[("BRIGHT_API_KEY", "k")], [("c.yaml", octets)]⟩
    let es : List (String × Value) := [("TIMEOUT", .int 5), ("NoSuch", .text "here")]
    HoldsMapping h "c.yaml" es ∧ OnlySet h "c.yaml" (Entries.ofPairs es) ∧
      ∃ issues : List Issue, loadFile h "c.yaml" = .error (.refused ⟨.settings, issues⟩) ∧
        ⟨[.name "NoSuch"], .undeclared, .text "here"⟩ ∈ issues := by
  intro text octets h es
  have hfile : HoldsMapping h "c.yaml" es := by
    obtain ⟨cs, hcs, rfl⟩ := exists_ok_of_toOption (x := configText octets) (f := id)
      (b := text.toList) (by decide +kernel)
    obtain ⟨d, hd, htold⟩ := exists_ok_of_toOption (x := Yaml.Document.read text.toList)
      (f := integerAndText?) (b := some ("TIMEOUT", 5, "NoSuch", "here")) (by decide +kernel)
    exact ⟨octets, text.toList, rfl, hcs,
      hd.trans (congrArg Except.ok (eq_of_integerAndText? htold))⟩
  have hsets := keys_only_set hfile
  have hmem : ("NoSuch", .text "here") ∈ Entries.ofPairs es := by
    rw [Entries.ofPairs_eq_self (by decide)]
    exact List.mem_cons_of_mem _ List.mem_cons_self
  refine ⟨hfile, hsets, ?_⟩
  rcases hsets.unknown _ hmem (by decide) (by decide +kernel) with ⟨p, hp, -⟩ | hrefused
  · have hfound : (Surroundings.found h (ways (Entries.ofPairs es))).toOption.isSome = true := by
      decide +kernel
    simp [hp, Except.toOption] at hfound
  · exact hrefused

/-- Letter case does not count in keys, and what cannot be read in the environment is told before any
    key is looked at. -/
theorem keys_in_capitals_taken :
    let octets (s : String) : List UInt8 := s.toList.map fun c => UInt8.ofNat c.toNat
    let h : Host := ⟨[], [("c.yaml", octets "API_KEY: b")]⟩
    let dark : Host := ⟨[("BRIGHT_OBSERVABILITY", "?")], [("c.yaml", octets "nosuch: 1")]⟩
    let isBadSetting : Except Problem Settings → Bool
      | .error .badSetting => true
      | _ => false
    (configKeywords h "c.yaml").toOption.map Entries.names = some ["API_KEY"] ∧
      "API_KEY" ∉ fieldNames ∧ (loadFile h "c.yaml").toOption.map (·.apiKey) = some "b" ∧
      (configKeywords dark "c.yaml").toOption.map Entries.names = some ["nosuch"] ∧
      isBadSetting (loadFile dark "c.yaml") = true := by
  decide +kernel

end SearchClient.Settings
