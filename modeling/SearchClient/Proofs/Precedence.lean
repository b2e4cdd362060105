import Mathlib
import SearchClient.Proofs.ConfigKeywords
import SearchClient.Proofs.Shadowed

set_option autoImplicit false

/-! # Which source counts

Settings are loaded from keywords, or from those of a configuration file, and from the environment
and the environment file. Setting by setting the first of these counts that says anything
(`first_source_counts`), unless a keyword says how the others are read, or a JSON text stands in the
way of a variable. -/

namespace SearchClient.Settings

open Schema

/-! ## Loaded settings -/

theorem told_eq_ok_iff {h : Host} {keywords : Entries Value} {t : Told} :
    told h keywords = .ok t ↔ ∃ file, fileVariables h {} ({} : Sources).envFiles = .ok file ∧
      t = ⟨keywords, ({} : Naming).select (h.environment.map fun (name, s) => (name, some s)),
        file⟩ := by
  unfold told
  rw [bind_eq_ok_iff]
  exact exists_congr fun file => and_congr_right fun _ => ⟨fun h => (Except.ok.inj h).symm,
    fun h => congrArg Except.ok h.symm⟩

theorem folded_of_fileVariables {h : Host} {vs : EnvFile.Variables}
    (hvs : fileVariables h {} ({} : Sources).envFiles = .ok vs) : Folded vs := by
  change fileVariables h {} [".env"] = .ok vs at hvs
  rw [fileVariables] at hvs
  split at hvs
  · obtain ⟨cs, -, hvs⟩ := bind_eq_ok_iff.1 hvs
    obtain rfl := Except.ok.inj hvs
    exact folded_select _
  · exact nomatch hvs
  · obtain rfl := Except.ok.inj hvs
    exact ⟨List.nodup_nil, fun _ he => absurd he List.not_mem_nil⟩
  · exact nomatch hvs

theorem folded_of_told {h : Host} {keywords : Entries Value} {t : Told}
    (ht : told h keywords = .ok t) : Folded t.environment ∧ Folded t.file := by
  obtain ⟨file, hfile, rfl⟩ := told_eq_ok_iff.1 ht
  exact ⟨folded_select _, folded_of_fileVariables hfile⟩

theorem getLast?_withoutSlashes (s : String) : (withoutSlashes s).toList.getLast? ≠ some '/' := by
  rw [withoutSlashes, String.toList_ofList, List.getLast?_reverse]
  intro h
  have hnot := List.head?_dropWhile_not (fun c => decide (c = '/')) s.toList.reverse
  rw [h] at hnot
  exact nomatch hnot

/-- The address that is loaded has no slash at its end. -/
theorem getLast?_baseUrl {h : Host} {keywords : Entries Value} {s : Settings}
    (hload : load h keywords = .ok s) : s.baseUrl.toList.getLast? ≠ some '/' := by
  obtain ⟨state, -, hload⟩ := bind_eq_ok_iff.1 hload
  obtain ⟨r, hr, hload⟩ := bind_eq_ok_iff.1 hload
  obtain rfl := Except.ok.inj hload
  have hfield : Leaf.baseUrl.field ∈ fieldsOf .settings := Leaf.field_mem rfl
  obtain ⟨w, hw, hmember⟩ := Leaf.member?_of_check hfield (mapError_eq_ok_iff.1 hr)
  obtain ⟨u, rfl⟩ := exists_text_of_check_address hw
  have hurl : (ofRecord r).baseUrl = withoutSlashes u := by
    have hvalue : r.member "base_url" = .text (withoutSlashes u) := congrArg Value.ofOption hmember
    simp only [ofRecord, hvalue]
    rfl
  rw [hurl]
  exact getLast?_withoutSlashes u

/-- Settings that are loaded from keywords as a caller has them, or from those of a file. -/
inductive Loads (h : Host) (keywords : Entries Value) (s : Settings) : Prop
  | keywords (hmade : Made keywords) (hload : load h keywords = .ok s)
  | file {path : String} (hkeywords : configKeywords h path = .ok keywords)
      (hload : loadFile h path = .ok s)

theorem Loads.made {h : Host} {keywords : Entries Value} {s : Settings} (hloads : Loads h keywords s) :
    Made keywords ∧ load h keywords = .ok s := by
  cases hloads with
  | keywords hmade hload => exact ⟨hmade, hload⟩
  | file hkeywords hload =>
    refine ⟨made_of_configKeywords hkeywords, ?_⟩
    rw [loadFile, hkeywords] at hload
    exact hload

/-- **The first source counts, setting by setting.** Where no keyword says how other sources are read,
    each setting that is loaded is what a check makes of what the first of keywords, environment and
    environment file says about it, and else of its default, unless the JSON text of the settings of
    logging stands in the way of a variable. What is behind another definition can be deleted. The
    address never has a slash at its end. -/
theorem first_source_counts {h : Host} {keywords : Entries Value} {s : Settings}
    (hloads : Loads h keywords s) :
    s.baseUrl.toList.getLast? ≠ some '/' ∧
      (Sources.ofKeywords keywords = .ok {} → ∃ t, told h keywords = .ok t ∧
        (∀ l : Leaf, t.Plain l →
          l.field.shape.check ((t.first? l).getD l.default) = .ok (l.get s)) ∧
        ((∀ l : Leaf, t.Plain l) → ∀ (h' : Host) (t' : Told) (l : Leaf), t.Deletes l t' →
          told h' keywords = .ok t' → load h' keywords = .ok s)) := by
  obtain ⟨hmade, hload⟩ := hloads.made
  refine ⟨getLast?_baseUrl hload, fun hsources => ?_⟩
  rw [load_eq h hsources] at hload
  obtain ⟨t, ht, hload⟩ := bind_eq_ok_iff.1 hload
  have hkeywords : t.keywords = keywords := by
    obtain ⟨file, -, rfl⟩ := told_eq_ok_iff.1 ht
    rfl
  have hmadeTold : Made t.keywords := hkeywords ▸ hmade
  have hfolded := folded_of_told ht
  refine ⟨t, ht, fun l hplain => ?_, fun hplain h' t' l hdeletes ht' => ?_⟩
  · obtain ⟨hloadable, hverdicts⟩ := (Told.load_eq_ok_iff hmadeTold).1 hload
    have hsame := Told.map_hollow_leaf? hmadeTold hfolded.1 hfolded.2 hloadable hplain
    exact (Leaf.verdict_congr hsame).1 (hverdicts l)
  · rw [load_eq h' hsources, ht']
    exact Told.load_of_deletes hmadeTold hfolded (folded_of_told ht') hplain hdeletes hload

/-- An address and a level from the environment, a key from the environment file, and a format among
    the keywords; the address in the environment file is deleted. -/
theorem first_source_counts_of_mixed :
    let octets (s : String) : List UInt8 := s.toList.map fun c => UInt8.ofNat c.toNat
    let environment : Entries String :=
      [("Bright_Base_URL", "http://a/"), ("BRIGHT_OBSERVABILITY__LOG_LEVEL", "debug")]
    let h : Host := ⟨environment, [(".env", octets "BRIGHT_BASE_URL=http://b\nBRIGHT_API_KEY=k")]⟩
    let h' : Host := ⟨environment, [(".env", octets "BRIGHT_API_KEY=k")]⟩
    let keywords : Entries Value := [("observability", .map [("log_format", .text "console")])]
    ∃ s, load h keywords = .ok s ∧ s.baseUrl.toList.getLast? ≠ some '/' ∧
      Leaf.baseUrl.field.shape.check (.text "http://a/") = .ok (.text s.baseUrl) ∧
      Leaf.apiKey.field.shape.check (.text "k") = .ok (.text s.apiKey) ∧
      Leaf.logLevel.field.shape.check (.text "debug") = .ok (.text s.logLevel) ∧
      Leaf.logFormat.field.shape.check (.text "console") = .ok (.text s.logFormat) ∧
      load h' keywords = .ok s := by
  intro octets environment h h' keywords
  let present : EnvFile.Variables :=
    [("bright_base_url", some "http://a/"), ("bright_observability__log_level", some "debug")]
  let file : EnvFile.Variables := [("bright_base_url", some "http://b"), ("bright_api_key", some "k")]
  let rest : EnvFile.Variables := [("bright_api_key", some "k")]
  have htold : ∀ (host : Host) (vs : EnvFile.Variables),
      (told host keywords).toOption.map (fun t => (t.environment, t.file)) = some (present, vs) →
        told host keywords = .ok ⟨keywords, present, vs⟩ := by
    intro host vs hvalues
    obtain ⟨t, ht, hfields⟩ := exists_ok_of_toOption hvalues
    obtain ⟨file', -, rfl⟩ := told_eq_ok_iff.1 ht
    rw [ht, ← (Prod.mk.inj hfields).1, ← (Prod.mk.inj hfields).2]
  have hgiven : keyword? keywords groupField.name = some (.map [("log_format", .text "console")]) :=
    rfl
  have hmade : Made keywords := by
    constructor
    · intro es hes
      rw [hgiven] at hes
      rw [← Value.map.inj (Option.some.inj hes)]
      decide
    · intro model fields extra given hrecord
      rw [hgiven] at hrecord
      exact nomatch hrecord
  obtain ⟨s, hs, -⟩ := exists_ok_of_toOption (x := load h keywords) (f := fun s => s.apiKey)
    (b := "k") (by decide +kernel)
  obtain ⟨hslash, hsources⟩ := first_source_counts (.keywords hmade hs)
  obtain ⟨t, ht, hfirst, hdelete⟩ := hsources (Sources.ofKeywords_of_notMem (by decide))
  obtain rfl : ⟨keywords, present, file⟩ = t :=
    Except.ok.inj ((htold h file (by decide +kernel)).symm.trans ht)
  have hplain : ∀ l, Told.Plain ⟨keywords, present, file⟩ l := fun _ _ =>
    ⟨fun _ => Or.inr nofun, fun _ _ => Or.inr nofun⟩
  have hdeletes : Told.Deletes ⟨keywords, present, file⟩ .baseUrl ⟨keywords, present, rest⟩ :=
    .file (.single rfl)
  exact ⟨s, hs, hslash, hfirst .baseUrl (hplain _), hfirst .apiKey (hplain _),
    hfirst .logLevel (hplain _), hfirst .logFormat (hplain _),
    hdelete hplain h' _ .baseUrl hdeletes (htold h' rest (by decide +kernel))⟩

/-- A null text of the settings of logging hides a variable of the environment, and a keyword for
    the environment file hides the file. -/
theorem variable_hidden_by_null :
    let octets (s : String) : List UInt8 := s.toList.map fun c => UInt8.ofNat c.toNat
    let h : Host :=
      ⟨[("BRIGHT_OBSERVABILITY", "null"), ("BRIGHT_OBSERVABILITY__LOG_LEVEL", "debug")],
        [(".env", octets "BRIGHT_API_KEY=a")]⟩
    ((told h []).toOption.bind fun t => (t.first? .logLevel).bind Value.asText?) = some "debug" ∧
      (load h []).toOption.map (fun s => (s.apiKey, s.logLevel)) = some ("a", "info") ∧
      (load h [("_env_file", .null)]).toOption.map (fun s => (s.apiKey, s.logLevel)) =
        some ("", "info") := by
  decide +kernel

end SearchClient.Settings
