import Mathlib
import SearchClient.Proofs.JsonLine
import SearchClient.Proofs.Replies

set_option autoImplicit false

/-! # Configurations that are read and sent back

A configuration of an index that a reply holds is sent back as the reply held it, whether it fits or
not: nothing is added and nothing is lost, but the key goes by its name in data
(`Client.configuration_sent_back`). For this the fields of the configuration have to keep the data
that they take as they are (`Record.Keeps`). -/

namespace SearchClient.Record

open Schema

/-! ## Data given back -/

/-- Data of a JSON text hold no records, so they are given back as they are. -/
theorem dump_of_isJson (o : DumpOptions) {v : Value} (hv : IsJson v) : dump o v = v := by
  induction hv with
  | @list items hitems ih =>
    rw [dump, dumpItems_eq_map]
    exact congrArg Value.list ((List.map_congr_left ih).trans (List.map_id items))
  | @map entries hnames hentries ih =>
    have hsame : entries.map (fun e => (e.1, dump o e.2)) = entries :=
      (List.map_congr_left fun e he => by rw [ih e he]; rfl).trans (List.map_id entries)
    rw [dump, dumpEntries_eq_map, hsame]
  | _ => rfl

/-- A shape that takes data of a JSON text only as they are. -/
def Keeps (s : Shape) : Prop :=
  ∀ v w, IsJson v → s.check v = .ok w → w = v

theorem keeps_text : Keeps .text := by
  intro v w hv hcheck
  cases hv with
  | text s => exact (Except.ok.inj hcheck).symm
  | _ => exact nomatch hcheck

theorem keeps_optional {s : Shape} (h : Keeps s) : Keeps (.optional s) := by
  intro v w hv hcheck
  cases v with
  | null => exact (Except.ok.inj hcheck).symm
  | _ => exact h _ _ hv hcheck

/-- The fields of a configuration keep the data that they take. -/
theorem keeps_index : ∀ f ∈ fieldsOf .index, Keeps f.shape :=
  List.forall_mem_cons.2 ⟨keeps_text, List.forall_mem_singleton.2 (keeps_optional keeps_text)⟩

theorem isJson_of_supplied {es : Entries Value} (hjson : IsJson (.map es)) {f : FieldRule} {v : Value}
    (h : f.supplied? es = some v) : IsJson v := by
  rcases Option.or_eq_some_iff.1 h with hwire | ⟨-, hname⟩
  · exact hjson.get? hwire
  · exact hjson.get? hname

theorem wireMembers_eq_wired {es : Entries Value} (hjson : IsJson (.map es))
    {value : FieldRule → Option Value} {fields : List FieldRule}
    (hvalue : ∀ f ∈ fields, ∀ v, f.supplied? es = some v → value f = some v) :
    wireMembers value (suppliedIn es fields) = wired fields es := by
  rw [wireMembers, suppliedIn, List.filterMap_filter]
  refine List.filterMap_congr fun f hf => ?_
  cases hsupplied : f.supplied? es with
  | none => rfl
  | some v =>
    rw [hvalue f hf v hsupplied]
    show some (f.wire, dump asGiven v) = some (f.wire, v)
    rw [dump_of_isJson asGiven (isJson_of_supplied hjson hsupplied)]

/-- No name occurs twice among those of the fields and those left over. -/
theorem nodup_names_wired_append {model : Model} {es : Entries Value} (hnodup : es.names.Nodup) :
    (wired (fieldsOf model) es ++ extraOf model es).names.Nodup := by
  have hwires := nodup_wires_of_apart (apart_fieldsOf model)
  rw [Entries.names, List.map_append]
  refine List.Nodup.append ?_ (hnodup.sublist ((extraOf_sublist model es).map _)) ?_
  · have hnames := names_wired (fieldsOf model) es
    rw [Entries.names] at hnames
    rw [hnames]
    exact hwires.sublist (List.filter_sublist.map _)
  · intro name hname hextra
    have hmem : name ∈ (wired (fieldsOf model) es).names := hname
    rw [names_wired] at hmem
    obtain ⟨f, hf, rfl⟩ := List.mem_map.1 hmem
    exact wire_notMem_extraOf (List.mem_of_mem_filter hf) hextra

/-- **A record gives all data back**, by their names in data, where its fields have the values that
    are supplied to them. -/
theorem dump_perm {model : Model} (hkept : extrasOf model = .kept) {es : Entries Value}
    (hjson : IsJson (.map es)) {value : FieldRule → Option Value}
    (hvalue : ∀ f ∈ fieldsOf model, ∀ v, f.supplied? es = some v → value f = some v)
    {given : List String}
    (hgiven : ∀ f ∈ fieldsOf model, f.name ∈ given ↔ (f.supplied? es).isSome = true) :
    ∃ dumped : Entries Value,
      dump asGiven (.record model (membersOf value (fieldsOf model)) (extraOf model es) given) =
          .map dumped ∧
        dumped.names.Nodup ∧
        dumped.Perm (es.map fun e => (renamed (fieldsOf model) es e.1, e.2)) := by
  cases hjson with
  | map hnodup hentries =>
    -- neither what fields hold nor what is left over is changed when it is given back
    have hextra : (extraOf model es).map (fun e => (e.1, dump asGiven e.2)) = extraOf model es := by
      refine (List.map_congr_left fun e he => ?_).trans (List.map_id _)
      rw [dump_of_isJson asGiven (hentries e ((extraOf_sublist model es).subset he))]
      rfl
    refine ⟨wired (fieldsOf model) es ++ extraOf model es, ?_, nodup_names_wired_append hnodup, ?_⟩
    · rw [dump_made hnodup hgiven, wireMembers_eq_wired (.map hnodup hentries) hvalue, hextra]
    · rw [extraOf, if_pos hkept]
      exact perm_renamed (apart_fieldsOf model) hnodup

/-! ## Both ways to make a record -/

/-- What is made of an object whose fields keep their data: a record that gives the object back. -/
def GivesBack (model : Model) (es : Entries Value) (r : Value) : Prop :=
  ∃ dumped : Entries Value, dump asGiven r = .map dumped ∧ dumped.names.Nodup ∧
    dumped.Perm (es.map fun e => (renamed (fieldsOf model) es e.1, e.2))

theorem givesBack_of_check {model : Model} (hkept : extrasOf model = .kept)
    (hkeeps : ∀ f ∈ fieldsOf model, Keeps f.shape) {es : Entries Value} (hjson : IsJson (.map es))
    {r : Value} (h : check model (.map es) = .ok r) : GivesBack model es r := by
  obtain ⟨hfits, -, -, rfl⟩ := check_map_eq_ok_iff.1 h
  refine dump_perm hkept hjson (fun f hf v hv => ?_) fun f hf => mem_given_append_iff hf
  have hfit := hfits f hf
  unfold FieldOf.Fits at hfit
  rw [hv] at hfit
  obtain ⟨w, hw⟩ := hfit
  obtain rfl := hkeeps f hf v w (isJson_of_supplied hjson hv) hw
  simp only [FieldOf.checked?, hv, hw]
  rfl

theorem givesBack_keep {model : Model} (hkept : extrasOf model = .kept) {es : Entries Value}
    (hjson : IsJson (.map es)) : GivesBack model es (keep model es) := by
  rw [keep_eq]
  refine dump_perm hkept hjson (fun f hf v hv => ?_) fun f hf => mem_givenIn_iff hf
  rw [FieldOf.kept?, hv, Option.some_or]

end SearchClient.Record

namespace SearchClient.Client

open Record Schema Http

namespace Reply

/-- **Wrapping can be undone.** An object without reserved names is wrapped in a record that gives
    it back. -/
theorem exists_wrap_givesBack {model : Model} (hkept : extrasOf model = .kept)
    (hkeeps : ∀ f ∈ fieldsOf model, Keeps f.shape) {es : Entries Value} (hjson : IsJson (.map es))
    (hcls : es.has "cls" = false) (hset : es.has "_fields_set" = false) :
    ∃ fields extra given, (wrap model (.map es)).result = .ok (.record model fields extra given) ∧
      GivesBack model es (.record model fields extra given) := by
  -- checked if it fits, and else kept as it is: both records give the object back
  by_cases hfits : Fits model es
  · obtain ⟨r, hr⟩ := (exists_check_iff hkept).2 hfits
    have hback := givesBack_of_check hkept hkeeps hjson hr
    obtain ⟨-, -, -, rfl⟩ := check_map_eq_ok_iff.1 hr
    exact ⟨_, _, _, result_wrap_of_check hr, hback⟩
  · have hback := givesBack_keep hkept hjson
    rw [keep_eq] at hback
    refine ⟨_, _, _, ?_, hback⟩
    rw [result_wrap_of_not_fits hkept hfits, keep_of_unreserved hcls hset, keep_eq]
    rfl

end Reply

/-! ## Configurations -/

/-- The name under which an entry of a configuration is sent back. -/
def nameSentBack (es : Entries Value) (name : String) : String :=
  if name = "primary_key" ∧ es.has "primaryKey" = false then "primaryKey" else name

/-- Only the key of a configuration has a name of its own in data. -/
theorem renamed_index (es : Entries Value) (name : String) :
    renamed (fieldsOf .index) es name = nameSentBack es name := by
  unfold nameSentBack
  by_cases hkey : name = "primary_key"
  · subst hkey
    show (if es.has "primaryKey" then "primary_key" else "primaryKey") = _
    cases es.has "primaryKey" <;> rfl
  · rw [if_neg fun h => hkey h.1]
    by_cases hid : name = "id"
    · subst hid
      exact ite_self _
    · refine renamed_of_ne (List.forall_mem_cons.2 ⟨Ne.symm hid, ?_⟩)
      exact List.forall_mem_singleton.2 (Ne.symm hkey)

namespace Operation

/-- What a configuration gives back is written into the body, and reads back from there. -/
theorem exists_body_of_updateIndex {es : Entries Value} (hjson : IsJson (.map es))
    (hprintable : Json.Printable (.map es)) {fields extra : Entries Value} {given : List String}
    (hback : GivesBack .index es (.record .index fields extra given)) (target : Value) :
    ∃ (c : Call) (text : String) (sent : Entries Value),
      (updateIndex target (.record .index fields extra given)).call = .ok c ∧
        Executor.bodyText c.body = .ok text ∧ Json.readText text.toList = .ok (.map sent) ∧
        sent.names.Nodup ∧ sent.Perm (es.map fun e => (nameSentBack es e.1, e.2)) := by
  obtain ⟨sent, hdump, hnodup, hperm⟩ := hback
  simp only [renamed_index] at hperm
  have hvalues : ∀ e ∈ sent, IsJson e.2 ∧ Json.Printable e.2 := by
    intro e he
    obtain ⟨e', he', rfl⟩ := List.mem_map.1 (hperm.mem_iff.1 he)
    cases hjson with
    | map hnames hentries =>
      cases hprintable with
      | map hall => exact ⟨hentries e' he', hall e' he'⟩
  have hsent : Json.Printable (.map sent) := .map fun e he => (hvalues e he).2
  obtain ⟨cs, hwrite, hread, -, -⟩ := Json.exists_object Json.Style.legible_body rfl hsent
  rw [Json.readAs_eq_self (by decide) (.map hnodup fun e he => (hvalues e he).1)] at hread
  refine ⟨_, String.ofList cs, sent, rfl, ?_, ?_, hnodup, hperm⟩
  · show Executor.bodyText (.json (dump asGiven (.record .index fields extra given))) = _
    rw [hdump, Executor.bodyText, Json.content_of_printable hsent hwrite]
    rfl
  · rwa [String.toList_ofList]

end Operation

end SearchClient.Client
