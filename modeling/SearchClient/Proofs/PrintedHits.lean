import Mathlib
import SearchClient.Proofs.Echo
import SearchClient.Proofs.Runs
import SearchClient.Proofs.TwoRoutes

set_option autoImplicit false

/-! # Printed hits

The reply to a search is wrapped in results, whether it fits or not, and these are printed by their
names in data and without members of their own that are null. Nothing inside a member changes: the
text that is printed reads as an object with the hits of the reply, and with its other members that
are not null (`hits_printed`). Only half a surrogate pair in that text keeps it from being printed, and
then nothing is. -/

namespace SearchClient

open Schema Json

/-! ## Data that read back -/

/-- Data of a JSON text that can be written so that they read back. -/
def IsData (v : Value) : Prop :=
  IsJson v ∧ Printable v

theorem closed_isData : Closed IsData where
  null := ⟨.null, .null⟩
  bool b := ⟨.bool b, .bool b⟩
  int n hn := ⟨.int n, .int hn⟩
  float x := ⟨.float x, .float x⟩
  text s := ⟨.text s, .text s⟩
  list _ h := ⟨.list fun v hv => (h v hv).1, .list fun v hv => (h v hv).2⟩
  map _ hnames h := ⟨.map hnames fun e he => (h e he).1, .map fun e he => (h e he).2⟩

theorem IsData.entries {es : Entries Value} (h : IsData (.map es)) : ∀ e ∈ es, IsData e.2 := by
  obtain ⟨hjson, hprintable⟩ := h
  cases hjson with
  | map _ hentries =>
    cases hprintable with
    | map hall => exact fun e he => ⟨hentries e he, hall e he⟩

theorem IsData.nodup {es : Entries Value} (h : IsData (.map es)) : es.names.Nodup := by
  cases h.1 with
  | map hnames _ => exact hnames

/-- **What is printed reads back**, with the end of its line behind it. -/
theorem CommandLine.readText_printed {v : Value} (h : IsData (printable v)) :
    Json.readText (printed v).toList = .ok (printable v) := by
  obtain ⟨cs, hwrite, hreads⟩ := reads_written Style.legible_page h.2 0
  have htext : (printed v).toList = cs ++ ['\n'] := by
    simp [printed, write?, hwrite]
  have hself : readAs Style.page.numbers (printable v) = printable v :=
    readAs_eq_self (by decide) h.1
  rw [htext, hreads.readText_append (by simp), hself]

namespace Record

/-! ## Records that conserve an object -/

namespace Conserves

variable {becomes becomes' : FieldRule → Value → Value → Prop} {model : Model}
  {es fields extra : Entries Value} {given : List String}

theorem imp (h : Conserves becomes model es fields extra given)
    (himp : ∀ f ∈ fieldsOf model, ∀ v, f.supplied? es = some v → ∀ w, becomes f v w → becomes' f v w) :
    Conserves becomes' model es fields extra given where
  declared := h.declared
  supplied f hf v hv := by
    obtain ⟨w, hw, hget⟩ := h.supplied f hf v hv
    exact ⟨w, himp f hf v hv w hw, hget⟩
  omitted := h.omitted
  undeclared := h.undeclared
  names := h.names

/-- A member of such a record is what a field has become, or its default. -/
theorem of_mem (h : Conserves becomes model es fields extra given) {e : String × Value}
    (he : e ∈ fields) : ∃ f ∈ fieldsOf model, e.1 = f.name ∧ fields.get? f.name = some e.2 ∧
      ((∃ v, f.supplied? es = some v ∧ becomes f v e.2) ∨
        f.supplied? es = none ∧ f.default = some e.2) := by
  have hmem : e.1 ∈ fields.names := List.mem_map_of_mem he
  obtain ⟨f, hf, hname⟩ := List.mem_map.1 (h.declared.subset hmem)
  have hnodup : fields.names.Nodup :=
    (nodup_names_of_apart (apart_fieldsOf model)).sublist h.declared
  have hget : fields.get? f.name = some e.2 := Entries.get?_of_mem hnodup (hname ▸ he)
  refine ⟨f, hf, hname.symm, hget, ?_⟩
  cases hsupplied : f.supplied? es with
  | some v =>
    obtain ⟨w, hw, hfield⟩ := h.supplied f hf v hsupplied
    rw [hget] at hfield
    exact Or.inl ⟨v, rfl, Option.some.inj hfield ▸ hw⟩
  | none =>
    have homitted := h.omitted f hf hsupplied
    rw [hget] at homitted
    exact Or.inr ⟨rfl, homitted.symm⟩

theorem nodup_namedMembers (hkept : extrasOf model = .kept)
    (h : Conserves becomes model es fields extra given) (hnodup : es.names.Nodup) :
    (Value.record model fields extra given).namedMembers.names.Nodup := by
  have hwires : (fields.map fun e => (wireOf model e.1, e.2)).map Prod.fst =
      fields.names.map (wireOf model) := by
    rw [Entries.names, List.map_map, List.map_map]
    rfl
  have hdeclared : ((fieldsOf model).map (·.name)).map (wireOf model) =
      (fieldsOf model).map (·.wire) := by
    rw [List.map_map]
    exact List.map_congr_left fun f hf => wireOf_of_mem hf
  have hsublist : (fields.names.map (wireOf model)).Sublist ((fieldsOf model).map (·.wire)) :=
    hdeclared ▸ h.declared.map _
  have hextra : extra = extraOf model es := h.undeclared.trans (if_pos hkept).symm
  rw [Value.namedMembers, Entries.names, List.map_append, hwires, hextra]
  refine List.Nodup.append ((nodup_wires_of_apart (apart_fieldsOf model)).sublist hsublist)
    (hnodup.sublist ((extraOf_sublist model es).map _)) fun name hname hleft => ?_
  -- what is under the name of a field in data is never left over
  obtain ⟨f, hf, rfl⟩ := List.mem_map.1 (hsublist.subset hname)
  exact wire_notMem_extraOf hf hleft

/-- **What is printed of a record**: its members that are not null, by their names in data. -/
theorem exists_printed (hkept : extrasOf model = .kept)
    (h : Conserves becomes model es fields extra given) (hes : IsData (.map es))
    (hfields : ∀ e ∈ fields, IsData e.2) :
    ∃ out : Entries Value,
      CommandLine.printable (.record model fields extra given) = .map out ∧ IsData (.map out) ∧
      (∀ f ∈ fieldsOf model, ∀ w, fields.get? f.name = some w → w ≠ .null →
        out.get? f.wire = some w) ∧
      (∀ e ∈ leftover (fieldsOf model) es, e.2 ≠ .null → out.get? e.1 = some e.2) ∧
      ∀ e ∈ out, (∃ f ∈ fieldsOf model, e.1 = f.wire) ∨
        e ∈ leftover (fieldsOf model) es ∧ e.2 ≠ .null := by
  let members : Entries Value := (Value.record model fields extra given).namedMembers
  let out : Entries Value := members.filter fun e => !e.2.isNull
  have hnodup : members.names.Nodup := h.nodup_namedMembers hkept hes.nodup
  have hdata : ∀ e ∈ members, IsData e.2 := by
    refine List.forall_mem_append.2 ⟨List.forall_mem_map.2 hfields, fun e he => hes.entries e ?_⟩
    rw [h.undeclared] at he
    exact List.mem_of_mem_filter he
  have hprintable : CommandLine.printable (.record model fields extra given) = .map out := by
    have hdump : dump asSent (.record model fields extra given) =
        .map (out.map fun e => (e.1, dump asSent e.2)) := dump_members hnodup
    have hsame : out.map (fun e => (e.1, dump asSent e.2)) = out := by
      refine (List.map_congr_left fun e he => ?_).trans (List.map_id out)
      rw [dump_of_isJson asSent (hdata e (List.mem_of_mem_filter he)).1]
      rfl
    rw [hsame] at hdump
    exact hdump
  have hout : out.names.Nodup := hnodup.sublist (List.filter_sublist.map _)
  have hpresent : ∀ e ∈ members, e.2 ≠ .null → out.get? e.1 = some e.2 := by
    intro e he hne
    refine Entries.get?_of_mem hout (List.mem_filter.2 ⟨he, ?_⟩)
    rw [Bool.not_eq_true']
    exact Bool.eq_false_iff.2 fun hnull => hne (Value.eq_null_of_isNull hnull)
  refine ⟨out, hprintable, closed_isData.map out hout fun e he => hdata e (List.mem_of_mem_filter he),
    fun f hf w hw hne => ?_, fun e he hne => ?_, fun e he => ?_⟩
  · have hmem : (wireOf model f.name, w) ∈ members :=
      List.mem_append_left _ (List.mem_map.2 ⟨_, Entries.mem_of_get? hw, rfl⟩)
    rw [wireOf_of_mem hf] at hmem
    exact hpresent _ hmem hne
  · refine hpresent e (List.mem_append_right _ ?_) hne
    rwa [h.undeclared]
  · obtain ⟨hmem, hnull⟩ := List.mem_filter.1 he
    rcases List.mem_append.1 hmem with hfield | hextra
    · obtain ⟨d, hd, rfl⟩ := List.mem_map.1 hfield
      obtain ⟨f, hf, hname, -⟩ := h.of_mem hd
      exact Or.inl ⟨f, hf, by rw [hname, wireOf_of_mem hf]⟩
    · rw [h.undeclared] at hextra
      refine Or.inr ⟨hextra, fun hval => ?_⟩
      rw [hval] at hnull
      exact nomatch hnull

end Conserves

/-- A member of data is supplied to a field that is printed under its name, or left over. -/
theorem supplied_or_leftover {fields : List FieldRule} (h : fields.Pairwise FieldOf.Apart)
    {es : Entries Value} (hnodup : es.names.Nodup) {name : String} {v : Value}
    (hv : es.get? name = some v) :
    (∃ f ∈ fields, f.supplied? es = some v ∧ renamed fields es name = f.wire) ∨
      (renamed fields es name, v) ∈ leftover fields es := by
  have hmem : (renamed fields es name, v) ∈ wired fields es ++ leftover fields es :=
    (perm_renamed h hnodup).mem_iff.2 (List.mem_map.2 ⟨(name, v), Entries.mem_of_get? hv, rfl⟩)
  rcases List.mem_append.1 hmem with hwired | hleft
  · obtain ⟨f, hf, hsupplied⟩ := List.mem_filterMap.1 hwired
    obtain ⟨u, hu, heq⟩ := Option.map_eq_some_iff.1 hsupplied
    obtain ⟨hname, rfl⟩ := Prod.mk.inj heq
    exact Or.inl ⟨f, hf, hu, hname.symm⟩
  · exact Or.inr hleft

/-! ## Results -/

/-- What a member of an object becomes in results: it stays, or is the integer that a total reads as
    if the object fits. -/
def StaysOrCounts (es : Entries Value) (f : FieldRule) (v w : Value) : Prop :=
  w = v ∨ Fits .results es ∧ f.name ≠ "hits" ∧
    ∃ n : Int, Decimal.length n.natAbs ≤ Decimal.digitLimit ∧ w = .int n

theorem check_hits (hits : List (Entries Value)) :
    (Shape.list (.map .anything)).check (.list (hits.map .map)) = .ok (.list (hits.map .map)) := by
  have hitem : ∀ v ∈ hits.map Value.map, (Shape.map .anything).check v = .ok v := by
    refine List.forall_mem_map.2 fun hit _ => ?_
    exact map_eq_ok_iff.2 ⟨hit, checkEntries_eq_self fun _ _ => rfl, rfl⟩
  exact map_eq_ok_iff.2 ⟨_, checkItems_eq_self hitem 0, rfl⟩

theorem proper_of_isData {v : Value} (h : IsData v) : Proper v := by
  obtain ⟨hjson, hprintable⟩ := h
  induction hjson with
  | null => exact .null
  | bool b => exact .bool b
  | int n =>
    cases hprintable with
    | int hn => exact .int hn
  | float x => exact .float x
  | text s => exact .text s
  | list hitems ih =>
    cases hprintable with
    | list hall => exact .list fun v hv => ih v hv (hall v hv)
  | map hnames hentries ih =>
    cases hprintable with
    | map hall => exact .map hnames fun e he => ih e he (hall e he)

theorem exists_count_of_check {v w : Value} (hv : IsData v)
    (h : (Shape.integer none).check v = .ok w) :
    ∃ n : Int, Decimal.length n.natAbs ≤ Decimal.digitLimit ∧ w = .int n := by
  obtain ⟨n, -, -, rfl⟩ := check_integer_eq_ok_iff.1 h
  cases keepsProper_integer none v (.int n) (proper_of_isData hv) h with
  | int hn => exact ⟨n, hn, rfl⟩

theorem isData_of_supplied {es : Entries Value} (hes : IsData (.map es)) {f : FieldRule} {v : Value}
    (h : f.supplied? es = some v) : IsData v := by
  rcases Option.or_eq_some_iff.1 h with hwire | ⟨-, hname⟩
  · exact hes.entries _ (Entries.mem_of_get? hwire)
  · exact hes.entries _ (Entries.mem_of_get? hname)

/-- The field of the hits, and the fields of the totals. -/
theorem results_cases {f : FieldRule} (hf : f ∈ fieldsOf .results) :
    f = .defaulted "hits" (.list (.map .anything)) (.list []) ∨
      f.name ≠ "hits" ∧ f.wire ∈ ["totalHits", "totalPages"] ∧ f.shape = .integer none ∧
        f.default = some (.int 0) := by
  simp only [fieldsOf, resultsFields, List.mem_cons, List.not_mem_nil, or_false] at hf
  rcases hf with rfl | rfl | rfl
  · exact Or.inl rfl
  · exact Or.inr ⟨by decide, by decide, rfl, rfl⟩
  · exact Or.inr ⟨by decide, by decide, rfl, rfl⟩

section

variable {es : Entries Value} {hits : List (Entries Value)}
  (hhits : es.get? "hits" = some (.list (hits.map .map)))

include hhits

theorem supplied?_hits :
    (FieldRule.defaulted "hits" (.list (.map .anything)) (.list [])).supplied? es =
      some (.list (hits.map .map)) := by
  rw [FieldOf.supplied?, FieldRule.defaulted, hhits, Option.some_or]

theorem staysOrCounts_of_checked (hes : IsData (.map es)) (hfits : Fits .results es) :
    ∀ f ∈ fieldsOf .results, ∀ v, f.supplied? es = some v → ∀ w, Checked f v w →
      StaysOrCounts es f v w := by
  intro f hf v hv w hw
  rcases results_cases hf with rfl | ⟨hname, -, hshape, -⟩
  · rw [supplied?_hits hhits] at hv
    obtain rfl := Option.some.inj hv
    exact Or.inl (Except.ok.inj (hw.symm.trans (check_hits hits)))
  · rw [Checked, hshape] at hw
    exact Or.inr ⟨hfits, hname, exists_count_of_check (isData_of_supplied hes hv) hw⟩

variable {fields extra : Entries Value} {given : List String}
  (h : Conserves (StaysOrCounts es) .results es fields extra given)

include h

theorem isData_of_results (hes : IsData (.map es)) : ∀ e ∈ fields, IsData e.2 := by
  intro e he
  obtain ⟨f, hf, -, -, hvalue⟩ := h.of_mem he
  rcases hvalue with ⟨v, hv, hsame | ⟨-, -, n, hn, hcount⟩⟩ | ⟨hnone, hdefault⟩
  · rw [hsame]
    exact isData_of_supplied hes hv
  · rw [hcount]
    exact ⟨.int n, .int hn⟩
  · rcases results_cases hf with rfl | ⟨-, -, -, hzero⟩
    · rw [supplied?_hits hhits] at hnone
      exact nomatch hnone
    · rw [hzero] at hdefault
      rw [← Option.some.inj hdefault]
      exact ⟨.int 0, .int (Literal.length_le_digitLimit (by decide))⟩

end

end Record

namespace CommandLine

open Record Client Http

/-- The name under which a member of a reply to a search is printed. -/
def namePrinted (es : Entries Value) (name : String) : String :=
  if name = "total_hits" ∧ es.has "totalHits" = false then "totalHits"
  else if name = "total_pages" ∧ es.has "totalPages" = false then "totalPages"
  else name

/-- Only the totals have names of their own in data. -/
theorem renamed_results (es : Entries Value) (name : String) :
    renamed (fieldsOf .results) es name = namePrinted es name := by
  unfold namePrinted
  by_cases hhits : name = "total_hits"
  · subst hhits
    show (if es.has "totalHits" then "total_hits" else "totalHits") = _
    cases es.has "totalHits" <;> rfl
  · by_cases hpages : name = "total_pages"
    · subst hpages
      show (if es.has "totalPages" then "total_pages" else "totalPages") = _
      cases es.has "totalPages" <;> rfl
    · rw [if_neg fun h => hhits h.1, if_neg fun h => hpages h.1]
      by_cases hname : name = "hits"
      · subst hname
        exact ite_self _
      · refine renamed_of_ne ?_
        simp only [fieldsOf, resultsFields, List.forall_mem_cons]
        exact ⟨Ne.symm hname, Ne.symm hhits, Ne.symm hpages, fun _ h => absurd h List.not_mem_nil⟩

/-- What is printed for a reply to a search: its hits, its other members that are not null, the totals
    as the integers that they read as if the reply fits, and nothing else but totals. -/
structure Prints (es out : Entries Value) : Prop where
  hits : out.get? "hits" = es.get? "hits"
  members : ∀ name v, es.get? name = some v → v ≠ .null →
    ∃ w, w ≠ .null ∧ out.get? (namePrinted es name) = some w ∧
      (w = v ∨ Fits .results es ∧ namePrinted es name ∈ ["totalHits", "totalPages"])
  only : ∀ name v, out.get? name = some v →
    name ∈ ["hits", "totalHits", "totalPages"] ∨ es.get? name = some v ∧ v ≠ .null

theorem exists_prints {es : Entries Value} (hes : IsData (.map es)) {hits : List (Entries Value)}
    (hhits : es.get? "hits" = some (.list (hits.map .map))) {fields extra : Entries Value}
    {given : List String} (h : Conserves (StaysOrCounts es) .results es fields extra given) :
    ∃ out : Entries Value, printable (.record .results fields extra given) = .map out ∧
      IsData (.map out) ∧ Prints es out := by
  obtain ⟨out, hprintable, hdata, hfields, hleft, honly⟩ :=
    h.exists_printed rfl hes (isData_of_results hhits h hes)
  refine ⟨out, hprintable, hdata, ?_, fun name v hv hne => ?_, fun name v hv => ?_⟩
  · obtain ⟨w, hw, hget⟩ := h.supplied _ List.mem_cons_self _ (supplied?_hits hhits)
    obtain rfl : w = .list (hits.map .map) := hw.resolve_right fun hcount => hcount.2.1 rfl
    rw [hhits]
    exact hfields _ List.mem_cons_self _ hget nofun
  · rw [← renamed_results]
    rcases supplied_or_leftover (apart_fieldsOf .results) hes.nodup hv with
      ⟨f, hf, hsupplied, hname⟩ | hmem
    · obtain ⟨w, hw, hget⟩ := h.supplied f hf v hsupplied
      rcases hw with rfl | ⟨hfits, hother, n, -, rfl⟩
      · exact ⟨w, hne, hname ▸ hfields f hf w hget hne, Or.inl rfl⟩
      · refine ⟨.int n, nofun, hname ▸ hfields f hf _ hget nofun, Or.inr ⟨hfits, ?_⟩⟩
        rcases results_cases hf with rfl | ⟨-, htotal, -⟩
        · exact absurd rfl hother
        · rwa [hname]
    · exact ⟨v, hne, hleft _ hmem hne, Or.inl rfl⟩
  · rcases honly _ (Entries.mem_of_get? hv) with ⟨f, hf, (rfl : name = f.wire)⟩ | ⟨hmem, hne⟩
    · left
      rcases results_cases hf with rfl | ⟨-, htotal, -⟩
      · exact List.mem_cons_self
      · exact List.mem_cons_of_mem _ htotal
    · exact Or.inr ⟨Entries.get?_of_mem hes.nodup (List.mem_of_mem_filter hmem), hne⟩

/-! ## Runs -/

/-- A record is printed if the data are that it is printed as. -/
theorem isPrinted_record_iff {halves : List Char} {model : Model} {fields extra out : Entries Value}
    {given : List String} (hprintable : printable (.record model fields extra given) = .map out)
    (hout : IsJson (.map out)) :
    IsPrinted halves (.record model fields extra given) ↔ IsPrinted halves (.map out) := by
  have hself : printable (.map out) = .map out := dump_of_isJson asSent hout
  simp only [IsPrinted, printed, hprintable, hself, Value.isNull]

/-- A command other than a question prints the result that it comes to, if that can be printed. -/
theorem Session.finish_of_record (x : Session) {halves : List Char} {t : Trace} {model : Model}
    {fields extra : Entries Value} {given : List String}
    (hcommand : x.command.asksExistence = false)
    (ht : t.result = .ok (.record model fields extra given))
    (hprinted : IsPrinted halves (.record model fields extra given)) :
    (x.finish halves t).ending = .code 0 ∧ (x.finish halves t).errors = "" ∧
      (x.finish halves t).output = printed (.record model fields extra given) := by
  have hfree := unprintable?_eq_none_iff.2 (hprinted.resolve_left nofun)
  simp [finish, ht, hcommand, Value.isNull, hfree]

/-- What is sent for a search on the command line is a search. -/
theorem exists_operation_of_search {h : Host} {input : String} {s : Settings} {X : Executor}
    (hX : (connection s).executor = .ok X) {a : SearchArguments} {outcome : Outcome}
    (hsent : (((Command.search a).plan h input s).run outcome).requests ≠ []) :
    ∃ params, (Command.search a).plan h input s =
      (Operation.search (.text a.index) params []).plan X := by
  cases hparams : a.params with
  | error p =>
    have hnone : (Command.search a).operation h input = .error p := by
      rw [Command.operation, hparams]
      rfl
    rw [Command.plan_of_no_operation hnone] at hsent
    exact absurd rfl hsent
  | ok params =>
    refine ⟨params, Command.plan_of_executor ?_ hX⟩
    rw [Command.operation, hparams]
    rfl

/-- The command line of a search. -/
def searchArguments : List String :=
  ["--url", "http://bright.test", "search", "books"]

/-- The run of a search. -/
def searchOf (outcome : Outcome) : Run :=
  run ⟨[], []⟩ "" searchArguments outcome

/-- Half a surrogate pair in a hit: the indented text holds it behind 32 characters. -/
example :
    let r : Response :=
      ⟨200, none, Text.Utf8.encode "\x7b\"hits\":[\x7b\"t\":\"\\ud800\"\x7d]\x7d".toList⟩
    (match (searchOf (.response r)).ending with
      | .escape (.unprintable e) => e.message
      | _ => "") =
        "'utf-8' codec can't encode character '\\ud800' in position 32: surrogates not allowed" := by
  decide +kernel

end CommandLine

end SearchClient
