import Mathlib
import SearchClient.CommandLine.Criterion
import SearchClient.Proofs.ClauseReader
import SearchClient.Proofs.Entries
import SearchClient.Proofs.Except
import SearchClient.Proofs.Split

set_option autoImplicit false

/-! # Criteria that are spelled out

`Filter.Spelled` and `Bound.Spelled` say which texts spell a filter and a bound, and which ones; the
readers read exactly these (`readFilter_eq_ok_iff`, `readRange_eq_ok_iff`). Of several filters of one
field the last one counts, and of several bounds of one field those that are last on their side;
ranges that are read one after the other hold just these (`Holds.foldlM`). -/

namespace SearchClient.CommandLine

open Query (Comparison isSignChar)

/-! ## Filters -/

/-- A filter: what a field has to match, and the number that boosts it if there is one. -/
structure Filter where
  field : String
  value : String
  boost : Option Value

/-- A text that spells a filter. The field ends at the first equality sign, and a boost stands behind
    the last caret. -/
inductive Filter.Spelled : String → Filter → Prop where
  | plain {field value : String} (hne : field ≠ "") (hfield : '=' ∉ field.toList)
      (hvalue : '^' ∉ value.toList) : Spelled (field ++ "=" ++ value) ⟨field, value, none⟩
  | boosted {field value boost : String} {n : Value} (hne : field ≠ "")
      (hfield : '=' ∉ field.toList) (hboost : '^' ∉ boost.toList) (hn : boost? boost = some n) :
      Spelled (field ++ "=" ++ value ++ "^" ++ boost) ⟨field, value, some n⟩

/-- What a filter becomes in the parameters of a search. -/
def Filter.entry (f : Filter) : Value :=
  match f.boost with
  | none => .text f.value
  | some n => weighted f.value n

section

variable {raw field : String} {rest : List Char} (hne : field ≠ "")
  (hcut : Text.cut? '=' raw.toList = some (field.toList, rest))

include hne hcut

theorem readFilter_of_plain (hlast : Text.cutLast? '^' rest = none) :
    readFilter raw = .ok (field, .text (String.ofList rest)) := by
  unfold readFilter
  rw [hcut]
  cases hchars : field.toList with
  | nil => exact absurd (String.toList_eq_nil_iff.1 hchars) hne
  | cons c cs =>
    have hfield : String.ofList (c :: cs) = field := by rw [← hchars, String.ofList_toList]
    simp only [hfield, hlast]

theorem readFilter_of_boosted {value boost : List Char} {n : Value}
    (hlast : Text.cutLast? '^' rest = some (value, boost))
    (hn : boost? (String.ofList boost) = some n) :
    readFilter raw = .ok (field, weighted (String.ofList value) n) := by
  unfold readFilter
  rw [hcut]
  cases hchars : field.toList with
  | nil => exact absurd (String.toList_eq_nil_iff.1 hchars) hne
  | cons c cs =>
    have hfield : String.ofList (c :: cs) = field := by rw [← hchars, String.ofList_toList]
    simp only [hfield, hlast, hn]

end

theorem exists_spelled_of_readFilter {raw : String} {e : String × Value} (h : readFilter raw = .ok e) :
    ∃ f, Filter.Spelled raw f ∧ e = (f.field, f.entry) := by
  unfold readFilter at h
  split at h
  · exact nomatch h
  · exact nomatch h
  · next field rest hfirst hcut =>
    obtain ⟨hraw, hfield⟩ := (Text.cut?_eq_some_iff _ _ _ _).1 hcut
    have hne : String.ofList field ≠ "" := mt String.ofList_eq_empty_iff.1 hfirst
    rw [← String.toList_ofList (l := field)] at hfield
    dsimp only at h
    split at h
    · next hlast =>
      obtain rfl := Except.ok.inj h
      have hvalue := (Text.cutLast?_eq_none_iff rest).1 hlast
      rw [← String.toList_ofList (l := rest)] at hvalue
      have heq : raw = String.ofList field ++ "=" ++ String.ofList rest := by
        rw [← String.toList_inj, hraw]
        simp
      refine ⟨⟨String.ofList field, String.ofList rest, none⟩, ?_, rfl⟩
      rw [heq]
      exact .plain hne hfield hvalue
    · next value boost hlast =>
      obtain ⟨hrest, hboost⟩ := (Text.cutLast?_eq_some_iff _ _ _).1 hlast
      rw [← String.toList_ofList (l := boost)] at hboost
      have heq : raw = String.ofList field ++ "=" ++ String.ofList value ++ "^" ++
          String.ofList boost := by
        rw [← String.toList_inj, hraw, hrest]
        simp
      split at h
      · next n hn =>
        obtain rfl := Except.ok.inj h
        refine ⟨⟨String.ofList field, String.ofList value, some n⟩, ?_, rfl⟩
        rw [heq]
        exact .boosted hne hfield hboost hn
      · exact nomatch h

theorem readFilter_of_spelled {raw : String} {f : Filter} (h : Filter.Spelled raw f) :
    readFilter raw = .ok (f.field, f.entry) := by
  cases h with
  | @plain field value hne hfield hvalue =>
    have hcut : Text.cut? '=' (field ++ "=" ++ value).toList =
        some (field.toList, value.toList) :=
      (Text.cut?_eq_some_iff _ _ _ _).2 ⟨by simp, hfield⟩
    have hlast := (Text.cutLast?_eq_none_iff value.toList).2 hvalue
    rw [readFilter_of_plain hne hcut hlast, String.ofList_toList]
    rfl
  | @boosted field value boost n hne hfield hboost hn =>
    have hcut : Text.cut? '=' (field ++ "=" ++ value ++ "^" ++ boost).toList =
        some (field.toList, value.toList ++ '^' :: boost.toList) :=
      (Text.cut?_eq_some_iff _ _ _ _).2 ⟨by simp, hfield⟩
    have hlast : Text.cutLast? '^' (value.toList ++ '^' :: boost.toList) =
        some (value.toList, boost.toList) :=
      (Text.cutLast?_eq_some_iff _ _ _).2 ⟨rfl, hboost⟩
    have hnumber : boost? (String.ofList boost.toList) = some n := by rwa [String.ofList_toList]
    rw [readFilter_of_boosted hne hcut hlast hnumber, String.ofList_toList]
    rfl

/-- **Filters are read** exactly from the texts that spell them. -/
theorem readFilter_eq_ok_iff {raw : String} {e : String × Value} :
    readFilter raw = .ok e ↔ ∃ f, Filter.Spelled raw f ∧ e = (f.field, f.entry) := by
  constructor
  · exact exists_spelled_of_readFilter
  · rintro ⟨f, hspelled, rfl⟩
    exact readFilter_of_spelled hspelled

/-- A text spells one filter only. -/
theorem Filter.spelled_unique : Relator.RightUnique Spelled := by
  intro raw f g hf hg
  have hread := (readFilter_of_spelled hf).symm.trans (readFilter_of_spelled hg)
  obtain ⟨hfield, hentry⟩ := Prod.mk.inj (Except.ok.inj hread)
  obtain ⟨field, value, boost⟩ := f
  obtain ⟨field', value', boost'⟩ := g
  cases boost <;> cases boost' <;> simp_all [entry, weighted]

/-! ## Ranges -/

/-- A bound: how a field is compared, and with what. -/
structure Bound where
  field : String
  comparison : Comparison
  text : String

/-- A text that spells a bound: a field without signs, a sign of comparison, and a text that can be
    a bound. -/
structure Bound.Spelled (raw : String) (b : Bound) : Prop where
  eq : raw = b.field ++ b.comparison.sign ++ b.text
  ne : b.field ≠ ""
  signless : ∀ c ∈ b.field.toList, isSignChar c = false
  bound : isBound b.text.toList = true

theorem comparison?_eq_some {cs rest : List Char} {c : Comparison}
    (h : comparison? cs = some (c, rest)) : cs = c.sign.toList ++ rest := by
  unfold comparison? at h
  split at h
  case h_5 => exact nomatch h
  all_goals
    obtain ⟨rfl, rfl⟩ := Prod.mk.inj (Option.some.inj h)
    rfl

/-- A sign is read as a whole in front of a bound, which does not start with a sign. -/
theorem comparison?_sign (c : Comparison) {bound : List Char} (h : isBound bound = true) :
    comparison? (c.sign.toList ++ bound) = some (c, bound) := by
  cases bound with
  | nil => exact nomatch h
  | cons d bound =>
    have hd : d ≠ '=' := by
      rintro rfl
      simp [isBound, isSignChar] at h
    cases c <;> simp [Comparison.sign, comparison?, hd]

theorem spelled_of_readRange {raw : String} {b : Bound}
    (h : readRange raw = .ok (b.field, b.comparison, b.text)) : Bound.Spelled raw b := by
  simp only [readRange, List.span_eq_takeWhile_dropWhile] at h
  split at h
  · exact nomatch h
  · next c bound hsign =>
    split at h
    · exact nomatch h
    · next hbound =>
      rw [Bool.or_eq_true, not_or, List.isEmpty_iff, Bool.not_eq_true', Bool.not_eq_false] at hbound
      obtain ⟨hfield, hrest⟩ := Prod.mk.inj (Except.ok.inj h)
      obtain ⟨hcomparison, htext⟩ := Prod.mk.inj hrest
      refine ⟨?_, ?_, ?_, ?_⟩
      · rw [← String.toList_inj, ← hfield, ← hcomparison, ← htext]
        simp only [String.toList_append, String.toList_ofList, List.append_assoc]
        rw [← comparison?_eq_some hsign, List.takeWhile_append_dropWhile]
      · rw [← hfield]
        exact mt String.ofList_eq_empty_iff.1 hbound.1
      · rw [← hfield, String.toList_ofList]
        intro c hc
        simpa using List.mem_takeWhile_imp hc
      · rw [← htext, String.toList_ofList]
        exact hbound.2

theorem readRange_of_spelled {raw : String} {b : Bound} (h : Bound.Spelled raw b) :
    readRange raw = .ok (b.field, b.comparison, b.text) := by
  obtain ⟨rfl, hne, hsignless, hbound⟩ := h
  have hfield : b.field.toList.isEmpty = false :=
    List.isEmpty_eq_false_iff.2 (mt String.toList_eq_nil_iff.1 hne)
  have hsplit : (b.field ++ b.comparison.sign ++ b.text).toList =
      b.field.toList ++ (b.comparison.sign.toList ++ b.text.toList) := by
    simp only [String.toList_append, List.append_assoc]
  have hplain : ∀ c ∈ b.field.toList, (!isSignChar c) = true := by
    simpa using hsignless
  -- a sign starts with one of its characters, so the field ends in front of it
  have hsign : List.takeWhile (fun c => !isSignChar c)
        (b.comparison.sign.toList ++ b.text.toList) = [] ∧
      List.dropWhile (fun c => !isSignChar c) (b.comparison.sign.toList ++ b.text.toList) =
        b.comparison.sign.toList ++ b.text.toList := by
    cases b.comparison <;> simp [Comparison.sign, isSignChar]
  simp only [readRange, List.span_eq_takeWhile_dropWhile]
  rw [hsplit, List.takeWhile_append_of_pos hplain, List.dropWhile_append_of_pos hplain, hsign.1,
    hsign.2, List.append_nil]
  simp only [comparison?_sign b.comparison hbound, hfield, hbound, String.ofList_toList]
  rfl

/-- **Ranges are read** exactly from the texts that spell a bound. -/
theorem readRange_eq_ok_iff {raw : String} {b : Bound} :
    readRange raw = .ok (b.field, b.comparison, b.text) ↔ Bound.Spelled raw b :=
  ⟨spelled_of_readRange, readRange_of_spelled⟩

/-- A text spells one bound only. -/
theorem Bound.spelled_unique : Relator.RightUnique Spelled := by
  intro raw b d hb hd
  have hread := (readRange_of_spelled hb).symm.trans (readRange_of_spelled hd)
  obtain ⟨hfield, hrest⟩ := Prod.mk.inj (Except.ok.inj hread)
  obtain ⟨hcomparison, htext⟩ := Prod.mk.inj hrest
  cases b
  cases d
  simp_all only

/-! ## The last one counts -/

section

variable {α : Type} {p : α → Bool} {items : List α}

/-- The last item of a kind. -/
def lastOf? (p : α → Bool) (items : List α) : Option α :=
  items.reverse.find? p

theorem lastOf?_concat (p : α → Bool) (items : List α) (a : α) :
    lastOf? p (items ++ [a]) = if p a then some a else lastOf? p items := by
  rw [lastOf?, List.reverse_append, List.reverse_singleton, List.singleton_append, List.find?_cons]
  cases p a <;> rfl

theorem mem_of_lastOf? {a : α} (h : lastOf? p items = some a) : a ∈ items :=
  List.mem_reverse.1 (List.mem_of_find?_eq_some h)

theorem lastOf?_eq_none (h : ∀ a ∈ items, p a = false) : lastOf? p items = none :=
  List.find?_eq_none.2 fun a ha => by simp [h a (List.mem_reverse.1 ha)]

/-- An item is the last of a kind if it is of the kind and none behind it is. -/
theorem lastOf?_append_cons {before after : List α} {a : α} (ha : p a = true)
    (hafter : ∀ b ∈ after, p b = false) : lastOf? p (before ++ a :: after) = some a := by
  rw [lastOf?, List.reverse_append, List.reverse_cons, List.append_assoc, List.find?_append,
    List.find?_eq_none.2 fun b hb => by simp [hafter b (List.mem_reverse.1 hb)]]
  simp [ha]

end

/-- A name has the value of the last item that writes it. -/
theorem get?_ofPairs_map {α β : Type} (key : α → String) (value : α → β) (items : List α)
    (name : String) :
    (Entries.ofPairs (items.map fun a => (key a, value a))).get? name =
      (lastOf? (fun a => decide (key a = name)) items).map value := by
  induction items using List.reverseRecOn with
  | nil => rfl
  | append_singleton items a ih =>
      have hput : Entries.ofPairs ((items ++ [a]).map fun a => (key a, value a)) =
          (Entries.ofPairs (items.map fun a => (key a, value a))).put (key a) (value a) := by
        rw [List.map_append]
        exact Entries.ofPairs_append _ [(key a, value a)]
      rw [hput, Entries.get?_put, lastOf?_concat, ih]
      by_cases hkey : key a = name <;> simp [hkey]

/-! ## What criteria ask for -/

open Query

/-- What filters ask for: for each field, in the order of first occurrence, the value and the boost
    of its last filter. -/
def Filter.asked (filters : List Filter) : List Clause :=
  (filters.map (·.field)).eraseDups.filterMap fun field =>
    (lastOf? (fun f => decide (f.field = field)) filters).map fun f =>
      .equals field f.value (f.boost.map formatValue)

/-- Whether a bound is one of a field, on one side. -/
def Bound.isOf (field : String) (c : Comparison) (b : Bound) : Bool :=
  b.field = field && b.comparison = c

/-- What bounds ask for: for each field, in the order of first occurrence, its last bound on every
    side. -/
def Bound.asked (bounds : List Bound) : List Clause :=
  (bounds.map (·.field)).eraseDups.flatMap fun field =>
    [Comparison.above, .atLeast, .below, .atMost].filterMap fun c =>
      (lastOf? (Bound.isOf field c) bounds).map fun b => .compares field c b.text

/-- No bound is lost except to a later one of its field on its side. -/
theorem Bound.mem_asked {before after : List Bound} {b : Bound}
    (h : ∀ d ∈ after, ¬(d.field = b.field ∧ d.comparison = b.comparison)) :
    .compares b.field b.comparison b.text ∈ asked (before ++ b :: after) := by
  have hlast : lastOf? (isOf b.field b.comparison) (before ++ b :: after) = some b :=
    lastOf?_append_cons (by simp [isOf]) fun d hd => by simpa [isOf] using h d hd
  refine List.mem_flatMap.2 ⟨b.field, List.mem_eraseDups.2 (by simp), List.mem_filterMap.2
    ⟨b.comparison, ?_, by rw [hlast]; rfl⟩⟩
  cases b.comparison <;> simp

theorem displayText_text (s : String) : (Value.text s).displayText = s :=
  String.ofList_toList

theorem formatValue_text (s : String) : formatValue (.text s) = s :=
  displayText_text s

theorem isNull_of_boost? {s : String} {n : Value} (h : boost? s = some n) : n.isNull = false := by
  unfold boost? at h
  split at h
  · rw [← Option.some.inj h]
    rfl
  · obtain ⟨x, -, rfl⟩ := Option.map_eq_some_iff.1 h
    rfl

theorem textOf?_text (s : String) : textOf? (.text s) = some s :=
  congrArg some (formatValue_text s)

/-- What a filter becomes asks for just what the filter says. -/
theorem Filter.Spelled.askedEqual {raw : String} {f : Filter} (h : Spelled raw f) (field : String) :
    Query.askedEqual (field, f.entry) =
      some (.equals field f.value (f.boost.map formatValue)) := by
  cases h with
  | @plain _ value =>
    show (textOf? (.text value)).map _ = _
    rw [textOf?_text]
    rfl
  | @boosted _ value boost n _ _ _ hn =>
    have hweight : textOf? n = some (formatValue n) := by
      rw [textOf?, isNull_of_boost? hn]
      rfl
    show (textOf? (.text value)).map (fun text => Clause.equals field text (textOf? n)) = _
    rw [textOf?_text, hweight]
    rfl

/-- **Filters ask** for the last of each field. -/
theorem filterMap_askedEqual {raws : List String} {filters : List Filter}
    (h : List.Forall₂ Filter.Spelled raws filters) :
    (Entries.ofPairs (filters.map fun f => (f.field, f.entry))).filterMap Query.askedEqual =
      Filter.asked filters := by
  rw [Entries.filterMap_eq (Entries.nodup_names_ofPairs _), Entries.names_ofPairs, List.map_map]
  refine List.filterMap_congr fun field _ => ?_
  rw [get?_ofPairs_map]
  cases hlast : lastOf? (fun f => decide (f.field = field)) filters with
  | none => rfl
  | some f =>
    obtain ⟨raw, -, hspelled⟩ := exists_mem_of_forall₂ h.flip (mem_of_lastOf? hlast)
    exact hspelled.askedEqual field

theorem mapM_readFilter {raws : List String} {filters : List Filter}
    (h : List.Forall₂ Filter.Spelled raws filters) :
    raws.mapM readFilter = .ok (filters.map fun f => (f.field, f.entry)) := by
  rw [mapM_eq_ok_iff, List.forall₂_map_right_iff]
  exact h.imp fun raw f hspelled => readFilter_of_spelled hspelled

/-! ## Ranges that are read one after the other -/

theorem name_inj {c d : Comparison} : c.name = d.name ↔ c = d := by
  cases c <;> cases d <;> decide

/-- The bounds of a range on all sides: a text, or null where there is none. -/
def HasBounds (range : Value) (bound? : Comparison → Option String) : Prop :=
  ∃ fields given, range = .record .bounds fields [] given ∧
    ∀ c : Comparison, Entries.get? fields c.name = some (.ofText? (bound? c))

theorem get?_put_bound {fields : Entries Value} {bound? : Comparison → Option String}
    (h : ∀ c : Comparison, fields.get? c.name = some (.ofText? (bound? c)))
    (comparison : Comparison) (text : String) (c : Comparison) :
    (fields.put comparison.name (.text text)).get? c.name =
      some (.ofText? (if comparison = c then some text else bound? c)) := by
  rw [Entries.get?_put, h]
  simp only [name_inj]
  split <;> rfl

/-- Setting a bound changes one side only, of a range that is there or of one without bounds. -/
theorem hasBounds_withBound {range : Option Value} {bound? : Comparison → Option String}
    (h : ∀ v, range = some v → HasBounds v bound?) (hnone : range = none → ∀ c, bound? c = none)
    (comparison : Comparison) (text : String) :
    HasBounds (withBound range comparison text)
      fun c => if comparison = c then some text else bound? c := by
  cases range with
  | none =>
    refine ⟨_, _, rfl, get?_put_bound (fun c => ?_) comparison text⟩
    rw [hnone rfl]
    cases c <;> rfl
  | some v =>
    obtain ⟨fields, given, rfl, hfields⟩ := h v rfl
    exact ⟨_, _, rfl, get?_put_bound hfields comparison text⟩

/-- Ranges hold bounds: their fields in the order of first occurrence, each with the last bound of
    every side. -/
structure Holds (ranges : Entries Value) (bounds : List Bound) : Prop where
  names : ranges.names = (bounds.map (·.field)).eraseDups
  entries : ∀ field range, ranges.get? field = some range →
    HasBounds range fun c => (lastOf? (Bound.isOf field c) bounds).map (·.text)

theorem holds_nil : Holds [] [] :=
  ⟨rfl, fun _ _ h => nomatch h⟩

/-- **Reading one more range** keeps what the ranges hold. -/
theorem Holds.addRange {ranges : Entries Value} {bounds : List Bound} (h : Holds ranges bounds)
    {raw : String} {b : Bound} (hb : Bound.Spelled raw b) :
    ∃ ranges', CommandLine.addRange ranges raw = .ok ranges' ∧ Holds ranges' (bounds ++ [b]) := by
  refine ⟨ranges.put b.field (withBound (ranges.get? b.field) b.comparison b.text), ?_, ?_, ?_⟩
  · rw [CommandLine.addRange, readRange_of_spelled hb]
    rfl
  · rw [Entries.names_put, h.names, List.map_append, List.map_singleton, eraseDups_concat]
    simp only [List.mem_eraseDups]
  · intro field range hget
    have hlast : (fun c => (lastOf? (Bound.isOf field c) (bounds ++ [b])).map (·.text)) = fun c =>
        if b.field = field ∧ b.comparison = c then some b.text
        else (lastOf? (Bound.isOf field c) bounds).map (·.text) := by
      funext c
      rw [lastOf?_concat]
      by_cases hsame : b.field = field ∧ b.comparison = c <;> simp [Bound.isOf, hsame]
    rw [Entries.get?_put] at hget
    rw [hlast]
    by_cases hfield : b.field = field
    · subst hfield
      rw [if_pos rfl] at hget
      rw [← Option.some.inj hget]
      simp only [true_and]
      refine hasBounds_withBound (h.entries b.field) (fun hnew c => ?_) b.comparison b.text
      have hnot : b.field ∉ bounds.map (·.field) := by
        rw [← List.mem_eraseDups, ← h.names, Entries.mem_names_iff, Entries.has, hnew]
        exact Bool.false_ne_true
      rw [lastOf?_eq_none fun d hd => ?_, Option.map_none]
      have hne : d.field ≠ b.field := fun heq => hnot (heq ▸ List.mem_map_of_mem hd)
      simp [Bound.isOf, hne]
    · rw [if_neg hfield] at hget
      simp only [hfield, false_and, if_false]
      exact h.entries field range hget

/-- **Reading all ranges.** -/
theorem Holds.foldlM {ranges : Entries Value} {done : List Bound} (h : Holds ranges done)
    {raws : List String} {bounds : List Bound} (hspelled : List.Forall₂ Bound.Spelled raws bounds) :
    ∃ ranges', raws.foldlM CommandLine.addRange ranges = .ok ranges' ∧
      Holds ranges' (done ++ bounds) := by
  induction hspelled generalizing ranges done with
  | nil => exact ⟨ranges, rfl, by rwa [List.append_nil]⟩
  | cons hb _ ih =>
      obtain ⟨next, hnext, hholds⟩ := h.addRange hb
      obtain ⟨ranges', hranges', hall⟩ := ih hholds
      refine ⟨ranges', ?_, by rwa [List.append_assoc] at hall⟩
      rw [List.foldlM_cons, hnext]
      exact hranges'

theorem HasBounds.isRangeEntry {range : Value} {bound? : Comparison → Option String}
    (h : HasBounds range bound?) : IsRangeEntry range := by
  obtain ⟨fields, given, rfl, -⟩ := h
  trivial

/-- A range with bounds asks for each of them. -/
theorem HasBounds.askedBounds {range : Value} {bound? : Comparison → Option String}
    (h : HasBounds range bound?) (field : String) :
    Query.askedBounds (field, range) = [Comparison.above, .atLeast, .below, .atMost].filterMap
      fun c => (bound? c).map fun text => .compares field c text := by
  obtain ⟨fields, given, rfl, hfields⟩ := h
  refine List.filterMap_congr fun c _ => ?_
  have hbound : boundOf (.record .bounds fields [] given) c.name = .ofText? (bound? c) := by
    rw [boundOf, Value.member, Value.member?, hfields, Option.some_or, Value.ofOption]
    cases bound? c <;> rfl
  have htext : textOf? (.ofText? (bound? c)) = bound? c := by
    cases bound? c with
    | none => rfl
    | some s => exact textOf?_text s
  rw [hbound, htext]

/-- **Ranges ask** for the bounds that they hold. -/
theorem Holds.flatMap_askedBounds {ranges : Entries Value} {bounds : List Bound}
    (h : Holds ranges bounds) : ranges.flatMap Query.askedBounds = Bound.asked bounds := by
  have hnodup : ranges.names.Nodup := h.names ▸ nodup_eraseDups _
  rw [Entries.flatMap_eq hnodup, Bound.asked, ← h.names]
  refine List.flatMap_congr fun field hfield => ?_
  obtain ⟨range, hrange⟩ := Option.isSome_iff_exists.1 ((Entries.mem_names_iff _ _).1 hfield)
  rw [hrange, Option.elim_some, (h.entries field range hrange).askedBounds]
  refine List.filterMap_congr fun c _ => ?_
  rw [Option.map_map]
  rfl

end SearchClient.CommandLine
