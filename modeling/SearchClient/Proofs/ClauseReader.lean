import Mathlib
import SearchClient.Proofs.Clauses
import SearchClient.Proofs.Entries

set_option autoImplicit false

/-! # Clauses read back

A query is split at its blanks, and each token read as a field up to the first colon, the longest
sign of a comparison if one follows, a text, and a weight behind a circumflex. As long as no text
holds a blank or a circumflex or starts like a sign, and no field a blank or a colon, this gives the
clauses that were asked for (`buildFilter_reads_back`). -/

namespace SearchClient.Query

open Text

/-! ## The reader -/

/-- The longest sign of a comparison at the front, and what follows. -/
def readSign : List Char → Option Comparison × List Char
  | '>' :: '=' :: cs => (some .atLeast, cs)
  | '>' :: cs => (some .above, cs)
  | '<' :: '=' :: cs => (some .atMost, cs)
  | '<' :: cs => (some .below, cs)
  | cs => (none, cs)

/-- The text of a clause and its weight. -/
def readWeight (cs : List Char) : List Char × Option (List Char) :=
  match cut? '^' cs with
  | some (text, weight) => (text, some weight)
  | none => (cs, none)

/-- The clause of a token; a comparison has no weight. -/
def readClause (token : List Char) : Option Clause :=
  match cut? ':' token with
  | none => none
  | some (field, rest) =>
    let (comparison, rest) := readSign rest
    let (text, weight) := readWeight rest
    match comparison, weight with
    | none, weight =>
      some (.equals (String.ofList field) (String.ofList text) (weight.map String.ofList))
    | some comparison, none => some (.compares (String.ofList field) comparison (String.ofList text))
    | some _, some _ => none

/-- The clauses of a query. -/
def readQuery (cs : List Char) : Option (List Clause) :=
  if cs.isEmpty then some [] else (splitOn ' ' cs).mapM readClause

/-! ## Readable clauses -/

/-- A text without blanks and circumflexes that does not start like a sign. -/
structure IsPlain (s : String) : Prop where
  blank : ' ' ∉ s.toList
  circumflex : '^' ∉ s.toList
  sign : s.toList.head?.any isSignChar = false

/-- A field without blanks and colons. -/
structure IsField (s : String) : Prop where
  blank : ' ' ∉ s.toList
  colon : ':' ∉ s.toList

/-- A clause whose field and texts can be told apart. -/
def Clause.Readable : Clause → Prop
  | .equals field value boost => IsField field ∧ IsPlain value ∧ ∀ b ∈ boost, IsPlain b
  | .compares field _ bound => IsField field ∧ IsPlain bound

theorem readSign_of_head {cs : List Char} (h : cs.head?.any isSignChar = false) :
    readSign cs = (none, cs) := by
  cases cs with
  | nil => rfl
  | cons c cs =>
    simp only [List.head?_cons, Option.any_some, isSignChar, Bool.or_eq_false_iff,
      decide_eq_false_iff_not] at h
    unfold readSign
    split <;> simp_all

theorem head?_append {s : String} (h : IsPlain s) {rest : List Char}
    (hrest : rest.head?.any isSignChar = false) :
    (s.toList ++ rest).head?.any isSignChar = false := by
  have hs := h.sign
  cases hcs : s.toList with
  | nil => exact hrest
  | cons c cs =>
    rw [hcs] at hs
    exact hs

/-- The sign of a comparison is read in full, as no text starts with an equals sign. -/
theorem readSign_sign {s : String} (h : IsPlain s) (c : Comparison) :
    readSign (c.sign.toList ++ s.toList) = (some c, s.toList) := by
  -- an equals sign behind a sign of one character would make it a longer one
  have hequals : ∀ cs, s.toList ≠ '=' :: cs := by
    intro cs hcs
    have hs := h.sign
    rw [hcs] at hs
    exact absurd hs (by simp [isSignChar])
  cases c with
  | atLeast | atMost => rfl
  | above =>
    show readSign ('>' :: s.toList) = _
    unfold readSign
    split <;> simp_all
  | below =>
    show readSign ('<' :: s.toList) = _
    unfold readSign
    split <;> simp_all

theorem readWeight_plain {s : String} (h : IsPlain s) : readWeight s.toList = (s.toList, none) := by
  rw [readWeight, (cut?_eq_none_iff '^' _).2 h.circumflex]

theorem readWeight_weight {s : String} (h : IsPlain s) (weight : List Char) :
    readWeight (s.toList ++ '^' :: weight) = (s.toList, some weight) := by
  rw [readWeight, (cut?_eq_some_iff '^' _ _ _).2 ⟨rfl, h.circumflex⟩]

/-- **A clause reads back.** -/
theorem readClause_render {c : Clause} (h : c.Readable) : readClause c.render = some c := by
  cases c with
  | equals field value boost =>
    obtain ⟨hfield, hvalue, hboost⟩ := h
    cases boost with
    | none =>
      have hcut := (cut?_eq_some_iff ':' _ field.toList value.toList).2 ⟨rfl, hfield.colon⟩
      have hsign := readSign_of_head hvalue.sign
      simp only [readClause, Clause.render, hcut, hsign, readWeight_plain hvalue,
        String.ofList_toList, Option.map_none]
    | some boost =>
      have hcut := (cut?_eq_some_iff ':' _ field.toList (value.toList ++ '^' :: boost.toList)).2
        ⟨rfl, hfield.colon⟩
      have hweight : ('^' :: boost.toList).head?.any isSignChar = false := rfl
      have hsign := readSign_of_head (head?_append hvalue hweight)
      simp only [readClause, Clause.render, List.append_assoc, List.cons_append, hcut, hsign,
        readWeight_weight hvalue, String.ofList_toList, Option.map_some]
  | compares field comparison bound =>
    obtain ⟨hfield, hbound⟩ := h
    have hcut := (cut?_eq_some_iff ':' _ field.toList
      (comparison.sign.toList ++ bound.toList)).2 ⟨rfl, hfield.colon⟩
    simp only [readClause, Clause.render, List.append_assoc, List.cons_append, hcut,
      readSign_sign hbound, readWeight_plain hbound, String.ofList_toList]

theorem notMem_render {c : Clause} (h : c.Readable) : ' ' ∉ c.render := by
  intro hmem
  cases c with
  | equals field value boost =>
    obtain ⟨hfield, hvalue, hboost⟩ := h
    cases boost with
    | none => simp [Clause.render, hfield.blank, hvalue.blank] at hmem
    | some boost =>
      simp [Clause.render, hfield.blank, hvalue.blank, (hboost boost rfl).blank] at hmem
  | compares field comparison bound =>
    obtain ⟨hfield, hbound⟩ := h
    have hsign : ' ' ∉ comparison.sign.toList := by
      cases comparison <;> decide
    simp [Clause.render, hfield.blank, hbound.blank, hsign] at hmem

theorem mapM_readClause {cs : List Clause} (h : ∀ c ∈ cs, c.Readable) :
    (cs.map Clause.render).mapM readClause = some cs := by
  induction cs with
  | nil => rfl
  | cons c cs ih =>
      rw [List.map_cons, List.mapM_cons, readClause_render (h c List.mem_cons_self),
        ih fun d hd => h d (List.mem_cons_of_mem c hd)]
      rfl

/-- **Clauses read back.** -/
theorem readQuery_renderClauses {cs : List Clause} (h : ∀ c ∈ cs, c.Readable) :
    readQuery (renderClauses cs) = some cs := by
  by_cases hnil : cs = []
  · rw [hnil]
    rfl
  · have hsplit : splitOn ' ' (renderClauses cs) = cs.map Clause.render := by
      rw [renderClauses_eq_joinOn]
      refine splitOn_joinOn (by simpa using hnil) fun part hpart => ?_
      obtain ⟨c, hc, rfl⟩ := List.mem_map.1 hpart
      exact notMem_render (h c hc)
    have hempty : ¬(renderClauses cs).isEmpty := by
      rw [List.isEmpty_iff, renderClauses_eq_nil_iff]
      exact hnil
    rw [readQuery, if_neg hempty, hsplit, mapM_readClause h]

/-! ## What a filter and a range ask for -/

/-- The value that an entry of a filter stands for: one that it wraps, or itself. -/
def valueOf (entry : Value) : Value :=
  match entry with
  | .record .weighted .. => entry.member "value"
  | .map es => (Entries.get? es "value").getD entry
  | v => v

/-- The weight that an entry of a filter gives to the value that it wraps. -/
def boostOf (entry : Value) : Value :=
  match entry with
  | .record .weighted .. => entry.member "boost"
  | .map es => if Entries.has es "value" then .ofOption (Entries.get? es "boost") else .null
  | _ => .null

/-- The bound of a name that an entry of a range has. -/
def boundOf (entry : Value) (name : String) : Value :=
  match entry with
  | .record .bounds .. => Record.dump {} (entry.member name)
  | .map bounds => .ofOption (Entries.get? bounds name)
  | _ => .null

/-- The text of a value that is set. -/
def textOf? (v : Value) : Option String :=
  if v.isNull then none else some (formatValue v)

/-- What an entry of a filter asks for: its value with its weight, if the value is set. -/
def askedEqual (e : String × Value) : Option Clause :=
  (textOf? (valueOf e.2)).map fun text => .equals e.1 text (textOf? (boostOf e.2))

/-- What an entry of a range asks for: each of its bounds that is set. -/
def askedBounds (e : String × Value) : List Clause :=
  [Comparison.above, .atLeast, .below, .atMost].filterMap fun c =>
    (textOf? (boundOf e.2 c.name)).map fun text => .compares e.1 c text

/-- What a filter and a range ask for, in the order of their entries. -/
def asked (filter range : Entries Value) : List Clause :=
  filter.filterMap askedEqual ++ range.flatMap askedBounds

/-- An entry of a range: nothing, bounds by their names, or a record of bounds. -/
def IsRangeEntry (entry : Value) : Prop :=
  match entry with
  | .null | .map _ | .record .bounds _ [] _ => True
  | _ => False

theorem weighted_eq (entry : Value) : weighted entry = (valueOf entry, boostOf entry) := by
  cases entry with
  | record model fields extra given => cases model <;> rfl
  | map es => cases h : Entries.get? es "value" <;> simp [weighted, valueOf, boostOf, Entries.has, h]
  | _ => rfl

theorem filterClause_eq_asked (e : String × Value) :
    filterClause e.1 e.2 = askedEqual e := by
  obtain ⟨field, entry⟩ := e
  simp only [filterClause, weighted_eq, askedEqual, textOf?]
  cases valueOf entry <;> cases boostOf entry <;> rfl

theorem dumpFields_eq_map (model : Model) (given : List String) (fields : Entries Value) :
    Record.dumpFields {} model given fields = fields.map fun e => (e.1, Record.dump {} e.2) := by
  induction fields with
  | nil => rfl
  | cons e fields ih =>
      simp [Record.dumpFields, ih, Record.DumpOptions.nameOf]

theorem boundsOf_eq_ok {entry : Value} (h : IsRangeEntry entry) :
    ∃ bounds, boundsOf entry = .ok bounds ∧
      ∀ name, Value.ofOption (Entries.get? bounds name) = boundOf entry name := by
  unfold IsRangeEntry at h
  split at h
  · exact ⟨[], rfl, fun _ => rfl⟩
  · next bounds => exact ⟨bounds, rfl, fun _ => rfl⟩
  · next fields given =>
    refine ⟨Record.dumpFields {} .bounds given fields, rfl, fun name => ?_⟩
    rw [dumpFields_eq_map, Entries.get?_map_snd]
    simp only [boundOf, Value.member, Value.member?, Entries.get?, Option.or_none]
    cases Entries.get? fields name <;> rfl
  · exact h.elim

theorem rangeClauses_eq_asked {e : String × Value} (h : IsRangeEntry e.2) :
    rangeClauses e.1 e.2 = .ok (askedBounds e) := by
  obtain ⟨bounds, hbounds, hget⟩ := boundsOf_eq_ok h
  rw [rangeClauses, hbounds]
  refine congrArg Except.ok (List.filterMap_congr fun c _ => ?_)
  rw [← hget, textOf?]
  cases hvalue : Entries.get? bounds c.name with
  | none => rfl
  | some v => cases v <;> rfl

theorem rangeEntryClauses_eq_asked {range : Entries Value} (h : ∀ e ∈ range, IsRangeEntry e.2) :
    rangeEntryClauses range = .ok (range.flatMap askedBounds) := by
  induction range with
  | nil => rfl
  | cons e range ih =>
      rw [rangeEntryClauses, rangeClauses_eq_asked (h e List.mem_cons_self),
        ih fun d hd => h d (List.mem_cons_of_mem e hd)]
      rfl

/-- The query of a filter and a range is written from what they ask for. -/
theorem buildFilter_eq_asked {filter range : Entries Value} (h : ∀ e ∈ range, IsRangeEntry e.2) :
    buildFilter (.map filter) (.map range) =
      .ok (String.ofList (renderClauses (asked filter range))) := by
  have hfilter : filterClauses filter = filter.filterMap askedEqual :=
    List.filterMap_congr fun e _ => filterClause_eq_asked e
  rw [asked, ← hfilter, filterClauses, buildFilter, clauses, entriesOf_map, entriesOf_map]
  simp only [bind, Except.bind, rangeEntryClauses_eq_asked h]
  rfl

/-- **Compiled queries read back.** The query of a filter and a range gives back what they ask for,
    if its clauses are readable, and what they ask for is all that two such inputs with the same
    query can share. -/
theorem buildFilter_reads_back {filter range : Entries Value}
    (hrange : ∀ e ∈ range, IsRangeEntry e.2) (hreadable : ∀ c ∈ asked filter range, c.Readable) :
    ∃ query, buildFilter (.map filter) (.map range) = .ok query ∧
      readQuery query.toList = some (asked filter range) ∧
      ∀ filter' range' : Entries Value, (∀ e ∈ range', IsRangeEntry e.2) →
        (∀ c ∈ asked filter' range', c.Readable) →
          buildFilter (.map filter') (.map range') = .ok query →
            asked filter' range' = asked filter range := by
  have hread : ∀ cs : List Clause, (∀ c ∈ cs, c.Readable) →
      readQuery (String.ofList (renderClauses cs)).toList = some cs := by
    intro cs hcs
    rw [String.toList_ofList]
    exact readQuery_renderClauses hcs
  refine ⟨_, buildFilter_eq_asked hrange, hread _ hreadable, ?_⟩
  intro filter' range' hrange' hreadable' hquery
  rw [buildFilter_eq_asked hrange'] at hquery
  have hsame := hread _ hreadable'
  rw [Except.ok.inj hquery, hread _ hreadable] at hsame
  exact (Option.some.inj hsame).symm

/-- Entries of each form, with colons in a text, an empty text and signs that start alike. -/
theorem buildFilter_reads_back_of_each_form :
    ∃ query, buildFilter
        (.map [("at", .text "12:30"), ("draft", .null), ("title", .map [("value", .text "")]),
          ("rating", .record .weighted [("value", .int 5), ("boost", .int 2)] [] ["value", "boost"])])
        (.map [("year", .record .bounds [("gt", .int 1960), ("gte", .int 1961), ("lt", .null),
          ("lte", .text "")] [] ["gt", "gte", "lte"]), ("price", .null),
          ("pages", .map [("lt", .bool true)])]) = .ok query ∧
      readQuery query.toList = some
        [.equals "at" "12:30" none, .equals "title" "" none, .equals "rating" "5" (some "2"),
          .compares "year" .above "1960", .compares "year" .atLeast "1961",
          .compares "year" .atMost "", .compares "pages" .below "true"] := by
  let filter : Entries Value :=
    [("at", .text "12:30"), ("draft", .null), ("title", .map [("value", .text "")]),
      ("rating", .record .weighted [("value", .int 5), ("boost", .int 2)] [] ["value", "boost"])]
  let range : Entries Value :=
    [("year", .record .bounds [("gt", .int 1960), ("gte", .int 1961), ("lt", .null),
      ("lte", .text "")] [] ["gt", "gte", "lte"]), ("price", .null),
      ("pages", .map [("lt", .bool true)])]
  have hasked : asked filter range =
      [.equals "at" "12:30" none, .equals "title" "" none, .equals "rating" "5" (some "2"),
        .compares "year" .above "1960", .compares "year" .atLeast "1961",
        .compares "year" .atMost "", .compares "pages" .below "true"] := by
    decide +kernel
  have hrange : ∀ e ∈ range, IsRangeEntry e.2 := by
    simp [range, IsRangeEntry]
  have hplain : ∀ s ∈ ["12:30", "", "5", "2", "1960", "1961", "true"], IsPlain s := by
    intro s hs
    simp only [List.mem_cons, List.not_mem_nil, or_false] at hs
    rcases hs with rfl | rfl | rfl | rfl | rfl | rfl | rfl <;>
      exact ⟨by decide, by decide, by decide⟩
  have hfield : ∀ s ∈ ["at", "title", "rating", "year", "pages"], IsField s := by
    intro s hs
    simp only [List.mem_cons, List.not_mem_nil, or_false] at hs
    rcases hs with rfl | rfl | rfl | rfl | rfl <;> exact ⟨by decide, by decide⟩
  have hreadable : ∀ c ∈ asked filter range, c.Readable := by
    rw [hasked]
    simp [Clause.Readable, hplain, hfield]
  obtain ⟨query, hquery, hread, -⟩ := buildFilter_reads_back hrange hreadable
  rw [hasked] at hread
  exact ⟨query, hquery, hread⟩

end SearchClient.Query
