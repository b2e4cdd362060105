import Mathlib
import SearchClient.Failure.Problem
import SearchClient.Proofs.Criteria

set_option autoImplicit false

/-! # The pattern of ranges

A pattern is tried with backtracking: `Pattern.splits` lists all ways in which it takes the front of
a text, in the order in which they are tried, and `Pattern.fullMatches` those of consecutive patterns
on a whole text. The pattern of a range, a field, a sign and a bound, matches a text in one way at
most, which is the one that is read without backtracking (`range_grammar`). -/

namespace SearchClient.Text

/-- A pattern of texts. -/
inductive Pattern where
  /-- One character of a kind. -/
  | one (kind : Char → Bool)
  /-- Characters of a kind, as many as there are. -/
  | run (kind : Char → Bool)
  /-- The given characters. -/
  | text (cs : List Char)
  | either (first second : Pattern)
  | seq (first second : Pattern)

namespace Pattern

/-! ## Matching -/

/-- The ways to take characters of a kind from the front, the longest one first. -/
def runs (kind : Char → Bool) : List Char → List (List Char × List Char)
  | [] => [([], [])]
  | c :: cs =>
    (if kind c then (runs kind cs).map fun (front, rest) => (c :: front, rest) else []) ++
      [([], c :: cs)]

/-- The ways in which a pattern takes the front of a text, in the order in which they are tried. -/
def splits : Pattern → List Char → List (List Char × List Char)
  | one _, [] => []
  | one kind, c :: cs => if kind c then [([c], cs)] else []
  | run kind, cs => runs kind cs
  | text t, cs => (dropText? t cs).toList.map fun rest => (t, rest)
  | either first second, cs => first.splits cs ++ second.splits cs
  | seq first second, cs =>
    (first.splits cs).flatMap fun (front, rest) =>
      (second.splits rest).map fun (more, rest) => (front ++ more, rest)

/-- The ways in which patterns, one behind the other, take a whole text, in the order in which they
    are tried; each is given by what the patterns take. -/
def fullMatches : List Pattern → List Char → List (List (List Char))
  | [], [] => [[]]
  | [], _ :: _ => []
  | p :: ps, cs =>
    (p.splits cs).flatMap fun (front, rest) => (fullMatches ps rest).map (front :: ·)

/-! ## What patterns take -/

/-- Whether a pattern takes a text. -/
def Takes : Pattern → List Char → Prop
  | one kind, cs => ∃ c, cs = [c] ∧ kind c = true
  | run kind, cs => ∀ c ∈ cs, kind c = true
  | text t, cs => cs = t
  | either first second, cs => first.Takes cs ∨ second.Takes cs
  | seq first second, cs => ∃ front more, cs = front ++ more ∧ first.Takes front ∧ second.Takes more

theorem mem_runs_iff {kind : Char → Bool} {cs front rest : List Char} :
    (front, rest) ∈ runs kind cs ↔ cs = front ++ rest ∧ ∀ c ∈ front, kind c = true := by
  induction cs generalizing front with
  | nil =>
      simp only [runs, List.mem_singleton, Prod.mk.injEq, List.nil_eq, List.append_eq_nil_iff]
      refine ⟨fun h => ⟨h, by simp [h.1]⟩, And.left⟩
  | cons c cs ih =>
      rw [runs, List.mem_append, List.mem_singleton, Prod.mk.injEq]
      -- what stops here is tried last, behind all that goes on
      cases front with
      | nil =>
        have hnone : ([], rest) ∉
            if kind c then (runs kind cs).map fun (front, rest) => (c :: front, rest) else [] := by
          split <;> simp
        rw [or_iff_right hnone]
        constructor
        · rintro ⟨-, rfl⟩
          exact ⟨rfl, by simp⟩
        · rintro ⟨heq, -⟩
          exact ⟨rfl, heq.symm⟩
      | cons d front =>
        rw [List.cons_append, List.cons.injEq, List.forall_mem_cons]
        by_cases hc : kind c = true
        · simp only [hc, if_true, List.mem_map, Prod.exists, Prod.mk.injEq, List.cons.injEq,
            reduceCtorEq, false_and, or_false]
          constructor
          · rintro ⟨front', rest', hmem, ⟨rfl, rfl⟩, rfl⟩
            obtain ⟨hcs, hall⟩ := ih.1 hmem
            exact ⟨⟨rfl, hcs⟩, hc, hall⟩
          · rintro ⟨⟨rfl, hcs⟩, -, hall⟩
            exact ⟨front, rest, ih.2 ⟨hcs, hall⟩, ⟨rfl, rfl⟩, rfl⟩
        · simp only [hc, if_false, List.not_mem_nil, reduceCtorEq, false_and, or_false,
            Bool.false_eq_true, false_iff, not_and]
          rintro ⟨rfl, -⟩ hd
          exact absurd hd hc

/-- **Splits** are all ways to cut a text behind a part that the pattern takes. -/
theorem mem_splits_iff {p : Pattern} {cs front rest : List Char} :
    (front, rest) ∈ p.splits cs ↔ cs = front ++ rest ∧ p.Takes front := by
  induction p generalizing cs front rest with
  | one kind =>
    cases cs with
    | nil =>
      simp only [splits, List.not_mem_nil, Takes, false_iff, not_and]
      rintro h ⟨c, rfl, -⟩
      simp at h
    | cons d cs =>
      by_cases hd : kind d = true
      · simp only [splits, hd, if_true, List.mem_singleton, Prod.mk.injEq, Takes]
        constructor
        · rintro ⟨rfl, rfl⟩
          exact ⟨rfl, d, rfl, hd⟩
        · rintro ⟨heq, c, rfl, -⟩
          obtain ⟨rfl, rfl⟩ := List.cons.inj heq
          exact ⟨rfl, rfl⟩
      · simp only [splits, hd, if_false, List.not_mem_nil, Takes, false_iff, not_and,
          Bool.false_eq_true]
        rintro heq ⟨c, rfl, hc⟩
        obtain ⟨rfl, -⟩ := List.cons.inj heq
        exact hd hc
  | run kind => exact mem_runs_iff
  | text t =>
    simp only [splits, List.mem_map, Option.mem_toList, dropText?_eq_some_iff, Prod.mk.injEq, Takes]
    constructor
    · rintro ⟨_, rfl, rfl, rfl⟩
      exact ⟨rfl, rfl⟩
    · rintro ⟨rfl, rfl⟩
      exact ⟨rest, rfl, rfl, rfl⟩
  | either first second ihFirst ihSecond =>
    simp only [splits, List.mem_append, ihFirst, ihSecond, Takes, ← and_or_left]
  | seq first second ihFirst ihSecond =>
    simp only [splits, List.mem_flatMap, List.mem_map, Prod.exists, ihFirst, ihSecond,
      Prod.mk.injEq, Takes]
    constructor
    · rintro ⟨a, behind, ⟨rfl, ha⟩, b, rest', ⟨rfl, hb⟩, rfl, rfl⟩
      exact ⟨(List.append_assoc a b _).symm, a, b, rfl, ha, hb⟩
    · rintro ⟨rfl, a, b, rfl, ha, hb⟩
      exact ⟨a, b ++ rest, ⟨List.append_assoc a b rest, ha⟩, b, rest, ⟨rfl, hb⟩, rfl, rfl⟩

/-- **Full matches** are all ways to cut a text into parts that the patterns take. -/
theorem mem_fullMatches_iff {ps : List Pattern} {cs : List Char} {parts : List (List Char)} :
    parts ∈ fullMatches ps cs ↔ cs = parts.flatten ∧ List.Forall₂ Takes ps parts := by
  induction ps generalizing cs parts with
  | nil =>
      cases cs with
      | nil =>
        rw [fullMatches, List.mem_singleton, List.forall₂_nil_left_iff]
        refine ⟨fun h => ⟨by simp [h], h⟩, And.right⟩
      | cons c cs =>
        rw [fullMatches, List.forall₂_nil_left_iff]
        refine iff_of_false List.not_mem_nil ?_
        rintro ⟨hcs, rfl⟩
        exact nomatch hcs
  | cons p ps ih =>
      simp only [fullMatches, List.mem_flatMap, List.mem_map, Prod.exists, mem_splits_iff, ih,
        List.forall₂_cons_left_iff]
      constructor
      · rintro ⟨front, rest, ⟨rfl, hfront⟩, more, ⟨rfl, hmore⟩, rfl⟩
        exact ⟨rfl, front, more, hfront, hmore, rfl⟩
      · rintro ⟨rfl, front, more, hfront, hmore, rfl⟩
        exact ⟨front, more.flatten, ⟨rfl, hfront⟩, more, ⟨rfl, hmore⟩, rfl⟩

end Pattern

end SearchClient.Text

namespace SearchClient.CommandLine

open Failure (Problem)
open Query (Comparison isSignChar)
open Text (Pattern)

/-! ## The parts of a range -/

/-- The signs of comparison, and the names of the bounds that they set. -/
def signNames : List (String × String) :=
  [(">=", "gte"), ("<=", "lte"), (">", "gt"), ("<", "lt")]

/-- A range in its parts: a field without the characters of signs, a sign, and a bound that starts
    with none of these characters and has no line end behind its first character. -/
structure RangeParts (raw field sign bound : String) : Prop where
  eq : raw = field ++ sign ++ bound
  field_ne : field ≠ ""
  field_free : ∀ c ∈ field.toList, c ∉ ['<', '>', '=']
  sign_mem : ∃ name, (sign, name) ∈ signNames
  bound_free : ∃ c cs, bound.toList = c :: cs ∧ c ∉ ['<', '>', '='] ∧ '\n' ∉ cs

/-- The pattern of a range. -/
def rangePattern : List Pattern :=
  let free (c : Char) : Bool := c ∉ ['<', '>', '=']
  [.seq (.one free) (.run free),
   .either (.text ['>', '=']) (.either (.text ['<', '=']) (.either (.text ['>']) (.text ['<']))),
   .seq (.one free) (.run (· ≠ '\n'))]

theorem mem_signNames_iff {sign name : String} :
    (sign, name) ∈ signNames ↔ ∃ c : Comparison, c.sign = sign ∧ c.name = name := by
  constructor
  · intro h
    simp only [signNames, List.mem_cons, Prod.mk.injEq, List.not_mem_nil, or_false] at h
    rcases h with ⟨rfl, rfl⟩ | ⟨rfl, rfl⟩ | ⟨rfl, rfl⟩ | ⟨rfl, rfl⟩
    · exact ⟨.atLeast, rfl, rfl⟩
    · exact ⟨.atMost, rfl, rfl⟩
    · exact ⟨.above, rfl, rfl⟩
    · exact ⟨.below, rfl, rfl⟩
  · rintro ⟨c, rfl, rfl⟩
    cases c <;> simp [signNames, Comparison.sign, Comparison.name]

theorem isSignChar_eq_false_iff {c : Char} : isSignChar c = false ↔ c ∉ ['<', '>', '='] := by
  simp [isSignChar, and_assoc]

theorem isBound_iff {cs : List Char} :
    isBound cs = true ↔ ∃ d ds, cs = d :: ds ∧ d ∉ ['<', '>', '='] ∧ '\n' ∉ ds := by
  cases cs with
  | nil => simp [isBound]
  | cons d ds =>
    rw [isBound, Bool.and_eq_true, Bool.not_eq_true', Bool.not_eq_true', isSignChar_eq_false_iff,
      List.contains_eq_mem, decide_eq_false_iff_not]
    constructor
    · exact fun h => ⟨d, ds, rfl, h⟩
    · rintro ⟨d', ds', heq, h⟩
      obtain ⟨rfl, rfl⟩ := List.cons.inj heq
      exact h

/-- The parts of a range are those of the bound that it spells. -/
theorem rangeParts_iff {raw field sign bound : String} :
    RangeParts raw field sign bound ↔
      ∃ c : Comparison, c.sign = sign ∧ Bound.Spelled raw ⟨field, c, bound⟩ := by
  constructor
  · rintro ⟨heq, hne, hfree, ⟨name, hname⟩, hbound⟩
    obtain ⟨c, rfl, -⟩ := mem_signNames_iff.1 hname
    exact ⟨c, rfl, heq, hne, fun d hd => isSignChar_eq_false_iff.2 (hfree d hd),
      isBound_iff.2 hbound⟩
  · rintro ⟨c, rfl, heq, hne, hfree, hbound⟩
    exact ⟨heq, hne, fun d hd => isSignChar_eq_false_iff.1 (hfree d hd),
      ⟨c.name, mem_signNames_iff.2 ⟨c, rfl, rfl⟩⟩, isBound_iff.1 hbound⟩

/-! ## The pattern and the parts -/

theorem takes_start_iff {kind behind : Char → Bool} {cs : List Char} :
    (Pattern.seq (.one kind) (.run behind)).Takes cs ↔
      ∃ c more, cs = c :: more ∧ kind c = true ∧ ∀ d ∈ more, behind d = true := by
  constructor
  · rintro ⟨_, more, rfl, ⟨c, rfl, hc⟩, hmore⟩
    exact ⟨c, more, rfl, hc, hmore⟩
  · rintro ⟨c, more, rfl, hc, hmore⟩
    exact ⟨[c], more, rfl, ⟨c, rfl, hc⟩, hmore⟩

theorem takes_sign_iff {cs : List Char} :
    (Pattern.either (.text ['>', '=']) (.either (.text ['<', '=']) (.either (.text ['>'])
      (.text ['<'])))).Takes cs ↔ ∃ sign name, (sign, name) ∈ signNames ∧ cs = sign.toList := by
  constructor
  · rintro (rfl | rfl | rfl | rfl)
    · exact ⟨">=", "gte", by simp [signNames], rfl⟩
    · exact ⟨"<=", "lte", by simp [signNames], rfl⟩
    · exact ⟨">", "gt", by simp [signNames], rfl⟩
    · exact ⟨"<", "lt", by simp [signNames], rfl⟩
  · rintro ⟨sign, name, hmem, rfl⟩
    simp only [signNames, List.mem_cons, Prod.mk.injEq, List.not_mem_nil, or_false] at hmem
    rcases hmem with ⟨rfl, -⟩ | ⟨rfl, -⟩ | ⟨rfl, -⟩ | ⟨rfl, -⟩ <;> simp [Pattern.Takes]

/-- Whatever the matcher tries, the full matches of the pattern are the parts of the range. -/
theorem mem_fullMatches_rangePattern_iff {raw : String} {parts : List (List Char)} :
    parts ∈ Pattern.fullMatches rangePattern raw.toList ↔
      ∃ field sign bound, RangeParts raw field sign bound ∧
        parts = [field.toList, sign.toList, bound.toList] := by
  simp only [Pattern.mem_fullMatches_iff, rangePattern, List.forall₂_cons_left_iff,
    List.forall₂_nil_left_iff, takes_start_iff, takes_sign_iff, decide_eq_true_eq]
  constructor
  · rintro ⟨hraw, _, _, ⟨f, fs, rfl, hf, hfs⟩, ⟨_, _, ⟨sign, name, hname, rfl⟩,
      ⟨_, _, ⟨b, bs, rfl, hb, hbs⟩, rfl, rfl⟩, rfl⟩, rfl⟩
    refine ⟨String.ofList (f :: fs), sign, String.ofList (b :: bs), ⟨?_, ?_, ?_, ⟨name, hname⟩, ?_⟩, ?_⟩
    · rw [← String.toList_inj, hraw]
      simp
    · exact mt String.ofList_eq_empty_iff.1 (List.cons_ne_nil f fs)
    · rw [String.toList_ofList]
      exact List.forall_mem_cons.2 ⟨hf, hfs⟩
    · exact ⟨b, bs, String.toList_ofList, hb, fun hmem => hbs _ hmem rfl⟩
    · simp only [String.toList_ofList]
  · -- a first character is taken apart from both ends, since `one` and `run` take them apart
    rintro ⟨field, sign, bound, ⟨rfl, hne, hfree, ⟨name, hname⟩, ⟨b, bs, hbound, hb, hbs⟩⟩, rfl⟩
    obtain ⟨f, fs, hfield⟩ := List.exists_cons_of_ne_nil (mt String.toList_eq_nil_iff.1 hne)
    rw [hfield, List.forall_mem_cons] at hfree
    refine ⟨by simp, _, _, ⟨f, fs, hfield, hfree⟩, ⟨_, _, ⟨sign, name, hname, rfl⟩,
      ⟨_, _, ⟨b, bs, hbound, hb, ?_⟩, rfl, rfl⟩, rfl⟩, rfl⟩
    rintro d hd rfl
    exact hbs hd

/-! ## Reading -/

/-- A range has its parts in one way only. -/
theorem RangeParts.unique {raw field sign bound field' sign' bound' : String}
    (h : RangeParts raw field sign bound) (h' : RangeParts raw field' sign' bound') :
    field' = field ∧ sign' = sign ∧ bound' = bound := by
  obtain ⟨c, rfl, hc⟩ := rangeParts_iff.1 h
  obtain ⟨c', rfl, hc'⟩ := rangeParts_iff.1 h'
  obtain ⟨rfl, rfl, rfl⟩ := Bound.mk.inj (Bound.spelled_unique hc' hc)
  exact ⟨rfl, rfl, rfl⟩

theorem sign_injective : Function.Injective Comparison.sign := by
  intro c d h
  cases c <;> cases d <;> first | rfl | exact absurd h (by decide)

theorem readRange_eq_ok_iff_rangeParts {raw field bound : String} {c : Comparison} :
    readRange raw = .ok (field, c, bound) ↔ RangeParts raw field c.sign bound := by
  rw [rangeParts_iff]
  constructor
  · exact fun h => ⟨c, rfl, (readRange_eq_ok_iff (b := ⟨field, c, bound⟩)).1 h⟩
  · rintro ⟨d, hsign, hspelled⟩
    obtain rfl := sign_injective hsign
    exact (readRange_eq_ok_iff (b := ⟨field, d, bound⟩)).2 hspelled

theorem eq_of_readRange_error {raw : String} {e : Failure.BadArgument}
    (h : readRange raw = .error e) : e = .range raw := by
  unfold readRange at h
  dsimp only at h
  split at h
  · exact (Except.error.inj h).symm
  · split at h
    · exact (Except.error.inj h).symm
    · exact nomatch h

/-- A range without parts is refused. -/
theorem readRange_of_no_parts {raw : String} (h : ¬∃ field sign bound, RangeParts raw field sign bound) :
    readRange raw = .error (.range raw) := by
  cases hread : readRange raw with
  | ok e =>
    obtain ⟨field, c, bound⟩ := e
    exact absurd ⟨field, c.sign, bound, readRange_eq_ok_iff_rangeParts.1 hread⟩ h
  | error e => rw [eq_of_readRange_error hread]

/-- The pattern finds nothing else than what is read. -/
theorem mem_fullMatches_iff_read {raw : String} {parts : List (List Char)} :
    parts ∈ Pattern.fullMatches rangePattern raw.toList ↔
      (readRange raw).toOption.map (fun (field, c, bound) =>
        [field.toList, c.sign.toList, bound.toList]) = some parts := by
  rw [mem_fullMatches_rangePattern_iff]
  cases hread : readRange raw with
  | ok e =>
    obtain ⟨field, c, bound⟩ := e
    have hparts := readRange_eq_ok_iff_rangeParts.1 hread
    constructor
    · rintro ⟨field', sign', bound', hparts', rfl⟩
      obtain ⟨rfl, rfl, rfl⟩ := hparts.unique hparts'
      rfl
    · intro h
      exact ⟨field, c.sign, bound, hparts, (Option.some.inj h).symm⟩
  | error e =>
    refine iff_of_false ?_ nofun
    rintro ⟨field, sign, bound, hparts, -⟩
    obtain ⟨c, rfl, -⟩ := rangeParts_iff.1 hparts
    rw [readRange_eq_ok_iff_rangeParts.2 hparts] at hread
    exact nomatch hread

/-- **The grammar of ranges.** A range is read exactly if it has parts, which are then the only ones;
    what is read is the field, the name of the bound that the sign sets, and the bound. Any other
    text is refused with a complaint. The parts are what the pattern of a range finds first. -/
theorem range_grammar (raw : String) :
    (∀ field name bound,
      (readRange raw).map (fun (f, c, b) => (f, c.name, b)) = .ok (field, name, bound) ↔
        ∃ sign, (sign, name) ∈ signNames ∧ RangeParts raw field sign bound) ∧
    (∀ field sign bound field' sign' bound', RangeParts raw field sign bound →
      RangeParts raw field' sign' bound' → field' = field ∧ sign' = sign ∧ bound' = bound) ∧
    ((¬∃ field sign bound, RangeParts raw field sign bound) →
      readRange raw = .error (.range raw) ∧
        ∃ s, (Problem.argument (.range raw)).complaint? = some s) ∧
    (Pattern.fullMatches rangePattern raw.toList).head? =
      (readRange raw).toOption.map fun (field, c, bound) =>
        [field.toList, c.sign.toList, bound.toList] := by
  refine ⟨fun field name bound => ?_, fun _ _ _ _ _ _ h h' => h.unique h',
    fun hnone => ⟨readRange_of_no_parts hnone, _, rfl⟩,
    head?_eq_of_mem_iff fun _ => mem_fullMatches_iff_read⟩
  rw [map_eq_ok_iff]
  constructor
  · rintro ⟨⟨f, c, b⟩, hread, heq⟩
    obtain ⟨rfl, rfl, rfl⟩ : f = field ∧ c.name = name ∧ b = bound := by simpa using heq
    exact ⟨c.sign, mem_signNames_iff.2 ⟨c, rfl, rfl⟩, readRange_eq_ok_iff_rangeParts.1 hread⟩
  · rintro ⟨sign, hname, hparts⟩
    obtain ⟨c, rfl, rfl⟩ := mem_signNames_iff.1 hname
    exact ⟨(field, c, bound), readRange_eq_ok_iff_rangeParts.2 hparts, rfl⟩

/-- An equals sign behind another sign belongs to it, and never to the bound. -/
example : (Pattern.fullMatches rangePattern "year>=1990".toList).length = 1 ∧
    Pattern.fullMatches rangePattern "year>==1990".toList = [] := by
  decide

end SearchClient.CommandLine
