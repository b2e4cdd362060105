import Mathlib
import SearchClient.Proofs.Except
import SearchClient.Proofs.NumberGrammar

set_option autoImplicit false

/-! # Reading number literals

Integers and floating point numbers are read exactly from their literals (`int?_eq_some_iff`,
`float?_eq_some_iff`). The readers find the parts of a literal in its plain text: a sign, a run of
digits, a point with another run, an exponent. Each of these lifts to the part of the literal that it
is the plain text of. -/

namespace SearchClient.Literal

open Decimal (asciiDigit? IsRun spanDigits splitSign)
open Text (digitValue? isSpace)

/-! ## Integer literals -/

theorem digitIn?_ten : digitIn? 10 = asciiDigit? := by
  funext c
  have hrange : ('0' ≤ c ∧ c ≤ '9') ↔ 48 ≤ c.toNat ∧ c.toNat ≤ 57 := Iff.rfl
  simp only [digitIn?, Text.hexValue?, asciiDigit?, hrange, Bool.and_eq_true, decide_eq_true_eq]
  split_ifs with hdigit hsmall hlarge
  · exact if_pos (by simp; omega)
  · exact if_neg (by simp; omega)
  · exact if_neg (by simp; omega)
  · rfl

/-- Digits are read as an integer if there are some and not too many. -/
theorem readDigits_ten_eq_ok_iff {cs : List Char} {n : Nat} : readDigits 10 cs = .ok n ↔
    cs ≠ [] ∧ IsRun cs ∧ cs.length ≤ Decimal.digitLimit ∧ n = Decimal.runValue cs := by
  unfold readDigits
  rw [digitIn?_ten]
  constructor
  · intro h
    dsimp only at h
    split at h
    · exact nomatch h
    · next hfront =>
      split at h
      · exact nomatch h
      · exact nomatch h
      · next ds hnil hds =>
        obtain ⟨hrun, rfl⟩ := mapM_asciiDigit?_eq_some_iff.1 hds
        rw [List.takeWhile_eq_self_iff.2 hrun] at hfront
        refine ⟨?_, hrun, by simpa using hfront, (Except.ok.inj h).symm⟩
        rintro rfl
        exact hnil rfl
  · rintro ⟨hne, hrun, hlimit, rfl⟩
    obtain ⟨c, cs, rfl⟩ := List.exists_cons_of_ne_nil hne
    obtain ⟨d, hd⟩ := Option.isSome_iff_exists.1 (hrun c List.mem_cons_self)
    have hfront : ¬Decimal.digitLimit < (c :: cs).length := by omega
    dsimp only
    rw [List.takeWhile_eq_self_iff.2 hrun, if_neg (by simpa using hfront),
      mapM_asciiDigit?_eq_some_iff.2 ⟨hrun, rfl⟩, List.filterMap_cons, hd, Decimal.runValue,
      List.filterMap_cons, hd]
    rfl

theorem readInt_ten_eq_ok_iff {cs : List Char} {n : Int} : readInt 10 cs = .ok n ↔
    ∃ (ds : List Char) (k : Nat), Plain (Text.trimBy isSpace cs) ds ∧
      readDigits 10 (splitSign ds).2 = .ok k ∧ signed (splitSign ds).1 k = n := by
  have hbase : ∀ ds, dropBaseMark 10 ds = ds := by
    intro ds
    unfold dropBaseMark
    split <;> simp
  simp only [← dropUnderscores_normalize_eq_some_iff, readInt]
  cases hplain : dropUnderscores (normalize cs) with
  | none => simp
  | some ds =>
    dsimp only
    rw [hbase, map_eq_ok_iff]
    constructor
    · rintro ⟨i, hi, hn⟩
      obtain ⟨k, hk, hcast⟩ := bind_eq_ok_iff.1 hi
      obtain rfl := Except.ok.inj hcast
      exact ⟨ds, k, rfl, hk, hn⟩
    · rintro ⟨ds, k, hds, hk, hn⟩
      obtain rfl := Option.some.inj hds
      exact ⟨k, bind_eq_ok_iff.2 ⟨k, hk, rfl⟩, hn⟩

theorem DigitPart.no_blank {cs : List Char} {ds : List Nat} (h : DigitPart cs ds) :
    ∀ c ∈ cs, isSpace c = false := by
  induction h with
  | last hd => exact List.forall_mem_singleton.2 (isSpace_of_digit hd)
  | next hd _ ih => exact List.forall_mem_cons.2 ⟨isSpace_of_digit hd, ih⟩
  | spaced hd _ ih =>
      exact List.forall_mem_cons.2 ⟨isSpace_of_digit hd, List.forall_mem_cons.2 ⟨rfl, ih⟩⟩

/-- **Integers are read** exactly from their literals. -/
theorem int?_eq_some_iff {s : String} {n : Int} : int? s = some n ↔ IsInt s n := by
  have hok : int? s = some n ↔ readInt 10 s.toList = .ok n := by
    rw [int?]
    cases readInt 10 s.toList <;> simp [Except.toOption]
  rw [hok, readInt_ten_eq_ok_iff]
  constructor
  · rintro ⟨ds, k, hplain, hread, rfl⟩
    obtain ⟨hne, hrun, hlimit, rfl⟩ := readDigits_ten_eq_ok_iff.1 hread
    obtain ⟨sign, hsign, hds⟩ := signPart_splitSign ds
    rw [hds] at hplain
    obtain ⟨cs, hcore, hcs⟩ := hsign.of_plain hplain
    refine ⟨_, blanksAround_trimBy s.toList, ?_⟩
    rw [hcore]
    refine .digits hsign (digitPart_of_plain hcs hne hrun) ?_
    rwa [Decimal.length_filterMap_of_isRun hrun]
  · rintro ⟨core, hblanks, hliteral⟩
    cases hliteral with
    | @digits sign cs negative ds hsign hdigits hlimit =>
      obtain ⟨vs, hplain, hne, hrun, rfl⟩ := hdigits.exists_plain
      have hcore : ∀ c ∈ sign ++ cs, isSpace c = false :=
        List.forall_mem_append.2 ⟨hsign.no_blank, hdigits.no_blank⟩
      have hsplit := hsign.splitSign_append (head?_ne_sign_of_isRun hrun)
      rw [Decimal.length_filterMap_of_isRun hrun] at hlimit
      refine ⟨sign ++ vs, Decimal.runValue vs, ?_, ?_, ?_⟩
      · rw [hblanks.trimBy_eq hcore]
        exact hsign.plain.append hplain
      · rw [hsplit]
        exact readDigits_ten_eq_ok_iff.2 ⟨hne, hrun, hlimit, rfl⟩
      · rw [hsplit]
        rfl

/-! ## Numbers with a point and an exponent -/

theorem spanDigits_spec {cs front back : List Char} (h : spanDigits cs = (front, back)) :
    cs = front ++ back ∧ IsRun front := by
  rw [spanDigits, List.span_eq_takeWhile_dropWhile] at h
  obtain ⟨rfl, rfl⟩ := Prod.mk.inj h
  exact ⟨List.takeWhile_append_dropWhile.symm, fun c hc => by simpa using List.mem_takeWhile_imp hc⟩

/-- An exponent starts with no digit and no point. -/
theorem head?_of_exponent? {cs : List Char} {e : Int} (h : exponent? cs = some e) :
    Json.EndsRun cs ∧ cs.head? ≠ some '.' := by
  unfold exponent? at h
  split at h
  · exact ⟨fun _ hc => (Option.some_ne_none _ hc.symm).elim, nofun⟩
  · split at h
    · next c cs hmark =>
      rw [Bool.or_eq_true, decide_eq_true_eq, decide_eq_true_eq] at hmark
      rcases hmark with rfl | rfl
      · exact ⟨Json.endsRun_cons rfl cs, by simp⟩
      · exact ⟨Json.endsRun_cons rfl cs, by simp⟩
    · exact nomatch h

/-- What is read as a number without a sign: runs of digits around a point, and an exponent. -/
theorem unsigned?_eq_some_iff {negative : Bool} {cs : List Char} {x : Binary64} :
    unsigned? negative cs = some x ↔ ∃ (whole fraction back : List Char) (e : Int),
      (cs = whole ++ back ∧ fraction = [] ∨ cs = whole ++ '.' :: (fraction ++ back)) ∧
      whole ++ fraction ≠ [] ∧ IsRun (whole ++ fraction) ∧ exponent? back = some e ∧
      .ofDecimal negative (Decimal.runValue (whole ++ fraction)) (e - fraction.length) = x := by
  constructor
  · intro h
    obtain ⟨whole, rest, hspan⟩ : ∃ whole rest, spanDigits cs = (whole, rest) := ⟨_, _, rfl⟩
    obtain ⟨rfl, -⟩ := spanDigits_spec hspan
    rw [unsigned?, hspan] at h
    dsimp only at h
    split at h
    · next rest =>
      obtain ⟨fraction, back, hback⟩ : ∃ fraction back, spanDigits rest = (fraction, back) :=
        ⟨_, _, rfl⟩
      obtain ⟨rfl, -⟩ := spanDigits_spec hback
      rw [hback] at h
      obtain ⟨ds, hds, h⟩ := Option.bind_eq_some_iff.1 h
      obtain ⟨e, he, h⟩ := Option.bind_eq_some_iff.1 h
      obtain ⟨hne, hrun, rfl⟩ := digits?_eq_some_iff.1 hds
      exact ⟨whole, fraction, back, e, Or.inr rfl, hne, hrun, he, Option.some.inj h⟩
    · obtain ⟨ds, hds, h⟩ := Option.bind_eq_some_iff.1 h
      obtain ⟨e, he, h⟩ := Option.bind_eq_some_iff.1 h
      obtain ⟨hne, hrun, rfl⟩ := digits?_eq_some_iff.1 hds
      exact ⟨whole, [], rest, e, Or.inl ⟨rfl, rfl⟩, hne, hrun, he, Option.some.inj h⟩
  · rintro ⟨whole, fraction, back, e, hcs, hne, hrun, he, rfl⟩
    obtain ⟨hback, hpoint⟩ := head?_of_exponent? he
    obtain ⟨hwhole, hfraction⟩ := List.forall_mem_append.1 hrun
    have hds := digits?_eq_some_iff.2 ⟨hne, hrun, rfl⟩
    rw [unsigned?]
    rcases hcs with ⟨rfl, rfl⟩ | rfl
    · rw [Json.spanDigits_append hwhole hback]
      dsimp only
      split
      · exact absurd rfl hpoint
      · simp only [hds, he]
        rfl
    · rw [Json.spanDigits_append hwhole (Json.endsRun_cons rfl _)]
      simp only [Json.spanDigits_append hfraction hback, hds, he]
      rfl

theorem signedDigits?_eq_some_iff {cs : List Char} {e : Int} : signedDigits? cs = some e ↔
    (splitSign cs).2 ≠ [] ∧ IsRun (splitSign cs).2 ∧
      signed (splitSign cs).1 (Decimal.runValue (splitSign cs).2) = e := by
  simp only [signedDigits?, Option.map_eq_some_iff, digits?_eq_some_iff]
  constructor
  · rintro ⟨ds, ⟨hne, hrun, rfl⟩, he⟩
    exact ⟨hne, hrun, he⟩
  · rintro ⟨hne, hrun, he⟩
    exact ⟨_, ⟨hne, hrun, rfl⟩, he⟩

theorem exponentPart_of_plain {cs vs : List Char} (h : Plain cs vs) {e : Int}
    (he : exponent? vs = some e) : ExponentPart cs e := by
  unfold exponent? at he
  split at he
  · obtain rfl := Option.some.inj he
    rw [h.eq_nil]
    exact .missing
  · next mark rest =>
    split at he
    · next hmark =>
      rw [Bool.or_eq_true, decide_eq_true_eq, decide_eq_true_eq] at hmark
      have hdigit : asciiDigit? mark = none := by rcases hmark with rfl | rfl <;> rfl
      obtain ⟨cs, rfl, hrest⟩ := h.of_cons hdigit
      obtain ⟨hne, hrun, rfl⟩ := signedDigits?_eq_some_iff.1 he
      obtain ⟨sign, hsign, hds⟩ := signPart_splitSign rest
      rw [hds] at hrest
      obtain ⟨cs, rfl, hcs⟩ := hsign.of_plain hrest
      exact .marked hmark hsign (digitPart_of_plain hcs hne hrun)
    · exact nomatch he

theorem ExponentPart.exists_plain {cs : List Char} {e : Int} (h : ExponentPart cs e) :
    ∃ vs, Plain cs vs ∧ exponent? vs = some e := by
  cases h with
  | missing => exact ⟨[], .nil, rfl⟩
  | @marked mark sign cs negative ds hmark hsign hdigits =>
    obtain ⟨vs, hplain, hne, hrun, rfl⟩ := hdigits.exists_plain
    have hsplit := hsign.splitSign_append (head?_ne_sign_of_isRun hrun)
    have hletter : digitValue? mark = none ∧ mark ≠ '_' := by
      rcases hmark with rfl | rfl <;> exact ⟨rfl, by decide⟩
    refine ⟨mark :: (sign ++ vs), .other hletter.1 hletter.2 (hsign.plain.append hplain), ?_⟩
    rw [exponent?, if_pos (by simpa using hmark), signedDigits?_eq_some_iff, hsplit]
    exact ⟨hne, hrun, rfl⟩

theorem mantissaPart_of_plain {ws fs whole fraction : List Char} (hws : Plain ws whole)
    (hfs : Plain fs fraction) (hne : whole ++ fraction ≠ []) (hwhole : IsRun whole)
    (hfraction : IsRun fraction) : MantissaPart (ws ++ '.' :: fs) (whole.filterMap asciiDigit?)
      (fraction.filterMap asciiDigit?) := by
  -- one side of the point may be without digits
  by_cases hwholeNil : whole = []
  · rw [hwholeNil] at hws hne ⊢
    rw [hws.eq_nil]
    exact .fraction (digitPart_of_plain hfs hne hfraction)
  · have hwholePart := digitPart_of_plain hws hwholeNil hwhole
    by_cases hfractionNil : fraction = []
    · rw [hfractionNil] at hfs ⊢
      rw [hfs.eq_nil]
      exact .pointed hwholePart
    · exact .both hwholePart (digitPart_of_plain hfs hfractionNil hfraction)

/-- What is read as a number without a sign has the parts of one. -/
theorem exists_parts_of_unsigned? {cs vs : List Char} (h : Plain cs vs) {negative : Bool}
    {x : Binary64} (hx : unsigned? negative vs = some x) :
    ∃ ms es ds fs e, cs = ms ++ es ∧ MantissaPart ms ds fs ∧ ExponentPart es e ∧
      x = .ofDecimal negative (Decimal.value (ds ++ fs)) (e - fs.length) := by
  obtain ⟨whole, fraction, back, e, hvs, hne, hrun, he, rfl⟩ := unsigned?_eq_some_iff.1 hx
  obtain ⟨hwhole, hfraction⟩ := List.forall_mem_append.1 hrun
  have hback := (head?_of_exponent? he).1
  have hvalue : Decimal.runValue (whole ++ fraction) =
      Decimal.value (whole.filterMap asciiDigit? ++ fraction.filterMap asciiDigit?) := by
    rw [Decimal.runValue, List.filterMap_append]
  rw [hvalue, ← Decimal.length_filterMap_of_isRun hfraction]
  rcases hvs with ⟨rfl, rfl⟩ | rfl
  · obtain ⟨ms, es, rfl, hms, hes⟩ := h.of_append hwhole hback
    rw [List.append_nil] at hne
    exact ⟨ms, es, _, _, e, rfl, .whole (digitPart_of_plain hms hne hwhole),
      exponentPart_of_plain hes he, rfl⟩
  · obtain ⟨ws, rest, rfl, hws, hrest⟩ := h.of_append hwhole (Json.endsRun_cons rfl _)
    obtain ⟨behind, rfl, hbehind⟩ := hrest.of_cons (show asciiDigit? '.' = none from rfl)
    obtain ⟨fs, es, rfl, hfs, hes⟩ := hbehind.of_append hfraction hback
    exact ⟨ws ++ '.' :: fs, es, _, _, e, by simp, mantissaPart_of_plain hws hfs hne hwhole hfraction,
      exponentPart_of_plain hes he, rfl⟩

/-- A character that a number without a sign starts with. -/
def StartsNumber (cs : List Char) : Prop :=
  ∃ c ∈ cs.head?, c = '.' ∨ (asciiDigit? c).isSome = true

theorem startsNumber_append {whole : List Char} (h : IsRun whole) {rest : List Char}
    (hrest : whole = [] → StartsNumber rest) : StartsNumber (whole ++ rest) := by
  cases whole with
  | nil => exact hrest rfl
  | cons c whole => exact ⟨c, rfl, Or.inr (h c List.mem_cons_self)⟩

/-- The parts of a number are read as one. -/
theorem MantissaPart.exists_unsigned? {ms es : List Char} {ds fs : List Nat} {e : Int}
    (hms : MantissaPart ms ds fs) (hes : ExponentPart es e) (negative : Bool) :
    ∃ vs, Plain (ms ++ es) vs ∧ StartsNumber vs ∧ unsigned? negative vs =
      some (.ofDecimal negative (Decimal.value (ds ++ fs)) (e - fs.length)) := by
  obtain ⟨back, hback, he⟩ := hes.exists_plain
  have hpointed : ∀ {ws bs whole fraction : List Char}, Plain ws whole → Plain bs fraction →
      whole ++ fraction ≠ [] → IsRun whole → IsRun fraction →
      Plain (ws ++ '.' :: bs ++ es) (whole ++ '.' :: (fraction ++ back)) ∧
        StartsNumber (whole ++ '.' :: (fraction ++ back)) ∧
        unsigned? negative (whole ++ '.' :: (fraction ++ back)) =
          some (.ofDecimal negative
            (Decimal.value (whole.filterMap asciiDigit? ++ fraction.filterMap asciiDigit?))
            (e - (fraction.filterMap asciiDigit?).length)) := by
    intro ws bs whole fraction hws hbs hne hwhole hfraction
    refine ⟨?_, startsNumber_append hwhole fun _ => ⟨'.', rfl, Or.inl rfl⟩, ?_⟩
    · rw [List.append_assoc, List.cons_append]
      exact hws.append (.other rfl (by decide) (hbs.append hback))
    · rw [← List.filterMap_append, Decimal.length_filterMap_of_isRun hfraction]
      exact unsigned?_eq_some_iff.2
        ⟨whole, fraction, back, e, Or.inr rfl, hne, hwhole.append hfraction, he, rfl⟩
  cases hms with
  | whole hwhole =>
    obtain ⟨vs, hplain, hne, hrun, rfl⟩ := hwhole.exists_plain
    refine ⟨vs ++ back, hplain.append hback, startsNumber_append hrun fun h => absurd h hne, ?_⟩
    rw [List.append_nil]
    refine unsigned?_eq_some_iff.2 ⟨vs, [], back, e, Or.inl ⟨rfl, rfl⟩, ?_, ?_, he, ?_⟩
    · rwa [List.append_nil]
    · rwa [List.append_nil]
    · rw [List.append_nil]
      rfl
  | pointed hwhole =>
    obtain ⟨vs, hplain, hne, hrun, rfl⟩ := hwhole.exists_plain
    exact ⟨_, hpointed hplain .nil (by simpa using hne) hrun (List.forall_mem_nil _)⟩
  | fraction hfraction =>
    obtain ⟨vs, hplain, hne, hrun, rfl⟩ := hfraction.exists_plain
    exact ⟨_, hpointed .nil hplain hne (List.forall_mem_nil _) hrun⟩
  | both hwhole hfraction =>
    obtain ⟨vs, hplain, hne, hrun, rfl⟩ := hwhole.exists_plain
    obtain ⟨us, hplain', hne', hrun', rfl⟩ := hfraction.exists_plain
    exact ⟨_, hpointed hplain hplain' (by simp [hne]) hrun hrun'⟩

/-! ## Floating point literals -/

/-- A letter of ASCII. -/
def IsLetter (c : Char) : Prop :=
  65 ≤ c.toNat ∧ c.toNat ≤ 90 ∨ 97 ≤ c.toNat ∧ c.toNat ≤ 122

theorem isLetter_of_toLower {c : Char} (h : 97 ≤ c.toLower.toNat ∧ c.toLower.toNat ≤ 122) :
    IsLetter c := by
  by_cases hupper : c.isUpper = true
  · left
    simpa [Char.isUpper, UInt32.le_iff_toNat_le] using hupper
  · rw [Char.toLower_eq_of_not_isUpper hupper] at h
    exact Or.inr h

theorem IsLetter.digitValue?_eq_none {c : Char} (h : IsLetter c) : digitValue? c = none := by
  rw [Option.eq_none_iff_forall_ne_some]
  intro d hd
  obtain ⟨z, hz, hc, hlt⟩ := digitValue?_spec hd
  have hrange := digitZeros_ranges z hz
  unfold IsLetter at h
  omega

theorem IsLetter.isSpace_eq_false {c : Char} (h : IsLetter c) : isSpace c = false := by
  unfold IsLetter at h
  simp only [isSpace, Bool.or_eq_false_iff, Bool.and_eq_false_iff, decide_eq_false_iff_not]
  omega

theorem IsLetter.ne {c d : Char} (h : IsLetter c) (hd : ¬IsLetter d) : c ≠ d := by
  rintro rfl
  exact hd h

/-- The names of what is not on the number line. -/
def names : List (List Char) :=
  ["inf".toList, "infinity".toList, "nan".toList]

theorem name_of_infinite {cs : List Char}
    (h : cs.map Char.toLower = "inf".toList ∨ cs.map Char.toLower = "infinity".toList) :
    cs.map Char.toLower ∈ names := by
  rcases h with h | h <;> simp [names, h]

theorem name_of_nan {cs : List Char} (h : cs.map Char.toLower = "nan".toList) :
    cs.map Char.toLower ∈ names := by
  simp [names, h]

theorem isLetter_of_name {cs : List Char} (h : cs.map Char.toLower ∈ names) :
    ∀ c ∈ cs, IsLetter c := by
  have hnames : names =
      [['i', 'n', 'f'], ['i', 'n', 'f', 'i', 'n', 'i', 't', 'y'], ['n', 'a', 'n']] := rfl
  have hletters : ∀ name ∈ names, ∀ c ∈ name, 97 ≤ c.toNat ∧ c.toNat ≤ 122 := by
    simp [hnames]
  exact fun c hc => isLetter_of_toLower (hletters _ h _ (List.mem_map_of_mem hc))

theorem plain_of_name {cs : List Char} (h : cs.map Char.toLower ∈ names) : Plain cs cs :=
  plain_self fun c hc => ⟨(isLetter_of_name h c hc).digitValue?_eq_none,
    (isLetter_of_name h c hc).ne (by unfold IsLetter; decide)⟩

/-- What starts as a number is no name. -/
theorem StartsNumber.not_name {cs : List Char} (h : StartsNumber cs) :
    cs.map Char.toLower ∉ names := by
  intro hname
  obtain ⟨c, hc, hstart⟩ := h
  have hletter := isLetter_of_name hname c (List.mem_of_mem_head? hc)
  rcases hstart with rfl | hdigit
  · exact hletter.ne (by unfold IsLetter; decide) rfl
  · rw [asciiDigit?_of_none hletter.digitValue?_eq_none] at hdigit
    exact nomatch hdigit

theorem StartsNumber.ne_sign {cs : List Char} (h : StartsNumber cs) :
    ∀ c ∈ cs.head?, c ≠ '-' ∧ c ≠ '+' := by
  intro c hc
  obtain ⟨d, hd, hstart⟩ := h
  obtain rfl : d = c := Option.some.inj (hd.symm.trans hc)
  rcases hstart with rfl | hdigit
  · decide
  · constructor <;> (rintro rfl; exact nomatch hdigit)

theorem number?_eq (cs : List Char) : number? cs =
    if (splitSign cs).2.map Char.toLower = "inf".toList ∨
        (splitSign cs).2.map Char.toLower = "infinity".toList then
      some (.infinite (splitSign cs).1)
    else if (splitSign cs).2.map Char.toLower = "nan".toList then some .nan
    else unsigned? (splitSign cs).1 (splitSign cs).2 := by
  have hname : ∀ (ds : List Char) (s : String), String.ofList ds = s ↔ ds = s.toList := by
    intro ds s
    rw [← String.toList_inj, String.toList_ofList]
  simp only [number?, hname, Bool.or_eq_true, decide_eq_true_eq]

/-- What is read as a number, with a sign or not, or as a name. -/
theorem floatLiteral_of_plain {cs vs : List Char} (h : Plain cs vs) {x : Binary64}
    (hx : number? vs = some x) : FloatLiteral cs x := by
  obtain ⟨sign, hsign, hvs⟩ := signPart_splitSign vs
  rw [hvs] at h
  obtain ⟨cs, rfl, hcs⟩ := hsign.of_plain h
  have hname : (splitSign vs).2.map Char.toLower ∈ names → cs = (splitSign vs).2 := fun hname =>
    hcs.eq_of_no_digit fun c hc =>
      asciiDigit?_of_none (isLetter_of_name hname c hc).digitValue?_eq_none
  rw [number?_eq] at hx
  split_ifs at hx with hinfinite hnan
  · obtain rfl := Option.some.inj hx
    rw [hname (name_of_infinite hinfinite)]
    exact .infinite hsign hinfinite
  · obtain rfl := Option.some.inj hx
    rw [hname (name_of_nan hnan)]
    exact .nan hsign hnan
  · obtain ⟨ms, es, ds, fs, e, rfl, hms, hes, rfl⟩ := exists_parts_of_unsigned? hcs hx
    exact .number hsign hms hes (Binary64.rounds_ofDecimal _ _ _)

theorem splitSign_append_name {sign cs : List Char} {negative : Bool}
    (hsign : SignPart sign negative) (h : cs.map Char.toLower ∈ names) :
    splitSign (sign ++ cs) = (negative, cs) := by
  refine hsign.splitSign_append fun c hc => ?_
  have hletter := isLetter_of_name h c (List.mem_of_mem_head? hc)
  exact ⟨hletter.ne (by unfold IsLetter; decide), hletter.ne (by unfold IsLetter; decide)⟩

theorem FloatLiteral.exists_plain {cs : List Char} {x : Binary64} (h : FloatLiteral cs x) :
    ∃ vs, Plain cs vs ∧ number? vs = some x := by
  cases h with
  | @infinite sign cs negative hsign hname =>
    have hmem := name_of_infinite hname
    refine ⟨sign ++ cs, hsign.plain.append (plain_of_name hmem), ?_⟩
    rw [number?_eq, splitSign_append_name hsign hmem, if_pos hname]
  | @nan sign cs negative hsign hname =>
    have hmem := name_of_nan hname
    have hother : ¬(cs.map Char.toLower = "inf".toList ∨ cs.map Char.toLower = "infinity".toList) := by
      rw [hname]
      decide
    refine ⟨sign ++ cs, hsign.plain.append (plain_of_name hmem), ?_⟩
    rw [number?_eq, splitSign_append_name hsign hmem, if_neg hother, if_pos hname]
  | @number sign ms es negative ds fs e _ hsign hms hes hx =>
    obtain ⟨vs, hplain, hstart, hread⟩ := hms.exists_unsigned? hes negative
    have hname := hstart.not_name
    simp only [names, List.mem_cons, List.not_mem_nil, or_false, not_or] at hname
    refine ⟨sign ++ vs, hsign.plain.append hplain, ?_⟩
    rw [number?_eq, hsign.splitSign_append hstart.ne_sign, if_neg (by simp only [hname]; simp),
      if_neg hname.2.2, hread, (Binary64.rounds_ofDecimal _ _ _).unique hx]

theorem MantissaPart.no_blank {cs : List Char} {ds fs : List Nat} (h : MantissaPart cs ds fs) :
    ∀ c ∈ cs, isSpace c = false := by
  have hpoint : isSpace '.' = false := rfl
  cases h with
  | whole hwhole => exact hwhole.no_blank
  | pointed hwhole =>
    exact List.forall_mem_append.2 ⟨hwhole.no_blank, List.forall_mem_singleton.2 hpoint⟩
  | fraction hfraction => exact List.forall_mem_cons.2 ⟨hpoint, hfraction.no_blank⟩
  | both hwhole hfraction =>
    exact List.forall_mem_append.2
      ⟨hwhole.no_blank, List.forall_mem_cons.2 ⟨hpoint, hfraction.no_blank⟩⟩

theorem ExponentPart.no_blank {cs : List Char} {e : Int} (h : ExponentPart cs e) :
    ∀ c ∈ cs, isSpace c = false := by
  cases h with
  | missing => exact List.forall_mem_nil _
  | marked hmark hsign hdigits =>
    refine List.forall_mem_cons.2 ⟨?_, List.forall_mem_append.2 ⟨hsign.no_blank, hdigits.no_blank⟩⟩
    rcases hmark with rfl | rfl <;> rfl

theorem FloatLiteral.no_blank {cs : List Char} {x : Binary64} (h : FloatLiteral cs x) :
    ∀ c ∈ cs, isSpace c = false := by
  have hletters : ∀ {cs : List Char}, cs.map Char.toLower ∈ names → ∀ c ∈ cs, isSpace c = false :=
    fun hname c hc => (isLetter_of_name hname c hc).isSpace_eq_false
  cases h with
  | infinite hsign hname =>
    exact List.forall_mem_append.2 ⟨hsign.no_blank, hletters (name_of_infinite hname)⟩
  | nan hsign hname =>
    exact List.forall_mem_append.2 ⟨hsign.no_blank, hletters (name_of_nan hname)⟩
  | number hsign hms hes _ =>
    exact List.forall_mem_append.2 ⟨hsign.no_blank,
      List.forall_mem_append.2 ⟨hms.no_blank, hes.no_blank⟩⟩

/-- **Floating point numbers are read** exactly from their literals. -/
theorem float?_eq_some_iff {s : String} {x : Binary64} : float? s = some x ↔ IsFloat s x := by
  simp only [float?, Option.bind_eq_bind, Option.bind_eq_some_iff,
    dropUnderscores_normalize_eq_some_iff]
  constructor
  · rintro ⟨vs, hplain, hread⟩
    exact ⟨_, blanksAround_trimBy s.toList, floatLiteral_of_plain hplain hread⟩
  · rintro ⟨core, hblanks, hliteral⟩
    rw [hblanks.trimBy_eq hliteral.no_blank]
    exact hliteral.exists_plain

end SearchClient.Literal
