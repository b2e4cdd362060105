import Mathlib
import SearchClient.Json.Reader
import SearchClient.Proofs.Rounding

set_option autoImplicit false

/-! # Number texts read back

Runs of digits read as the number that they were written for. The text of a floating point number is
made of such runs: what stands before the point, a fraction, an exponent. However a layout places the
digits, they are the shortest digits of the number with an exponent that fits the place
(`Json.exists_parts_place`), so the text reads as the number (`Json.readScalar_render`). -/

namespace SearchClient.Decimal

/-! ## Runs of digits -/

/-- A run of digits. -/
def IsRun (cs : List Char) : Prop :=
  ∀ c ∈ cs, (asciiDigit? c).isSome = true

/-- The number that a run of digits denotes. -/
def runValue (cs : List Char) : Nat :=
  value (cs.filterMap asciiDigit?)

theorem asciiDigit?_digitChar {d : Nat} (h : d < 10) : asciiDigit? (digitChar d) = some d := by
  interval_cases d <;> rfl

theorem IsRun.append {cs ds : List Char} (hcs : IsRun cs) (hds : IsRun ds) : IsRun (cs ++ ds) :=
  fun c hc => (List.mem_append.1 hc).elim (hcs c) (hds c)

theorem isRun_ofNat (n : Nat) : IsRun (ofNat n) := by
  induction n using ofNat.induct with
  | case1 n hsmall =>
    rw [ofNat, if_pos hsmall]
    intro c hc
    rw [List.mem_singleton.1 hc, asciiDigit?_digitChar hsmall]
    rfl
  | case2 n hlarge ih =>
    rw [ofNat, if_neg hlarge]
    refine ih.append fun c hc => ?_
    rw [List.mem_singleton.1 hc, asciiDigit?_digitChar (Nat.mod_lt n (by decide))]
    rfl

theorem isRun_replicate (k : Nat) : IsRun (List.replicate k '0') := by
  intro c hc
  rw [List.eq_of_mem_replicate hc]
  rfl

theorem value_append (ds es : List Nat) : value (ds ++ es) = value ds * 10 ^ es.length + value es := by
  induction es using List.reverseRecOn with
  | nil => simp [value]
  | append_singleton es e ih =>
      have hstep (xs : List Nat) : value (xs ++ [e]) = 10 * value xs + e := by
        simp [value]
      rw [← List.append_assoc, hstep, hstep, ih, List.length_append, List.length_singleton, pow_succ]
      ring

theorem length_filterMap_of_isRun {cs : List Char} (h : IsRun cs) :
    (cs.filterMap asciiDigit?).length = cs.length := by
  induction cs with
  | nil => rfl
  | cons c cs ih =>
      obtain ⟨hc, hcs⟩ := List.forall_mem_cons.1 h
      obtain ⟨d, hd⟩ := Option.isSome_iff_exists.1 hc
      rw [List.filterMap_cons, hd, List.length_cons, List.length_cons, ih hcs]

theorem asciiDigit?_lt {c : Char} {d : Nat} (h : asciiDigit? c = some d) : d < 10 := by
  unfold asciiDigit? at h
  split at h
  · next hrange =>
    have hle : c.toNat ≤ '9'.toNat := hrange.2
    have hnine : '9'.toNat = 57 := rfl
    have hd := Option.some.inj h
    omega
  · exact nomatch h

theorem value_lt {ds : List Nat} (h : ∀ d ∈ ds, d < 10) : value ds < 10 ^ ds.length := by
  induction ds using List.reverseRecOn with
  | nil => exact Nat.one_pos
  | append_singleton ds d ih =>
      rw [List.forall_mem_append, List.forall_mem_singleton] at h
      have hfront := ih h.1
      have hstep : value (ds ++ [d]) = 10 * value ds + d := by
        simp [value]
      rw [hstep, List.length_append, List.length_singleton, pow_succ]
      omega

/-- A run of digits denotes a number that has no more digits. -/
theorem runValue_lt (cs : List Char) : runValue cs < 10 ^ cs.length := by
  have hdigits : ∀ d ∈ cs.filterMap asciiDigit?, d < 10 := by
    intro d hd
    obtain ⟨c, -, hc⟩ := List.mem_filterMap.1 hd
    exact asciiDigit?_lt hc
  exact (value_lt hdigits).trans_le
    (Nat.pow_le_pow_right (by decide) (List.length_filterMap_le asciiDigit? cs))

theorem runValue_append (cs : List Char) {ds : List Char} (h : IsRun ds) :
    runValue (cs ++ ds) = runValue cs * 10 ^ ds.length + runValue ds := by
  rw [runValue, List.filterMap_append, value_append, length_filterMap_of_isRun h]
  rfl

theorem runValue_replicate (k : Nat) : runValue (List.replicate k '0') = 0 := by
  induction k with
  | zero => rfl
  | succ k ih =>
      have hlast : IsRun ['0'] := isRun_replicate 1
      rw [List.replicate_succ', runValue_append _ hlast, ih]
      rfl

theorem runValue_ofNat (n : Nat) : runValue (ofNat n) = n := by
  have hdigit {d : Nat} (h : d < 10) : runValue [digitChar d] = d := by
    simp [runValue, asciiDigit?_digitChar h, value]
  induction n using ofNat.induct with
  | case1 n hsmall =>
    rw [ofNat, if_pos hsmall, hdigit hsmall]
  | case2 n hlarge ih =>
    have hlast : n % 10 < 10 := Nat.mod_lt n (by decide)
    have hrun : IsRun [digitChar (n % 10)] := by
      intro c hc
      rw [List.mem_singleton.1 hc, asciiDigit?_digitChar hlast]
      rfl
    rw [ofNat, if_neg hlarge, runValue_append _ hrun, ih, hdigit hlast, List.length_singleton]
    omega

theorem padded_ne_nil (width n : Nat) : padded width n ≠ [] := by
  simp [padded, ofNat_ne_nil]

theorem isRun_padded (width n : Nat) : IsRun (padded width n) :=
  (isRun_replicate _).append (isRun_ofNat n)

theorem runValue_padded (width n : Nat) : runValue (padded width n) = n := by
  rw [padded, runValue_append _ (isRun_ofNat n), runValue_replicate, runValue_ofNat]
  simp

/-- A number above zero does not start with a zero. -/
theorem head?_ofNat_ne {n : Nat} (h : n ≠ 0) : (ofNat n).head? ≠ some '0' := by
  induction n using ofNat.induct with
  | case1 n hsmall =>
    rw [ofNat, if_pos hsmall, List.head?_singleton]
    exact fun heq => digitChar_ne_zero h hsmall (Option.some.inj heq)
  | case2 n hlarge ih =>
    rw [ofNat, if_neg hlarge, List.head?_append_of_ne_nil _ (ofNat_ne_nil _)]
    exact ih (by omega)

end SearchClient.Decimal

namespace SearchClient.Json

open Decimal

/-! ## Parts of numbers -/

/-- What stands behind a number does not go on with it. -/
def EndsNumber (rest : List Char) : Prop :=
  ∀ c, rest.head? = some c → asciiDigit? c = none ∧ c ≠ '.' ∧ c ≠ 'e' ∧ c ≠ 'E'

theorem endsNumber_cons {c : Char} (h : asciiDigit? c = none ∧ c ≠ '.' ∧ c ≠ 'e' ∧ c ≠ 'E')
    (cs : List Char) : EndsNumber (c :: cs) := by
  intro d hd
  rwa [← Option.some.inj hd]

/-- What stands behind a run of digits is no digit. -/
def EndsRun (rest : List Char) : Prop :=
  ∀ c, rest.head? = some c → asciiDigit? c = none

theorem EndsNumber.endsRun {rest : List Char} (h : EndsNumber rest) : EndsRun rest :=
  fun c hc => (h c hc).1

theorem endsRun_cons {c : Char} (h : asciiDigit? c = none) (cs : List Char) : EndsRun (c :: cs) := by
  intro d hd
  rwa [← Option.some.inj hd]

theorem spanDigits_append {ds rest : List Char} (hds : IsRun ds) (hrest : EndsRun rest) :
    spanDigits (ds ++ rest) = (ds, rest) := by
  rw [spanDigits, List.span_eq_takeWhile_dropWhile, List.takeWhile_append_of_pos hds,
    List.dropWhile_append_of_pos hds]
  cases rest with
  | nil => simp
  | cons c rest => simp [hrest c rfl]

/-- Digits that can stand before the point: a zero alone, or a run that starts with no zero. -/
def IsWhole (ds : List Char) : Prop :=
  ds = ['0'] ∨ ds ≠ [] ∧ IsRun ds ∧ ds.head? ≠ some '0'

theorem isWhole_ofNat (n : Nat) : IsWhole (ofNat n) := by
  by_cases h : n = 0
  · rw [h]
    left
    rw [ofNat]
    rfl
  · exact Or.inr ⟨ofNat_ne_nil n, isRun_ofNat n, head?_ofNat_ne h⟩

theorem IsWhole.isRun {ds : List Char} (h : IsWhole ds) : IsRun ds := by
  rcases h with rfl | ⟨-, hrun, -⟩
  · exact isRun_replicate 1
  · exact hrun

theorem wholePart?_append {ds rest : List Char} (hds : IsWhole ds) (hrest : EndsRun rest) :
    wholePart? (ds ++ rest) = some (ds, rest) := by
  rcases hds with rfl | ⟨hne, hrun, hhead⟩
  · rfl
  · obtain ⟨d, ds, rfl⟩ := List.exists_cons_of_ne_nil hne
    have hzero : d ≠ '0' := fun heq => hhead (congrArg some heq)
    have hspan := spanDigits_append hrun hrest
    rw [List.cons_append] at hspan ⊢
    unfold wholePart?
    split
    · next heq => exact absurd (List.cons.inj heq).1 hzero
    · rw [hspan]

/-- A fraction: a point and a run of digits, or nothing. -/
def fractionText : Option (List Char) → List Char
  | some ds => '.' :: ds
  | none => []

theorem fractionPart?_append {ds rest : List Char} (hne : ds ≠ []) (hds : IsRun ds)
    (hrest : EndsRun rest) : fractionPart? ('.' :: ds ++ rest) = some (ds, rest) := by
  have hspan := spanDigits_append hds hrest
  obtain ⟨d, ds, rfl⟩ := List.exists_cons_of_ne_nil hne
  simp only [List.cons_append] at hspan ⊢
  simp only [fractionPart?, hspan]

theorem fractionPart?_eq_none {rest : List Char} (h : rest.head? ≠ some '.') :
    fractionPart? rest = none := by
  unfold fractionPart?
  split
  · exact absurd rfl h
  · rfl

theorem exponentPart?_append (l : Layout) (e : Int) {rest : List Char} (hrest : EndsRun rest) :
    exponentPart? (l.exponentText e ++ rest) = some (e, rest) := by
  have hspan := spanDigits_append (isRun_padded l.exponentWidth e.natAbs) hrest
  obtain ⟨d, ds, hds⟩ := List.exists_cons_of_ne_nil (padded_ne_nil l.exponentWidth e.natAbs)
  have hvalue := runValue_padded l.exponentWidth e.natAbs
  rw [runValue, hds] at hvalue
  rw [hds, List.cons_append] at hspan
  by_cases hneg : e < 0
  · simp [Layout.exponentText, hneg, hds, exponentPart?, splitSign, hspan, hvalue,
      abs_of_neg hneg]
  · simp [Layout.exponentText, hneg, hds, exponentPart?, splitSign, hspan, hvalue,
      abs_of_nonneg (not_lt.1 hneg)]

theorem exponentPart?_eq_none {rest : List Char} (h : EndsNumber rest) :
    exponentPart? rest = none := by
  cases rest with
  | nil => rfl
  | cons c rest =>
    obtain ⟨-, -, he, hE⟩ := h c rfl
    simp [exponentPart?, he, hE]

/-- An exponent in the text of a layout, or nothing. -/
def exponentText (l : Layout) : Option Int → List Char
  | some e => l.exponentText e
  | none => []

/-- The parts of the text of a floating point number: it has a fraction or an exponent. -/
structure Parts where
  whole : List Char
  fraction : Option (List Char)
  exponent : Option Int
  isWhole : IsWhole whole
  isRun : ∀ ds, fraction = some ds → ds ≠ [] ∧ IsRun ds
  marked : fraction.isSome = true ∨ exponent.isSome = true

namespace Parts

/-- The text of parts in a layout. -/
def text (p : Parts) (l : Layout) : List Char :=
  p.whole ++ (fractionText p.fraction ++ exponentText l p.exponent)

/-- The digits on both sides of the point. -/
def digits (p : Parts) : Nat :=
  runValue (p.whole ++ p.fraction.getD [])

/-- The power of ten that the last digit counts. -/
def power (p : Parts) : Int :=
  p.exponent.getD 0 - (p.fraction.getD []).length

/-- **Numbers read by their parts.** -/
theorem readMagnitude_text (p : Parts) (l : Layout) {rest : List Char} (hrest : EndsNumber rest)
    (negative : Bool) : readMagnitude negative (p.text l ++ rest) =
      .ok (.float (.ofDecimal negative p.digits p.power), rest) := by
  obtain ⟨whole, fraction, exponent, hwhole, hfraction, hmarked⟩ := p
  have hexponentHead : EndsRun (exponentText l exponent ++ rest) ∧
      (exponentText l exponent ++ rest).head? ≠ some '.' := by
    cases exponent with
    | none =>
      refine ⟨hrest.endsRun, fun hhead => ?_⟩
      exact (hrest '.' hhead).2.1 rfl
    | some e => exact ⟨endsRun_cons rfl _, by simp [exponentText, Layout.exponentText]⟩
  have hwholeEnd : EndsRun (fractionText fraction ++ (exponentText l exponent ++ rest)) := by
    cases fraction with
    | none => exact hexponentHead.1
    | some ds => exact endsRun_cons rfl _
  have hexponent : exponentPart? (exponentText l exponent ++ rest) =
      exponent.map fun e => (e, rest) := by
    cases exponent with
    | none => exact exponentPart?_eq_none hrest
    | some e => exact exponentPart?_append l e hrest.endsRun
  have hfractionRead : fractionPart? (fractionText fraction ++ (exponentText l exponent ++ rest)) =
      fraction.map fun ds => (ds, exponentText l exponent ++ rest) := by
    cases fraction with
    | none => exact fractionPart?_eq_none hexponentHead.2
    | some ds =>
      obtain ⟨hne, hrun⟩ := hfraction ds rfl
      exact fractionPart?_append hne hrun hexponentHead.1
  simp only [text, List.append_assoc]
  rw [readMagnitude, wholePart?_append hwhole hwholeEnd]
  cases fraction with
  | none =>
    cases exponent with
    | none => simp at hmarked
    | some e =>
      simp only [fractionText, List.nil_append] at hfractionRead ⊢
      simp only [hfractionRead, Option.map_none, Option.getD_none, hexponent, Option.map_some,
        Option.getD_some, digits, power, runValue]
  | some ds =>
    simp only [hfractionRead, Option.map_some, Option.getD_some, hexponent]
    cases exponent <;> rfl

end Parts

/-! ## Layouts -/

/-- Digits that start with no zero. -/
structure Leading (ds : List Char) : Prop where
  ne_nil : ds ≠ []
  isRun : IsRun ds
  head?_ne : ds.head? ≠ some '0'

theorem Leading.isWhole {ds : List Char} (h : Leading ds) : IsWhole ds :=
  Or.inr ⟨h.ne_nil, h.isRun, h.head?_ne⟩

theorem Leading.append {ds es : List Char} (h : Leading ds) (hes : IsRun es) :
    Leading (ds ++ es) := by
  obtain ⟨d, ds, rfl⟩ := List.exists_cons_of_ne_nil h.ne_nil
  exact ⟨List.cons_ne_nil _ _, h.isRun.append hes, h.head?_ne⟩

theorem Leading.take {ds : List Char} (h : Leading ds) {n : Nat} (hn : 0 < n) :
    Leading (ds.take n) := by
  obtain ⟨d, ds, rfl⟩ := List.exists_cons_of_ne_nil h.ne_nil
  obtain ⟨n, rfl⟩ := Nat.exists_eq_succ_of_ne_zero hn.ne'
  exact ⟨List.cons_ne_nil _ _, fun c hc => h.isRun c (List.mem_of_mem_take hc), h.head?_ne⟩

/-- The significant digits of a number above zero, and the zeros behind them, are its digits. -/
theorem significant_spec {d : Nat} (hd : d ≠ 0) :
    Leading (Layout.significant d).1 ∧
      runValue (Layout.significant d).1 * 10 ^ (Layout.significant d).2 = d := by
  have hsplit : ofNat d =
      (Layout.significant d).1 ++ List.replicate (Layout.significant d).2 '0' := by
    have hzeros : (ofNat d).reverse.takeWhile (· = '0') =
        List.replicate ((ofNat d).reverse.takeWhile (· = '0')).length '0' := by
      refine List.eq_replicate_length.2 fun c hc => ?_
      simpa using List.mem_takeWhile_imp hc
    have hreverse := List.takeWhile_append_dropWhile (p := fun c => decide (c = '0'))
      (l := (ofNat d).reverse)
    have hall := congrArg List.reverse hreverse
    rw [List.reverse_append, List.reverse_reverse, hzeros, List.reverse_replicate] at hall
    exact hall.symm
  have hne := Layout.significant_ne_nil hd
  have hrun := isRun_ofNat d
  have hhead := head?_ofNat_ne hd
  have hvalue := runValue_ofNat d
  rw [hsplit] at hrun hhead hvalue
  rw [runValue_append _ (isRun_replicate _), runValue_replicate, List.length_replicate,
    Nat.add_zero] at hvalue
  rw [List.head?_append_of_ne_nil _ hne] at hhead
  exact ⟨⟨hne, fun c hc => hrun c (List.mem_append_left _ hc), hhead⟩, hvalue⟩

theorem scaled_eq {n k : Nat} {d : ℚ} {a b : Int} (hn : (n : ℚ) = d * 10 ^ k)
    (hab : (k : Int) + a = b) : (n : ℚ) * 10 ^ a = d * 10 ^ b := by
  rw [hn, mul_assoc, ← zpow_natCast, ← zpow_add₀ (by norm_num), hab]

/-- Parts of a number that is some digits, the first of which counts a power of ten. -/
def Parts.Denotes (p : Parts) (ds : List Char) (e : Int) : Prop :=
  (p.digits : ℚ) * 10 ^ p.power = runValue ds * 10 ^ (e + 1 - ds.length)

/-- Behind the point, with zeros in front. -/
theorem exists_parts_behind (l : Layout) {ds : List Char} (h : Leading ds) {e : Int} (he : e < 0) :
    ∃ p : Parts, '0' :: '.' :: (List.replicate ((-e).toNat - 1) '0' ++ ds) = p.text l ∧
      p.Denotes ds e := by
  let fraction := List.replicate ((-e).toNat - 1) '0' ++ ds
  have hrun : IsRun fraction := (isRun_replicate _).append h.isRun
  have hzero : runValue ['0'] = 0 := rfl
  refine ⟨⟨['0'], some fraction, none, Or.inl rfl, ?_, Or.inl rfl⟩, ?_, scaled_eq (k := 0) ?_ ?_⟩
  · rintro _ ⟨⟩
    exact ⟨by simp [fraction, h.ne_nil], hrun⟩
  · simp [Parts.text, fractionText, exponentText, fraction]
  · simp only [Parts.digits, Option.getD_some]
    rw [runValue_append _ hrun, hzero, runValue_append _ h.isRun, runValue_replicate]
    simp
  · simp only [Parts.power, Option.getD_none, Option.getD_some, fraction, List.length_append,
      List.length_replicate]
    push_cast
    omega

/-- In front of the point, with zeros behind. -/
theorem exists_parts_front (l : Layout) {ds : List Char} (h : Leading ds) {e : Int} (he : 0 ≤ e)
    (hshort : ds.length ≤ e.toNat + 1) :
    ∃ p : Parts, ds ++ List.replicate (e.toNat + 1 - ds.length) '0' ++ ['.', '0'] = p.text l ∧
      p.Denotes ds e := by
  have hzeros := isRun_replicate (e.toNat + 1 - ds.length)
  have htail : IsRun ['0'] := isRun_replicate 1
  have hzero : runValue ['0'] = 0 := rfl
  refine ⟨⟨ds ++ List.replicate (e.toNat + 1 - ds.length) '0', some ['0'], none,
    (h.append hzeros).isWhole, ?_, Or.inl rfl⟩, ?_,
    scaled_eq (k := e.toNat + 1 - ds.length + 1) ?_ ?_⟩
  · rintro _ ⟨⟩
    exact ⟨List.cons_ne_nil _ _, htail⟩
  · simp [Parts.text, fractionText, exponentText]
  · simp only [Parts.digits, Option.getD_some]
    rw [runValue_append _ htail, hzero, List.length_singleton, runValue_append _ hzeros,
      runValue_replicate, List.length_replicate, pow_succ]
    push_cast
    ring
  · simp only [Parts.power, Option.getD_none, Option.getD_some, List.length_singleton]
    push_cast
    omega

/-- On both sides of the point. -/
theorem exists_parts_around (l : Layout) {ds : List Char} (h : Leading ds) {e : Int} (he : 0 ≤ e)
    (hlong : e.toNat + 1 < ds.length) :
    ∃ p : Parts, ds.take (e.toNat + 1) ++ '.' :: ds.drop (e.toNat + 1) = p.text l ∧
      p.Denotes ds e := by
  have hback : IsRun (ds.drop (e.toNat + 1)) := fun c hc => h.isRun c (List.mem_of_mem_drop hc)
  refine ⟨⟨ds.take (e.toNat + 1), some (ds.drop (e.toNat + 1)), none,
    (h.take (Nat.succ_pos _)).isWhole, ?_, Or.inl rfl⟩, ?_, scaled_eq (k := 0) ?_ ?_⟩
  · rintro _ ⟨⟩
    exact ⟨by simpa using hlong, hback⟩
  · simp [Parts.text, fractionText, exponentText]
  · simp [Parts.digits]
  · simp only [Parts.power, Option.getD_none, Option.getD_some, List.length_drop]
    push_cast
    omega

/-- With an exponent, and a point if there is more than one digit. -/
theorem exists_parts_scientific (l : Layout) {d : Char} {rest : List Char}
    (h : Leading (d :: rest)) (e : Int) :
    ∃ p : Parts, d :: ((if rest.isEmpty then [] else '.' :: rest) ++ l.exponentText e) = p.text l ∧
      p.Denotes (d :: rest) e := by
  cases rest with
  | nil =>
    refine ⟨⟨[d], none, some e, h.isWhole, by simp, Or.inr rfl⟩, ?_, scaled_eq (k := 0) ?_ ?_⟩
    · simp [Parts.text, fractionText, exponentText]
    · simp [Parts.digits]
    · simp [Parts.power]
  | cons c rest =>
    have hback : IsRun (c :: rest) := fun b hb => h.isRun b (List.mem_cons_of_mem d hb)
    have hfirst : Leading [d] := h.take (n := 1) Nat.one_pos
    refine ⟨⟨[d], some (c :: rest), some e, hfirst.isWhole, ?_, Or.inl rfl⟩, ?_,
      scaled_eq (k := 0) ?_ ?_⟩
    · rintro _ ⟨⟩
      exact ⟨List.cons_ne_nil _ _, hback⟩
    · simp [Parts.text, fractionText, exponentText]
    · simp [Parts.digits]
    · simp only [Parts.power, Option.getD_some, List.length_cons]
      push_cast
      omega

/-- **Placed digits** are parts of a number that is these digits, the first of which counts the power
    of ten that they are placed at. -/
theorem exists_parts_place (l : Layout) {ds : List Char} (h : Leading ds) (e : Int) :
    ∃ p : Parts, l.place ds e = p.text l ∧ p.Denotes ds e := by
  unfold Layout.place
  split_ifs with hrange hneg
  · exact exists_parts_behind l h hneg
  · dsimp only
    split
    · next hshort => exact exists_parts_front l h (Int.not_lt.1 hneg) hshort
    · next hlong => exact exists_parts_around l h (Int.not_lt.1 hneg) (Nat.not_le.1 hlong)
  · obtain ⟨d, rest, rfl⟩ := List.exists_cons_of_ne_nil h.ne_nil
    cases rest <;> exact exists_parts_scientific l h e

/-- **The text of a magnitude** is made of parts, and these denote the number. -/
theorem exists_parts_magnitude (l : Layout) {m : Nat} {q : Int}
    (hcanonical : Binary64.Canonical m q) :
    ∃ p : Parts, l.magnitude m q = p.text l ∧
      ∀ negative, .ofDecimal negative p.digits p.power =
        Binary64.finite negative m q hcanonical := by
  unfold Layout.magnitude
  split
  · next hzero =>
    subst hzero
    have hleast : q = -1074 := hcanonical.2.2.2.resolve_left (by decide)
    subst hleast
    have htail : IsRun ['0'] := isRun_replicate 1
    refine ⟨⟨['0'], some ['0'], none, Or.inl rfl, ?_, Or.inl rfl⟩, rfl, fun negative => rfl⟩
    rintro _ ⟨⟩
    exact ⟨List.cons_ne_nil _ _, htail⟩
  · next hm =>
    have hpos := Nat.pos_of_ne_zero hm
    obtain ⟨hleading, hvalue⟩ := significant_spec (Binary64.shortest_ne_zero hpos q)
    obtain ⟨p, htext, hp⟩ := exists_parts_place l hleading
      ((Binary64.shortest m q).2 + (Layout.significant (Binary64.shortest m q).1).2 +
        (Layout.significant (Binary64.shortest m q).1).1.length - 1)
    refine ⟨p, htext, fun negative => Binary64.ofDecimal_of_shortest hpos hcanonical ?_ negative⟩
    rw [hp, ← scaled_eq (k := (Layout.significant (Binary64.shortest m q).1).2)]
    · exact_mod_cast hvalue.symm
    · ring

/-! ## Numbers -/

/-- What a floating point number in the text of a layout reads as: a number outside the number line
    may have no name of its own. -/
def readFloat (l : Layout) (x : Binary64) : Value :=
  if x.isFinite || l.nan != "null" then .float x else .null

/-- A layout whose numbers outside the number line have the names that the reader knows, or are
    null. -/
def Named (l : Layout) : Prop :=
  l.nan = "NaN" ∧ l.infinity = "Infinity" ∨ l.nan = "null" ∧ l.infinity = "null"

theorem readName?_of_digit {c : Char} (h : (asciiDigit? c).isSome = true) (cs : List Char) :
    readName? (c :: cs) = none ∧ readName? ('-' :: c :: cs) = none := by
  have hne {d : Char} (hd : asciiDigit? d = none) : d ≠ c := by
    rintro rfl
    rw [hd] at h
    exact nomatch h
  have hn : 'n' ≠ c := hne rfl
  have ht : 't' ≠ c := hne rfl
  have hf : 'f' ≠ c := hne rfl
  have hN : 'N' ≠ c := hne rfl
  have hI : 'I' ≠ c := hne rfl
  have hminus : '-' ≠ c := hne rfl
  constructor
  · simp [readName?, names, Text.dropText?, hn, ht, hf, hN, hI, hminus]
  · simp [readName?, names, Text.dropText?, hI]

theorem readScalar_of_digit {c : Char} (h : (asciiDigit? c).isSome = true) {cs rest : List Char}
    {v : Value} {negative : Bool} (hread : readMagnitude negative (c :: cs) = .ok (v, rest)) :
    readScalar (if negative then '-' :: c :: cs else c :: cs) = .ok (v, rest) := by
  obtain ⟨hplain, hsigned⟩ := readName?_of_digit h cs
  cases negative with
  | true =>
    simp only [if_true, readScalar, hsigned, readNumber, hread]
    rfl
  | false =>
    have hminus : c ≠ '-' := by
      rintro rfl
      exact nomatch h
    have hnumber : readNumber (c :: cs) = readMagnitude false (c :: cs) := by
      unfold readNumber
      split
      · next heq => exact absurd (List.cons.inj heq).1 hminus
      · rfl
    simp only [Bool.false_eq_true, if_false, readScalar, hplain, hnumber, hread]
    rfl

theorem IsWhole.exists_cons {ds : List Char} (h : IsWhole ds) :
    ∃ c cs, ds = c :: cs ∧ (asciiDigit? c).isSome = true := by
  have hne : ds ≠ [] := by
    rcases h with rfl | ⟨hne, -⟩
    · exact List.cons_ne_nil _ _
    · exact hne
  obtain ⟨c, cs, rfl⟩ := List.exists_cons_of_ne_nil hne
  exact ⟨c, cs, rfl, h.isRun c List.mem_cons_self⟩

/-- **Integers read back**, unless they are too long. -/
theorem readScalar_ofInt {n : Int} (hn : Decimal.length n.natAbs ≤ digitLimit) {rest : List Char}
    (hrest : EndsNumber rest) : readScalar (ofInt n ++ rest) = .ok (.int n, rest) := by
  have hread (negative : Bool) (k : Nat) (hk : Decimal.length k ≤ digitLimit) :
      readMagnitude negative (ofNat k ++ rest) =
        .ok (.int (if negative then -(k : Int) else k), rest) := by
    have hfraction : fractionPart? rest = none :=
      fractionPart?_eq_none fun hhead => (hrest '.' hhead).2.1 rfl
    have hvalue := runValue_ofNat k
    rw [runValue] at hvalue
    have hshort : ¬digitLimit < (ofNat k).length := Nat.not_lt.2 hk
    rw [readMagnitude, wholePart?_append (isWhole_ofNat k) hrest.endsRun]
    simp only [hfraction, Option.map_none, Option.getD_none, exponentPart?_eq_none hrest,
      List.append_nil, hvalue, if_neg hshort]
  cases n with
  | ofNat k =>
    obtain ⟨c, cs, hcs, hc⟩ := (isWhole_ofNat k).exists_cons
    have hnat := hread false k hn
    rw [hcs, List.cons_append] at hnat
    rw [ofInt, hcs, List.cons_append]
    exact readScalar_of_digit hc hnat
  | negSucc k =>
    obtain ⟨c, cs, hcs, hc⟩ := (isWhole_ofNat (k + 1)).exists_cons
    have hneg := hread true (k + 1) hn
    rw [hcs, List.cons_append] at hneg
    rw [ofInt, hcs, List.cons_append, List.cons_append]
    exact readScalar_of_digit hc hneg

/-- **Floating point numbers read back**, as null where a layout has no name for them. -/
theorem readScalar_render {l : Layout} (hl : Named l) (x : Binary64) {rest : List Char}
    (hrest : EndsNumber rest) :
    readScalar (l.render x ++ rest) = .ok (readFloat l x, rest) := by
  have hmagnitude (negative : Bool) (m : Nat) (q : Int) (hcanonical : Binary64.Canonical m q) :
      readScalar (if negative then '-' :: (l.magnitude m q ++ rest) else l.magnitude m q ++ rest) =
        .ok (.float (.finite negative m q hcanonical), rest) := by
    obtain ⟨p, htext, hdenotes⟩ := exists_parts_magnitude l hcanonical
    have hread := p.readMagnitude_text l hrest negative
    obtain ⟨c, cs, hcs, hc⟩ := p.isWhole.exists_cons
    have hfirst : ∃ more, p.text l ++ rest = c :: more := by
      rw [Parts.text, hcs]
      exact ⟨_, rfl⟩
    obtain ⟨more, hmore⟩ := hfirst
    rw [htext, hmore]
    rw [hmore, hdenotes] at hread
    exact readScalar_of_digit hc hread
  match x with
  | .finite false m q hcanonical => exact hmagnitude false m q hcanonical
  | .finite true m q hcanonical => exact hmagnitude true m q hcanonical
  | .nan =>
    rcases hl with ⟨hnan, -⟩ | ⟨hnan, -⟩
    · simp [Layout.render, readFloat, hnan, readScalar, readName?, names, Text.dropText?]
    · simp [Layout.render, readFloat, hnan, readScalar, readName?, names, Text.dropText?,
        Binary64.isFinite]
  | .infinite false =>
    rcases hl with ⟨hnan, hinfinity⟩ | ⟨hnan, hinfinity⟩
    · simp [Layout.render, readFloat, hnan, hinfinity, readScalar, readName?, names, Text.dropText?]
    · simp [Layout.render, readFloat, hnan, hinfinity, readScalar, readName?, names,
        Text.dropText?, Binary64.isFinite]
  | .infinite true =>
    rcases hl with ⟨hnan, hinfinity⟩ | ⟨hnan, hinfinity⟩
    · simp [Layout.render, readFloat, hnan, hinfinity, readScalar, readName?, names, Text.dropText?]
    · simp [Layout.render, readFloat, hnan, hinfinity, readScalar, readName?, names,
        Text.dropText?, Binary64.isFinite]

end SearchClient.Json
