import Mathlib
import SearchClient.Proofs.NumberReading
import SearchClient.Proofs.NumberText
import SearchClient.Proofs.QueryPlaces

set_option autoImplicit false

/-! # Numbers by their values

An integer and a floating point number have the same text in a query exactly if they are the same
number (`numbers_by_value`). The text of a whole number is a numeral, which is one of that number
only; any other number is written in a plain text, which has a mark that no integer literal has. -/

namespace SearchClient

/-! ## Integer literals -/

namespace Literal

/-- Characters of numbers that stand in no integer literal. -/
def marks : List Char :=
  ['.', 'e', 'n']

theorem mem_marks_iff {c : Char} : c ∈ marks ↔ c = '.' ∨ c = 'e' ∨ c = 'n' := by
  simp [marks]

theorem DigitPart.notMem_marks {cs : List Char} {ds : List Nat} (h : DigitPart cs ds) :
    ∀ c ∈ cs, c ∉ marks := by
  have hdigit : ∀ {c : Char} {d : Nat}, Text.digitValue? c = some d → c ∉ marks := by
    intro c d hd hmark
    rcases mem_marks_iff.1 hmark with rfl | rfl | rfl <;> exact nomatch hd
  induction h with
  | last hd => exact List.forall_mem_singleton.2 (hdigit hd)
  | next hd _ ih => exact List.forall_mem_cons.2 ⟨hdigit hd, ih⟩
  | spaced hd _ ih =>
      exact List.forall_mem_cons.2 ⟨hdigit hd, List.forall_mem_cons.2 ⟨by decide, ih⟩⟩

theorem SignPart.notMem_marks {sign : List Char} {negative : Bool} (h : SignPart sign negative) :
    ∀ c ∈ sign, c ∉ marks := by
  cases h <;> simp [marks]

/-- **Integer literals** have none of the marks. -/
theorem notMem_of_int? {s : String} {n : Int} (h : int? s = some n) : ∀ c ∈ marks, c ∉ s.toList := by
  intro c hmark hc
  have hblank : Text.isSpace c = false := by
    rcases mem_marks_iff.1 hmark with rfl | rfl | rfl <;> rfl
  obtain ⟨core, ⟨before, after, heq, hbefore, hafter⟩, hliteral⟩ := int?_eq_some_iff.1 h
  rw [heq, List.mem_append, List.mem_append] at hc
  rcases hc with (hc | hc) | hc
  · exact absurd (hbefore c hc) (Bool.not_eq_true _ ▸ hblank)
  · cases hliteral with
    | digits hsign hdigits _ =>
      rcases List.mem_append.1 hc with hc | hc
      · exact hsign.notMem_marks c hc hmark
      · exact hdigits.notMem_marks c hc hmark
  · exact absurd (hafter c hc) (Bool.not_eq_true _ ▸ hblank)

end Literal

/-! ## Exact values -/

namespace Binary64

/-- The number of the number line that this is, if it is one. -/
def rational? : Binary64 → Option ℚ
  | .finite negative m q _ => some ((if negative then -1 else 1) * (m * 2 ^ q))
  | _ => none

theorem mul_two_zpow_eq_iff {m k : Nat} {q : Int} : (m : ℚ) * 2 ^ q = k ↔
    if 0 ≤ q then m * 2 ^ q.toNat = k else m = k * 2 ^ (-q).toNat := by
  split
  · next hq =>
    obtain ⟨e, rfl⟩ := Int.eq_ofNat_of_zero_le hq
    rw [Int.toNat_natCast, zpow_natCast]
    exact_mod_cast Iff.rfl
  · next hq =>
    obtain ⟨e, he⟩ := Int.eq_ofNat_of_zero_le (Int.neg_nonneg.2 (Int.le_of_not_le hq))
    rw [he, Int.toNat_natCast, ← neg_neg q, he, zpow_neg, zpow_natCast,
      ← div_eq_mul_inv, div_eq_iff (by positivity)]
    exact_mod_cast Iff.rfl

theorem toInt?_finite_eq_some_iff {negative : Bool} {m : Nat} {q : Int} {hcanonical : Canonical m q}
    {n : Int} : (finite negative m q hcanonical).toInt? = some n ↔
      ∃ k : Nat, (m : ℚ) * 2 ^ q = k ∧ (if negative then -(k : Int) else k) = n := by
  simp only [mul_two_zpow_eq_iff, toInt?, Nat.pow_eq]
  by_cases hq : 0 ≤ q
  · simp [hq]
  · have hpos : 0 < 2 ^ (-q).toNat := Nat.two_pow_pos _
    simp only [if_neg hq]
    by_cases hdvd : m % 2 ^ (-q).toNat = 0
    · have hk : ∀ k, m = k * 2 ^ (-q).toNat ↔ m / 2 ^ (-q).toNat = k := fun k =>
        (Nat.div_eq_iff_eq_mul_left hpos (Nat.dvd_of_mod_eq_zero hdvd)).symm
      simp [hdvd, hk]
    · have hnone : ∀ k, m ≠ k * 2 ^ (-q).toNat := by
        rintro k hk
        rw [hk, Nat.mul_mod_left] at hdvd
        exact hdvd rfl
      simp [hdvd, hnone]

/-- **Exact integers.** The integer of a number is the one that it is exactly. -/
theorem toInt?_eq_some_iff {x : Binary64} {n : Int} :
    x.toInt? = some n ↔ x.rational? = some (n : ℚ) := by
  cases x with
  | nan | infinite => simp [toInt?, rational?]
  | finite negative m q hcanonical =>
    rw [toInt?_finite_eq_some_iff, rational?, Option.some_inj]
    have hpos : (0 : ℚ) ≤ m * 2 ^ q := by positivity
    cases negative with
    | false =>
      simp only [Bool.false_eq_true, if_false, one_mul]
      constructor
      · rintro ⟨k, hk, rfl⟩
        exact_mod_cast hk
      · intro hn
        rw [hn] at hpos
        obtain ⟨k, rfl⟩ := Int.eq_ofNat_of_zero_le (Int.cast_nonneg_iff.1 hpos)
        exact ⟨k, by exact_mod_cast hn, rfl⟩
    | true =>
      simp only [if_true, neg_one_mul]
      constructor
      · rintro ⟨k, hk, rfl⟩
        rw [hk]
        push_cast
        rfl
      · intro hn
        rw [neg_eq_iff_eq_neg] at hn
        rw [hn] at hpos
        have hle : 0 ≤ -n := by exact_mod_cast hpos
        obtain ⟨k, hk⟩ := Int.eq_ofNat_of_zero_le hle
        refine ⟨k, ?_, by omega⟩
        rw [hn]
        exact_mod_cast hk

end Binary64

/-! ## Numerals -/

namespace Decimal

/-- A text of decimal digits, behind a minus sign if the number is below zero, that denotes the
    number. -/
def IsNumeral (n : Int) (cs : List Char) : Prop :=
  ∃ ds, cs = (if n < 0 then ['-'] else []) ++ ds ∧ Json.IsWhole ds ∧ runValue ds = n.natAbs

theorem isNumeral_ofInt (n : Int) : IsNumeral n (ofInt n) := by
  cases n with
  | ofNat k => exact ⟨ofNat k, rfl, Json.isWhole_ofNat k, runValue_ofNat k⟩
  | negSucc k =>
    refine ⟨ofNat (k + 1), ?_, Json.isWhole_ofNat _, runValue_ofNat _⟩
    rw [if_pos (Int.negSucc_lt_zero k)]
    rfl

/-- A numeral is one of digits and a minus sign. -/
theorem IsNumeral.mem {n : Int} {cs : List Char} (h : IsNumeral n cs) {c : Char} (hc : c ∈ cs) :
    c = '-' ∨ (asciiDigit? c).isSome = true := by
  obtain ⟨ds, rfl, hwhole, -⟩ := h
  rcases List.mem_append.1 hc with hsign | hdigit
  · left
    split at hsign
    · exact List.mem_singleton.1 hsign
    · exact absurd hsign List.not_mem_nil
  · exact Or.inr (hwhole.isRun c hdigit)

theorem IsNumeral.notMem_marks {n : Int} {cs : List Char} (h : IsNumeral n cs) {c : Char}
    (hc : c ∈ cs) : c ∉ Literal.marks := by
  intro hmark
  rcases Literal.mem_marks_iff.1 hmark with rfl | rfl | rfl <;> exact absurd (h.mem hc) (by decide)

/-- A text is a numeral of one number only. -/
theorem IsNumeral.unique {n k : Int} {cs : List Char} (hn : IsNumeral n cs) (hk : IsNumeral k cs) :
    n = k := by
  obtain ⟨ds, rfl, hds, hvalue⟩ := hn
  obtain ⟨es, heq, hes, hother⟩ := hk
  have hminus : ∀ {fs gs : List Char}, Json.IsWhole gs → '-' :: fs ≠ gs := by
    rintro fs _ hwhole rfl
    exact absurd (hwhole.isRun '-' List.mem_cons_self) (by decide)
  split_ifs at heq with hneg hneg'
  · obtain rfl : ds = es := (List.cons.inj heq).2
    omega
  · exact absurd heq (hminus hes)
  · exact absurd heq.symm (hminus hds)
  · obtain rfl : ds = es := heq
    omega

end Decimal

/-! ## Plain texts -/

namespace Layout

open Json (Parts)

/-- **Plain texts are marked**: each has a point, an exponent or a letter of a name. -/
theorem exists_mark_render_plain (x : Binary64) : ∃ c ∈ Literal.marks, c ∈ plain.render x := by
  have hmagnitude : ∀ {m : Nat} {q : Int}, Binary64.Canonical m q →
      ∃ c ∈ Literal.marks, c ∈ plain.magnitude m q := by
    intro m q hcanonical
    obtain ⟨p, htext, -⟩ := Json.exists_parts_magnitude plain hcanonical
    rw [htext, Parts.text]
    rcases p.marked with hfraction | hexponent
    · obtain ⟨ds, hds⟩ := Option.isSome_iff_exists.1 hfraction
      exact ⟨'.', by decide, by simp [hds, Json.fractionText]⟩
    · obtain ⟨e, he⟩ := Option.isSome_iff_exists.1 hexponent
      exact ⟨'e', by decide, by simp [he, Json.exponentText, exponentText]⟩
  cases x with
  | nan => exact ⟨'n', by decide, by decide⟩
  | infinite negative =>
    refine ⟨'n', by decide, ?_⟩
    cases negative <;> decide
  | finite negative m q hcanonical =>
    obtain ⟨c, hmark, hc⟩ := hmagnitude hcanonical
    refine ⟨c, hmark, ?_⟩
    cases negative with
    | false => exact hc
    | true => exact List.mem_cons_of_mem _ hc

/-- Plain texts of finite numbers are those of bodies, which read back; no other ones read. -/
theorem readScalar_render_plain (x : Binary64) : (Json.readScalar (plain.render x)).toOption =
    if x.isFinite then some (.float x, []) else none := by
  match x with
  | .nan | .infinite true | .infinite false => rfl
  | .finite negative m q hcanonical =>
    have hend : Json.EndsNumber [] := fun c hc => nomatch hc
    have hread := Json.readScalar_render (l := body) (Or.inl ⟨rfl, rfl⟩)
      (.finite negative m q hcanonical) hend
    rw [List.append_nil] at hread
    have hsame : plain.render (.finite negative m q hcanonical) =
        body.render (.finite negative m q hcanonical) := by
      cases negative <;> rfl
    rw [hsame, hread]
    rfl

/-- Different numbers have different plain texts. -/
theorem render_plain_injective : Function.Injective plain.render := by
  -- the names of numbers outside the number line are not read, but there are three of them only
  have houtside : ∀ {x y : Binary64}, x.isFinite = false → y.isFinite = false →
      plain.render x = plain.render y → x = y := by
    intro x y hx hy h
    match x, y with
    | .finite .., _ => exact nomatch hx
    | _, .finite .. => exact nomatch hy
    | .nan, .nan => rfl
    | .infinite false, .infinite false | .infinite true, .infinite true => rfl
    | .infinite false, .infinite true | .infinite true, .infinite false =>
      exact absurd h (by decide)
    | .nan, .infinite negative => cases negative <;> exact absurd h (by decide)
    | .infinite negative, .nan => cases negative <;> exact absurd h (by decide)
  intro x y h
  have hread := congrArg (fun cs => (Json.readScalar cs).toOption) h
  simp only [readScalar_render_plain] at hread
  cases hx : x.isFinite <;> cases hy : y.isFinite <;> simp only [hx, hy] at hread
  · exact houtside hx hy h
  · simp at hread
  · simp at hread
  · simpa using hread

end Layout

/-! ## Texts in queries -/

namespace Query

theorem formatValue_of_exact {x : Binary64} {n : Int} (h : x.rational? = some (n : ℚ)) :
    formatValue (.float x) = formatValue (.int n) := by
  rw [← Binary64.toInt?_eq_some_iff] at h
  simp only [formatValue, h]
  rfl

theorem formatValue_of_inexact {x : Binary64} (h : ∀ n : Int, x.rational? ≠ some (n : ℚ)) :
    formatValue (.float x) = String.ofList (Layout.plain.render x) := by
  have hnone : x.toInt? = none := by
    rw [Option.eq_none_iff_forall_ne_some]
    exact fun n hn => h n (Binary64.toInt?_eq_some_iff.1 hn)
  simp only [formatValue, hnone]

theorem isNumeral_formatValue_int (n : Int) : Decimal.IsNumeral n (formatValue (.int n)).toList := by
  have htext : formatValue (.int n) = String.ofList (Decimal.ofInt n) := rfl
  rw [htext, String.toList_ofList]
  exact Decimal.isNumeral_ofInt n

/-- The text of a number that is no integer has a mark. -/
theorem exists_mark_formatValue {x : Binary64} (h : ∀ n : Int, x.rational? ≠ some (n : ℚ)) :
    ∃ c ∈ Literal.marks, c ∈ (formatValue (.float x)).toList := by
  rw [formatValue_of_inexact h, String.toList_ofList]
  exact Layout.exists_mark_render_plain x

theorem isNumeral_formatValue_float_iff {x : Binary64} {n : Int} :
    Decimal.IsNumeral n (formatValue (.float x)).toList ↔ x.rational? = some (n : ℚ) := by
  constructor
  · intro hnumeral
    by_cases hexact : ∃ k : Int, x.rational? = some (k : ℚ)
    · obtain ⟨k, hk⟩ := hexact
      rw [formatValue_of_exact hk] at hnumeral
      rw [hk, hnumeral.unique (isNumeral_formatValue_int k)]
    · obtain ⟨c, hmark, hc⟩ := exists_mark_formatValue (not_exists.1 hexact)
      exact absurd hmark (hnumeral.notMem_marks hc)
  · intro h
    rw [formatValue_of_exact h]
    exact isNumeral_formatValue_int n

/-- **Numbers by their values.** A floating point number has the text of an integer exactly if it is
    that integer, and then this is a numeral of it; otherwise its text is no integer literal. Two
    floating point numbers have the same text exactly if they are the same, or the same integer.
    Numbers show as these texts in a query, wherever they stand. -/
theorem numbers_by_value (x : Binary64) :
    (∀ n : Int, formatValue (.float x) = formatValue (.int n) ↔ x.rational? = some (n : ℚ)) ∧
    (∀ n : Int, Decimal.IsNumeral n (formatValue (.float x)).toList ↔ x.rational? = some (n : ℚ)) ∧
    (Literal.int? (formatValue (.float x)) ≠ none → ∃ n : Int, x.rational? = some (n : ℚ)) ∧
    (∀ y, formatValue (.float x) = formatValue (.float y) ↔
      x = y ∨ ∃ n : Int, x.rational? = some (n : ℚ) ∧ y.rational? = some (n : ℚ)) ∧
    ∀ (p : Place) (entries : Gap) (other : Value), ShowsNumbers (p.query entries other) := by
  have hnumeral : ∀ n : Int,
      Decimal.IsNumeral n (formatValue (.float x)).toList ↔ x.rational? = some (n : ℚ) :=
    fun n => isNumeral_formatValue_float_iff
  refine ⟨fun n => ⟨fun h => ?_, formatValue_of_exact⟩, hnumeral, fun hliteral => ?_,
    fun y => ⟨fun h => ?_, ?_⟩, Place.showsNumbers⟩
  · rw [← hnumeral, h]
    exact isNumeral_formatValue_int n
  · by_contra hinexact
    obtain ⟨n, hn⟩ := Option.ne_none_iff_exists'.1 hliteral
    obtain ⟨c, hmark, hc⟩ := exists_mark_formatValue (not_exists.1 hinexact)
    exact Literal.notMem_of_int? hn c hmark hc
  · by_cases hexact : ∃ n : Int, x.rational? = some (n : ℚ)
    · obtain ⟨n, hn⟩ := hexact
      refine Or.inr ⟨n, hn, ?_⟩
      rw [← isNumeral_formatValue_float_iff, ← h, hnumeral, hn]
    · have hother : ∀ n : Int, y.rational? ≠ some (n : ℚ) := by
        intro n hn
        rw [← isNumeral_formatValue_float_iff, ← h, hnumeral] at hn
        exact hexact ⟨n, hn⟩
      rw [formatValue_of_inexact (not_exists.1 hexact), formatValue_of_inexact hother,
        ← String.toList_inj, String.toList_ofList, String.toList_ofList] at h
      exact Or.inl (Layout.render_plain_injective h)
  · rintro (rfl | ⟨n, hx, hy⟩)
    · rfl
    · rw [formatValue_of_exact hx, formatValue_of_exact hy]

/-- A negative zero, a number whose plain text would have an exponent, and two that are no integers. -/
theorem numbers_by_value_of_corners :
    formatValue (.float (.zero true)) = formatValue (.int 0) ∧
      formatValue (.float (.ofDecimal false 1 22)) = formatValue (.int (10 ^ 22)) ∧
      Literal.int? (formatValue (.float (.ofDecimal false 1 (-7)))) = none ∧
      Literal.int? (formatValue (.float (.infinite true))) = none := by
  have hnone : ∀ {x : Binary64}, x.toInt? = none → Literal.int? (formatValue (.float x)) = none := by
    intro x hx
    by_contra hliteral
    obtain ⟨n, hn⟩ := (numbers_by_value x).2.2.1 hliteral
    rw [← Binary64.toInt?_eq_some_iff, hx] at hn
    exact nomatch hn
  have hzero : (Binary64.zero true).toInt? = some 0 := by decide +kernel
  have hlarge : (Binary64.ofDecimal false 1 22).toInt? = some (10 ^ 22) := by decide +kernel
  exact ⟨((numbers_by_value _).1 0).2 (Binary64.toInt?_eq_some_iff.1 hzero),
    ((numbers_by_value _).1 (10 ^ 22)).2 (Binary64.toInt?_eq_some_iff.1 hlarge),
    hnone (by decide +kernel), hnone rfl⟩

end Query

end SearchClient
