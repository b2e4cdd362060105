import Mathlib
import SearchClient.Proofs.Digits

set_option autoImplicit false

/-! # Shortest digits round back

Every ratio of the interval of a number is rounded to the number (`ofRatio_of_near`): the ratio has
the exponent of the number, or lies just below the power of two that the number is, and rounds up to
it. The shortest digits of a number are a decimal of its interval (`shortest_mem`), so whatever digits
and exponent stand for that decimal, they denote the number (`ofDecimal_of_shortest`). -/

namespace SearchClient.Binary64

/-! ## Ratios as rational numbers -/

namespace Ratio

/-- The rational number that a ratio is. -/
def toRat (r : Ratio) : ℚ :=
  r.num / r.den

theorem toRat_binary (n : Nat) (q : Int) : (binary n q).toRat = n * 2 ^ q := by
  unfold binary toRat
  split
  · next hq =>
    obtain ⟨k, rfl⟩ := Int.eq_ofNat_of_zero_le hq
    simp
  · next hq =>
    obtain ⟨k, rfl⟩ : ∃ k : Nat, q = -(k : Int) := ⟨(-q).toNat, by omega⟩
    simp [div_eq_mul_inv]

theorem toRat_decimal (n : Nat) (k : Int) : (decimal n k).toRat = n * 10 ^ k := by
  unfold decimal toRat
  split
  · next hk =>
    obtain ⟨j, rfl⟩ := Int.eq_ofNat_of_zero_le hk
    simp
  · next hk =>
    obtain ⟨j, rfl⟩ : ∃ j : Nat, k = -(j : Int) := ⟨(-k).toNat, by omega⟩
    simp [div_eq_mul_inv]

theorem le_iff {a b : Ratio} (ha : 0 < a.den) (hb : 0 < b.den) :
    a.le b = true ↔ a.toRat ≤ b.toRat := by
  have ha' : (0 : ℚ) < a.den := by exact_mod_cast ha
  have hb' : (0 : ℚ) < b.den := by exact_mod_cast hb
  rw [le, decide_eq_true_eq, toRat, toRat, div_le_div_iff₀ ha' hb']
  exact_mod_cast Iff.rfl

theorem lt_iff {a b : Ratio} (ha : 0 < a.den) (hb : 0 < b.den) :
    a.lt b = true ↔ a.toRat < b.toRat := by
  have ha' : (0 : ℚ) < a.den := by exact_mod_cast ha
  have hb' : (0 : ℚ) < b.den := by exact_mod_cast hb
  rw [lt, decide_eq_true_eq, toRat, toRat, div_lt_div_iff₀ ha' hb']
  exact_mod_cast Iff.rfl

/-- The point of a grid at or below a ratio: less than one unit of the grid is missing. -/
theorem floorOn_bounds {r : Ratio} (hden : 0 < r.den) (k : Int) :
    (r.floorOn k : ℚ) * 10 ^ k ≤ r.toRat ∧ r.toRat < (r.floorOn k + 1) * 10 ^ k := by
  have hden' : (0 : ℚ) < r.den := by exact_mod_cast hden
  have hunit : (0 : ℚ) < 10 ^ k := zpow_pos (by norm_num) k
  rw [← le_div_iff₀ hunit, ← div_lt_iff₀ hunit]
  -- scaled to the unit of the grid, the point is the integer part
  have hfloor : ∀ n d : Nat, 0 < d → r.toRat / 10 ^ k = (n : ℚ) / d →
      ((n / d : Nat) : ℚ) ≤ r.toRat / 10 ^ k ∧ r.toRat / 10 ^ k < ((n / d : Nat) : ℚ) + 1 := by
    intro n d hd hscaled
    have hd' : (0 : ℚ) < d := by exact_mod_cast hd
    rw [hscaled, le_div_iff₀ hd', div_lt_iff₀ hd']
    constructor
    · exact_mod_cast Nat.div_mul_le_self n d
    · rw [mul_comm]
      exact_mod_cast Nat.lt_mul_div_succ n hd
  unfold floorOn
  split
  · next hk =>
    obtain ⟨j, rfl⟩ := Int.eq_ofNat_of_zero_le hk
    refine hfloor _ _ (Nat.mul_pos hden (Nat.pow_pos (by decide))) ?_
    simp [toRat, div_div]
  · next hk =>
    obtain ⟨j, rfl⟩ : ∃ j : Nat, k = -(j : Int) := ⟨(-k).toNat, by omega⟩
    refine hfloor _ _ hden ?_
    simp [toRat, div_mul_eq_mul_div]

/-- A ratio above zero reaches its first digit. -/
theorem pow_magnitude_le {r : Ratio} (hnum : 0 < r.num) (hden : 0 < r.den) :
    (10 : ℚ) ^ (r.magnitude - 1) ≤ r.toRat := by
  have hfloor := floorOn_ne_zero hnum hden (k := r.magnitude - 1) (by omega)
  have hone : (1 : ℚ) ≤ r.floorOn (r.magnitude - 1) := by
    exact_mod_cast Nat.one_le_iff_ne_zero.2 hfloor
  have hunit : (0 : ℚ) < 10 ^ (r.magnitude - 1) := zpow_pos (by norm_num) _
  calc (10 : ℚ) ^ (r.magnitude - 1) ≤ r.floorOn (r.magnitude - 1) * 10 ^ (r.magnitude - 1) :=
        le_mul_of_one_le_left hunit.le hone
    _ ≤ r.toRat := (floorOn_bounds hden _).1

end Ratio

/-! ## Intervals -/

/-- How far the interval of a number reaches down, in units of its exponent. -/
def reach (m : Nat) (q : Int) : ℚ :=
  if m = leastFull ∧ q ≠ -1074 then 1 / 4 else 1 / 2

/-- A rational number of the interval of `m · 2^q`. -/
def Near (m : Nat) (q : Int) (x : ℚ) : Prop :=
  if m % 2 = 0 then m - reach m q ≤ x / 2 ^ q ∧ x / 2 ^ q ≤ m + 1 / 2
  else m - reach m q < x / 2 ^ q ∧ x / 2 ^ q < m + 1 / 2

theorem reach_bounds (m : Nat) (q : Int) : 1 / 4 ≤ reach m q ∧ reach m q ≤ 1 / 2 := by
  unfold reach
  split <;> norm_num

theorem Near.bounds {m : Nat} {q : Int} {x : ℚ} (h : Near m q x) :
    m - reach m q ≤ x / 2 ^ q ∧ x / 2 ^ q ≤ m + 1 / 2 := by
  unfold Near at h
  split at h
  · exact h
  · exact ⟨h.1.le, h.2.le⟩

theorem contains_iff {m : Nat} (hm : 0 < m) {q : Int} {r : Ratio} (hden : 0 < r.den) :
    (Interval.of m q).contains r = true ↔ Near m q r.toRat := by
  have hunit : (0 : ℚ) < 2 ^ q := zpow_pos (by norm_num) q
  have hquarter : (2 : ℚ) ^ (q - 2) = 2 ^ q / 4 := by
    rw [zpow_sub₀ (by norm_num)]
    norm_num
  have hlow : (Interval.of m q).low.toRat = (m - reach m q) * 2 ^ q := by
    have hreach : (((4 * m - if m = leastFull ∧ q ≠ -1074 then 1 else 2) : Nat) : ℚ) =
        4 * (m - reach m q) := by
      rw [reach]
      split
      · rw [Nat.cast_sub (by omega)]
        push_cast
        ring
      · rw [Nat.cast_sub (by omega)]
        push_cast
        ring
    rw [Interval.of, Ratio.toRat_binary, hreach, hquarter]
    ring
  have hhigh : (Interval.of m q).high.toRat = (m + 1 / 2) * 2 ^ q := by
    rw [Interval.of, Ratio.toRat_binary, hquarter]
    push_cast
    ring
  have hlowDen : 0 < (Interval.of m q).low.den := Ratio.binary_den_pos _ _
  have hhighDen : 0 < (Interval.of m q).high.den := Ratio.binary_den_pos _ _
  unfold Interval.contains Near
  simp only [Interval.of, decide_eq_true_eq] at hlow hhigh hlowDen hhighDen ⊢
  split
  · rw [Bool.and_eq_true, Ratio.le_iff hlowDen hden, Ratio.le_iff hden hhighDen, hlow, hhigh,
      le_div_iff₀ hunit, div_le_iff₀ hunit]
  · rw [Bool.and_eq_true, Ratio.lt_iff hlowDen hden, Ratio.lt_iff hden hhighDen, hlow, hhigh,
      lt_div_iff₀ hunit, div_lt_iff₀ hunit]

/-! ## Shortest digits -/

theorem onGrid_contained {value : Ratio} {interval : Interval} {k : Int} {d : Nat}
    (h : onGrid value interval k = some d) : interval.contains (.decimal d k) = true := by
  unfold onGrid at h
  cases hlower : interval.contains (.decimal (value.floorOn k) k) with
  | false =>
    cases hupper : interval.contains (.decimal (value.floorOn k + 1) k) with
    | false => simp [hlower, hupper] at h
    | true =>
      simp only [hlower, hupper, Option.some.injEq] at h
      rw [← h, hupper]
  | true =>
    cases hupper : interval.contains (.decimal (value.floorOn k + 1) k) with
    | false =>
      simp only [hlower, hupper, Option.some.injEq] at h
      rw [← h, hlower]
    | true =>
      -- whichever of the two is nearer is in the interval
      have hnearer : d = value.floorOn k ∨ d = value.floorOn k + 1 := by
        simp only [hlower, hupper] at h
        split_ifs at h
        all_goals simp [← Option.some.inj h]
      rcases hnearer with rfl | rfl
      · exact hlower
      · exact hupper

/-- Eighteen digits are always enough: the grid is finer than the interval reaches down. -/
theorem near_floorOn {m : Nat} (hm : 0 < m) {q : Int} (hcanonical : Canonical m q) {k : Int}
    (hk : k = (Ratio.binary m q).magnitude - 18) :
    Near m q ((Ratio.binary m q).floorOn k * 10 ^ k) := by
  obtain ⟨hfull, -⟩ := hcanonical
  have hunit : (0 : ℚ) < 2 ^ q := zpow_pos (by norm_num) q
  have hvalue := Ratio.toRat_binary m q
  obtain ⟨hle, hlt⟩ := Ratio.floorOn_bounds (Ratio.binary_den_pos m q) k
  have hfirst := Ratio.pow_magnitude_le (Ratio.binary_num_pos hm q) (Ratio.binary_den_pos m q)
  have hfine : (10 : ℚ) ^ ((Ratio.binary m q).magnitude - 1) = 10 ^ 17 * 10 ^ k := by
    rw [hk, ← zpow_natCast, ← zpow_add₀ (by norm_num)]
    congr 1
    push_cast
    ring
  have hsmall : (m : ℚ) < 2 * 2 ^ 52 := by
    exact_mod_cast hfull
  rw [hvalue] at hle hlt hfirst
  rw [hfine] at hfirst
  -- the part that is missing is less than a quarter of a unit
  have hmissing : (10 : ℚ) ^ k < 2 ^ q / 4 := by
    have hbound : (m : ℚ) * 2 ^ q < 2 * 2 ^ 52 * 2 ^ q := mul_lt_mul_of_pos_right hsmall hunit
    linarith
  obtain ⟨hreach, -⟩ := reach_bounds m q
  have hlow : m - reach m q < (Ratio.binary m q).floorOn k * 10 ^ k / 2 ^ q := by
    rw [lt_div_iff₀ hunit]
    nlinarith
  have hhigh : (Ratio.binary m q).floorOn k * 10 ^ k / 2 ^ q < (m : ℚ) + 1 / 2 := by
    rw [div_lt_iff₀ hunit]
    nlinarith
  unfold Near
  split
  · exact ⟨hlow.le, hhigh.le⟩
  · exact ⟨hlow, hhigh⟩

/-- **Shortest digits** are a decimal of the interval of their number. -/
theorem shortest_mem {m : Nat} (hm : 0 < m) {q : Int} (hcanonical : Canonical m q) :
    Near m q ((shortest m q).1 * 10 ^ (shortest m q).2) := by
  have hsearch : ∀ left digits, digits + left = 18 → ∀ found : Nat × Int,
      search (.binary m q) (.of m q) (Ratio.binary m q).magnitude digits left = found →
        Near m q (found.1 * 10 ^ found.2) := by
    intro left
    induction left with
    | zero =>
      rintro digits hdigits found rfl
      exact near_floorOn hm hcanonical (by omega)
    | succ left ih =>
      rintro digits hdigits found hfound
      rw [search] at hfound
      split at hfound
      · next d hgrid =>
        rw [← hfound, ← Ratio.toRat_decimal, ← contains_iff hm (Ratio.decimal_den_pos _ _)]
        exact onGrid_contained hgrid
      · exact ih (digits + 1) (by omega) found hfound
  exact hsearch 17 1 rfl _ rfl

/-! ## Rounding -/

/-- A quotient within half a unit of an integer is the integer, or that above it, rounded down. -/
theorem eq_div_or_of_bounds {n d m : Nat} (hd : 0 < d) (hlow : 2 * (m * d) ≤ 2 * n + d)
    (hhigh : 2 * n ≤ 2 * (m * d) + d) : m = n / d ∨ m = n / d + 1 := by
  have hsplit : d * (n / d) + n % d = n := Nat.div_add_mod n d
  have hrest : n % d < d := Nat.mod_lt n hd
  have hle : m < n / d + 2 := by
    by_contra hnot
    have hmul : d * (n / d + 2) ≤ m * d := by
      rw [mul_comm m d]
      exact Nat.mul_le_mul_left d (by omega)
    rw [mul_add] at hmul
    omega
  have hge : n / d ≤ m := by
    by_contra hnot
    have hmul : (m + 1) * d ≤ d * (n / d) := by
      rw [mul_comm _ d]
      exact Nat.mul_le_mul_left d (by omega)
    rw [add_mul] at hmul
    omega
  omega

/-- A quotient within half a unit of an integer is rounded to it; of two such integers the even one
    counts. -/
theorem roundHalfEven_eq_of_bounds {n d m : Nat} (hd : 0 < d) (hlow : 2 * (m * d) ≤ 2 * n + d)
    (hhigh : 2 * n ≤ 2 * (m * d) + d)
    (htie : m % 2 = 1 → 2 * (m * d) < 2 * n + d ∧ 2 * n < 2 * (m * d) + d) :
    roundHalfEven n d = m := by
  have hsplit : d * (n / d) + n % d = n := Nat.div_add_mod n d
  rcases eq_div_or_of_bounds hd hlow hhigh with hm | hm
  · have hmul : m * d = d * (n / d) := by rw [hm, mul_comm]
    have hdown : 2 * (n % d) < d ∨ 2 * (n % d) = d ∧ n / d % 2 = 0 := by
      rcases Nat.mod_two_eq_zero_or_one m with heven | hodd
      · omega
      · obtain ⟨-, habove⟩ := htie hodd
        omega
    rw [roundHalfEven, if_pos hdown, hm]
  · have hmul : m * d = d * (n / d) + d := by rw [hm, add_mul, one_mul, mul_comm]
    have hup : ¬(2 * (n % d) < d ∨ 2 * (n % d) = d ∧ n / d % 2 = 0) := by
      rcases Nat.mod_two_eq_zero_or_one m with heven | hodd
      · omega
      · obtain ⟨hbelow, -⟩ := htie hodd
        omega
    rw [roundHalfEven, if_neg hup, hm]

theorem roundHalfEven_eq {n d m : Nat} (hd : 0 < d) (hlow : (m : ℚ) - 1 / 2 ≤ n / d)
    (hhigh : (n : ℚ) / d ≤ m + 1 / 2)
    (htie : m % 2 = 1 → (m : ℚ) - 1 / 2 < n / d ∧ (n : ℚ) / d < m + 1 / 2) :
    roundHalfEven n d = m := by
  have hd' : (0 : ℚ) < d := by exact_mod_cast hd
  rw [le_div_iff₀ hd'] at hlow
  rw [div_le_iff₀ hd'] at hhigh
  rw [lt_div_iff₀ hd', div_lt_iff₀ hd'] at htie
  refine roundHalfEven_eq_of_bounds hd ?_ ?_ fun hodd => ?_
  · have hcast : (2 * (m * d) : ℚ) ≤ 2 * n + d := by linarith
    exact_mod_cast hcast
  · have hcast : (2 * n : ℚ) ≤ 2 * (m * d) + d := by linarith
    exact_mod_cast hcast
  · obtain ⟨hbelow, habove⟩ := htie hodd
    have hcasts : (2 * (m * d) : ℚ) < 2 * n + d ∧ (2 * n : ℚ) < 2 * (m * d) + d :=
      ⟨by linarith, by linarith⟩
    exact ⟨by exact_mod_cast hcasts.1, by exact_mod_cast hcasts.2⟩

theorem scaleDown_eq (num : Nat) {den : Nat} (hden : 0 < den) (q : Int) :
    0 < (scaleDown num den q).2 ∧
      ((scaleDown num den q).1 : ℚ) / (scaleDown num den q).2 = num / den / 2 ^ q := by
  unfold scaleDown
  split
  · next hq =>
    obtain ⟨k, rfl⟩ := Int.eq_ofNat_of_zero_le hq
    exact ⟨Nat.mul_pos hden (Nat.pow_pos (by decide)), by simp [div_div]⟩
  · next hq =>
    obtain ⟨k, rfl⟩ : ∃ k : Nat, q = -(k : Int) := ⟨(-q).toNat, by omega⟩
    exact ⟨hden, by simp [div_mul_eq_mul_div]⟩

theorem pow_log2_le {n : Nat} (h : 0 < n) : (2 : ℚ) ^ n.log2 ≤ n := by
  exact_mod_cast Nat.log2_self_le h.ne'

theorem lt_pow_log2 (n : Nat) : (n : ℚ) < 2 ^ (n.log2 + 1) := by
  exact_mod_cast Nat.lt_log2_self

/-- The logarithms of a ratio leave one bit of its exponent open. -/
theorem guess_bounds {num den : Nat} (hnum : 0 < num) (hden : 0 < den) {guess : Int}
    (hguess : (num.log2 : Int) - den.log2 - 52 = guess) :
    (2 : ℚ) ^ 51 < num / den / 2 ^ guess ∧ (num : ℚ) / den / 2 ^ guess < 2 ^ 53 := by
  have hden' : (0 : ℚ) < den := by exact_mod_cast hden
  have hunit : (0 : ℚ) < 2 ^ guess := zpow_pos (by norm_num) guess
  have hscale : (2 : ℚ) ^ num.log2 = 2 ^ den.log2 * 2 ^ 52 * 2 ^ guess := by
    rw [← zpow_natCast, ← zpow_natCast, ← zpow_natCast, ← zpow_add₀ (by norm_num),
      ← zpow_add₀ (by norm_num)]
    congr 1
    push_cast
    omega
  constructor
  · rw [div_div, lt_div_iff₀ (mul_pos hden' hunit)]
    have hnumLow := pow_log2_le hnum
    have hdenHigh := lt_pow_log2 den
    rw [hscale] at hnumLow
    calc (2 : ℚ) ^ 51 * (den * 2 ^ guess) < 2 ^ 51 * (2 ^ (den.log2 + 1) * 2 ^ guess) := by gcongr
      _ = 2 ^ den.log2 * 2 ^ 52 * 2 ^ guess := by ring
      _ ≤ num := hnumLow
  · rw [div_div, div_lt_iff₀ (mul_pos hden' hunit)]
    have hnumHigh := lt_pow_log2 num
    have hdenLow := pow_log2_le hden
    rw [pow_succ, hscale] at hnumHigh
    calc (num : ℚ) < 2 ^ den.log2 * 2 ^ 52 * 2 ^ guess * 2 := hnumHigh
      _ = 2 ^ 53 * (2 ^ den.log2 * 2 ^ guess) := by ring
      _ ≤ 2 ^ 53 * (den * 2 ^ guess) := by gcongr

/-- The exponent at which a ratio fills 53 bits, or the least one. -/
theorem exponentOf_eq {num den : Nat} (hnum : 0 < num) (hden : 0 < den) :
    ∃ e : Int, exponentOf num den = max e (-1074) ∧
      (2 : ℚ) ^ 52 ≤ num / den / 2 ^ e ∧ (num : ℚ) / den / 2 ^ e < 2 ^ 53 := by
  generalize hguess : (num.log2 : Int) - den.log2 - 52 = guess
  obtain ⟨hlow, hhigh⟩ := guess_bounds hnum hden hguess
  obtain ⟨hpos, hratio⟩ := scaleDown_eq num hden guess
  have hpos' : (0 : ℚ) < (scaleDown num den guess).2 := by exact_mod_cast hpos
  have hfull : leastFull ≤ (scaleDown num den guess).1 / (scaleDown num den guess).2 ↔
      (2 : ℚ) ^ 52 ≤ num / den / 2 ^ guess := by
    rw [Nat.le_div_iff_mul_le hpos, ← hratio, le_div_iff₀ hpos']
    exact_mod_cast Iff.rfl
  simp only [exponentOf, hguess]
  by_cases hquotient : (2 : ℚ) ^ 52 ≤ num / den / 2 ^ guess
  · exact ⟨guess, by rw [if_pos (hfull.2 hquotient)], hquotient, hhigh⟩
  · have hdouble : (num : ℚ) / den / 2 ^ (guess - 1) = 2 * (num / den / 2 ^ guess) := by
      rw [zpow_sub_one₀ (by norm_num)]
      field_simp
    refine ⟨guess - 1, by rw [if_neg fun h => hquotient (hfull.1 h)], ?_, ?_⟩
    · rw [hdouble]
      linarith
    · rw [hdouble]
      linarith

theorem div_zpow_eq (x : ℚ) (e q : Int) : x / 2 ^ e = x / 2 ^ q * 2 ^ (q - e) := by
  rw [zpow_sub₀ (by norm_num)]
  field_simp

/-- A ratio near a number has the exponent of the number, unless the number is a power of two that
    the ratio does not reach. -/
theorem exponentOf_of_near {num den m : Nat} {q : Int} (hnum : 0 < num) (hden : 0 < den)
    (hcanonical : Canonical m q) (hnear : Near m q (num / den)) :
    exponentOf num den = q ∨ exponentOf num den = q - 1 ∧ m = leastFull ∧ q ≠ -1074 ∧
      (num : ℚ) / den / 2 ^ q < m := by
  obtain ⟨e, hexponent, hlow, hhigh⟩ := exponentOf_eq hnum hden
  obtain ⟨hfull, hleast, -, hsubnormal⟩ := hcanonical
  obtain ⟨hbelow, habove⟩ := hnear.bounds
  have hm : (m : ℚ) + 1 ≤ 2 ^ 53 := by
    exact_mod_cast hfull
  have hx : (0 : ℚ) < num / den / 2 ^ q := by positivity
  have hle : e ≤ q := by
    by_contra hnot
    have hpow : (2 : ℚ) ^ (q - e) ≤ 2 ^ (-1 : Int) :=
      zpow_le_zpow_right₀ (by norm_num) (by omega)
    have hbound := mul_le_mul_of_nonneg_left hpow hx.le
    rw [div_zpow_eq _ e q] at hlow
    rw [zpow_neg_one] at hbound
    linarith
  rcases eq_or_lt_of_le hle with rfl | hlt
  · exact Or.inl (by omega)
  by_cases hq : q = -1074
  · exact Or.inl (by omega)
  -- below the exponent of a number that fills 53 bits there is only the power of two to reach
  have hhalf : (2 : ℚ) ^ 1 ≤ 2 ^ (q - e) := by
    rw [← zpow_natCast]
    exact zpow_le_zpow_right₀ (by norm_num) (by omega)
  rw [div_zpow_eq _ e q] at hhigh
  have hshort : (num : ℚ) / den / 2 ^ q < 2 ^ 52 := by
    nlinarith
  have hsize : leastFull ≤ m := hsubnormal.resolve_right hq
  have hmLow : (2 : ℚ) ^ 52 ≤ m := by
    exact_mod_cast hsize
  have hpower : m = leastFull := by
    by_contra hne
    have hmore : (2 : ℚ) ^ 52 + 1 ≤ m := by
      exact_mod_cast Nat.lt_of_le_of_ne hsize (Ne.symm hne)
    obtain ⟨-, hreach⟩ := reach_bounds m q
    linarith
  have hreach : reach m q = 1 / 4 := if_pos ⟨hpower, hq⟩
  have hnext : e = q - 1 := by
    by_contra hne
    have hquarter : (2 : ℚ) ^ 2 ≤ 2 ^ (q - e) := by
      rw [← zpow_natCast]
      exact zpow_le_zpow_right₀ (by norm_num) (by push_cast; omega)
    nlinarith
  exact Or.inr ⟨by omega, hpower, hq, by linarith⟩

theorem ofRatio_eq {num den : Nat} (hnum : 0 < num) (hden : 0 < den) {m n : Nat} {q p : Int}
    (hexponent : exponentOf num den = p)
    (hround : roundHalfEven (scaleDown num den p).1 (scaleDown num den p).2 = n)
    (hcarry : (if n = 2 * leastFull then (leastFull, p + 1) else (n, p)) = (m, q))
    (hcanonical : Canonical m q) (negative : Bool) :
    ofRatio negative num den = .finite negative m q hcanonical := by
  have hpos : ¬(num = 0 ∨ den = 0) := by omega
  simp only [ofRatio, if_neg hpos, hexponent, hround, hcarry, dif_pos hcanonical]

/-- **Rounding.** A ratio near a number is rounded to it. -/
theorem ofRatio_of_near {num den m : Nat} {q : Int} (hnum : 0 < num) (hden : 0 < den)
    (hcanonical : Canonical m q) (hnear : Near m q (num / den)) (negative : Bool) :
    ofRatio negative num den = .finite negative m q hcanonical := by
  obtain ⟨hbelow, habove⟩ := hnear.bounds
  obtain ⟨-, hhalf⟩ := reach_bounds m q
  rcases exponentOf_of_near hnum hden hcanonical hnear with hexponent | ⟨hexponent, rfl, hq, hless⟩
  · obtain ⟨hpos, hratio⟩ := scaleDown_eq num hden q
    refine ofRatio_eq hnum hden hexponent (n := m) ?_ ?_ hcanonical negative
    · refine roundHalfEven_eq hpos ?_ ?_ fun hodd => ?_
      · rw [hratio]
        linarith
      · rw [hratio]
        exact habove
      · unfold Near at hnear
        rw [if_neg (by omega)] at hnear
        rw [hratio]
        exact ⟨by linarith [hnear.1], hnear.2⟩
    · have hfull := hcanonical.1
      rw [if_neg (by omega)]
  · -- just below a power of two the mantissa rounds up, and the power of two is carried
    obtain ⟨hpos, hratio⟩ := scaleDown_eq num hden (q - 1)
    have hreach : reach leastFull q = 1 / 4 := if_pos ⟨rfl, hq⟩
    have hdouble : (num : ℚ) / den / 2 ^ (q - 1) = num / den / 2 ^ q * 2 := by
      rw [div_zpow_eq _ (q - 1) q]
      norm_num
    rw [hreach] at hbelow
    refine ofRatio_eq hnum hden hexponent (n := 2 * leastFull) ?_ ?_ hcanonical negative
    · refine roundHalfEven_eq hpos ?_ ?_ fun hodd => ?_
      · rw [hratio, hdouble]
        push_cast
        linarith
      · rw [hratio, hdouble]
        push_cast
        linarith
      · omega
    · rw [if_pos rfl]
      simp

/-! ## Decimals -/

theorem pow_log2_div_le (digits : Nat) :
    (digits : ℚ) < 10 ^ (digits.log2 / 3 + 1) := by
  calc (digits : ℚ) < 2 ^ (digits.log2 + 1) := lt_pow_log2 digits
    _ ≤ 2 ^ (3 * (digits.log2 / 3 + 1)) := by
        exact pow_le_pow_right₀ (by norm_num) (by omega)
    _ = 8 ^ (digits.log2 / 3 + 1) := by
        rw [pow_mul]
        norm_num
    _ ≤ 10 ^ (digits.log2 / 3 + 1) := by gcongr; norm_num

/-- A decimal of a magnitude below 1200 orders lies below 400 orders. -/
theorem decimal_lt_of_magnitude {digits : Nat} {e : Int}
    (h : e + (digits.log2 : Int) / 3 < -1200) : (digits : ℚ) * 10 ^ e < 10 ^ (-400 : Int) := by
  calc (digits : ℚ) * 10 ^ e < 10 ^ (digits.log2 / 3 + 1) * 10 ^ e :=
        mul_lt_mul_of_pos_right (pow_log2_div_le digits) (zpow_pos (by norm_num) e)
    _ = 10 ^ (((digits.log2 / 3 + 1 : Nat) : Int) + e) := by
        rw [← zpow_natCast, ← zpow_add₀ (by norm_num)]
    _ ≤ 10 ^ (-400 : Int) := zpow_le_zpow_right₀ (by norm_num) (by omega)

theorem pow_le_decimal {digits : Nat} (hdigits : digits ≠ 0) {e : Int} (h : 400 < e) :
    (10 : ℚ) ^ (400 : Int) ≤ digits * 10 ^ e := by
  have hone : (1 : ℚ) ≤ digits := by
    exact_mod_cast Nat.one_le_iff_ne_zero.2 hdigits
  calc (10 : ℚ) ^ (400 : Int) ≤ 10 ^ e := zpow_le_zpow_right₀ (by norm_num) h.le
    _ ≤ digits * 10 ^ e := le_mul_of_one_le_left (zpow_pos (by norm_num) e).le hone

/-- Numbers above zero lie well within 400 orders of magnitude. -/
theorem Near.range {m : Nat} (hm : 0 < m) {q : Int} (hcanonical : Canonical m q) {x : ℚ}
    (h : Near m q x) : (10 : ℚ) ^ (-400 : Int) < x ∧ x < 10 ^ (400 : Int) := by
  obtain ⟨hfull, hleast, hmost, -⟩ := hcanonical
  obtain ⟨hbelow, habove⟩ := h.bounds
  have hunit : (0 : ℚ) < 2 ^ q := zpow_pos (by norm_num) q
  obtain ⟨-, hhalf⟩ := reach_bounds m q
  have hone : (1 : ℚ) ≤ m := by
    exact_mod_cast hm
  have hsmall : (m : ℚ) + 1 ≤ 2 ^ 53 := by
    exact_mod_cast hfull
  rw [le_div_iff₀ hunit] at hbelow
  rw [div_le_iff₀ hunit] at habove
  constructor
  · have hlow : (2 : ℚ) ^ (-1074 : Int) ≤ 2 ^ q := zpow_le_zpow_right₀ (by norm_num) hleast
    have hgap : (10 : ℚ) ^ (-400 : Int) < 2 ^ (-1 : Int) * 2 ^ (-1074 : Int) := by
      have hpow : (2 : ℚ) ^ 1075 < 10 ^ 400 := by
        exact_mod_cast (by decide +kernel : 2 ^ 1075 < 10 ^ 400)
      rw [← zpow_add₀ (by norm_num), zpow_neg, show (-1 + -1074 : Int) = -1075 from rfl, zpow_neg]
      exact inv_strictAnti₀ (by positivity) (by exact_mod_cast hpow)
    calc (10 : ℚ) ^ (-400 : Int) < 2 ^ (-1 : Int) * 2 ^ (-1074 : Int) := hgap
      _ ≤ (m - reach m q) * 2 ^ q := by
          refine mul_le_mul ?_ hlow (by positivity) (by linarith)
          rw [zpow_neg_one]
          linarith
      _ ≤ x := hbelow
  · have hhigh : (2 : ℚ) ^ q ≤ 2 ^ (971 : Int) := zpow_le_zpow_right₀ (by norm_num) hmost
    have hgap : (2 : ℚ) ^ 53 * 2 ^ (971 : Int) < 10 ^ (400 : Int) := by
      exact_mod_cast (by decide +kernel : 2 ^ 53 * 2 ^ 971 < 10 ^ 400)
    calc x ≤ (m + 1 / 2) * 2 ^ q := habove
      _ ≤ 2 ^ 53 * 2 ^ (971 : Int) := by gcongr; linarith
      _ < 10 ^ (400 : Int) := hgap

/-- A decimal near a number denotes it. -/
theorem ofDecimal_of_near {m : Nat} (hm : 0 < m) {q : Int} (hcanonical : Canonical m q)
    {digits : Nat} {e : Int} (h : Near m q (digits * 10 ^ e)) (negative : Bool) :
    ofDecimal negative digits e = .finite negative m q hcanonical := by
  obtain ⟨hlow, hhigh⟩ := h.range hm hcanonical
  have hdigits : digits ≠ 0 := by
    rintro rfl
    have hpos : (0 : ℚ) < 10 ^ (-400 : Int) := zpow_pos (by norm_num) _
    rw [Nat.cast_zero, zero_mul] at hlow
    linarith
  -- neither shortcut is taken
  have hlarge : ¬(e + (digits.log2 : Int) / 3 < -1200 ∧ e < -400) := by
    rintro ⟨hmagnitude, -⟩
    exact lt_asymm hlow (decimal_lt_of_magnitude hmagnitude)
  have hsmall : ¬400 < e := fun hlt => absurd (pow_le_decimal hdigits hlt) (not_le.2 hhigh)
  simp only [ofDecimal, if_neg hdigits, if_neg hlarge, if_neg hsmall, Nat.pow_eq]
  split
  · next he =>
    obtain ⟨k, rfl⟩ := Int.eq_ofNat_of_zero_le he
    refine ofRatio_of_near (Nat.mul_pos (Nat.pos_of_ne_zero hdigits) (by positivity)) Nat.one_pos
      hcanonical ?_ negative
    simpa using h
  · next he =>
    obtain ⟨k, rfl⟩ : ∃ k : Nat, e = -(k : Int) := ⟨(-e).toNat, by omega⟩
    refine ofRatio_of_near (Nat.pos_of_ne_zero hdigits) (by positivity) hcanonical ?_ negative
    simpa [div_eq_mul_inv] using h

/-- **Shortest digits read back.** Digits and an exponent that stand for the shortest decimal of a
    number denote the number. -/
theorem ofDecimal_of_shortest {m : Nat} (hm : 0 < m) {q : Int} (hcanonical : Canonical m q)
    {digits : Nat} {e : Int}
    (h : (digits : ℚ) * 10 ^ e = (shortest m q).1 * 10 ^ (shortest m q).2) (negative : Bool) :
    ofDecimal negative digits e = .finite negative m q hcanonical :=
  ofDecimal_of_near hm hcanonical (h ▸ shortest_mem hm hcanonical) negative

end SearchClient.Binary64
