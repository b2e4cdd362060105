import Mathlib
import SearchClient.Proofs.Rounding

set_option autoImplicit false

/-! # Rounding to nearest

`Rounds` says to which floating point number a rational number is rounded: to one that no other is
nearer than, of two such numbers to the one with the even mantissa, and from half a unit above the
largest number on to an infinity. There is one such number only (`Rounds.unique`), and decimals are
read as it (`rounds_ofDecimal`). -/

namespace SearchClient.Binary64

/-! ## The rule -/

/-- The least rational number that is rounded to an infinity. -/
def overflow : ℚ :=
  (2 ^ 53 - 1 / 2) * 2 ^ (971 : Int)

/-- A rational number, which is the size of a number of a given sign, is rounded to a floating point
    number. -/
inductive Rounds (negative : Bool) (r : ℚ) : Binary64 → Prop where
  | finite {m : Nat} {q : Int} (hcanonical : Canonical m q) (hlt : r < overflow)
      (hnearest : ∀ n p, Canonical n p → |(m : ℚ) * 2 ^ q - r| ≤ |(n : ℚ) * 2 ^ p - r|)
      (heven : m % 2 = 1 → ∀ n p, Canonical n p → |(n : ℚ) * 2 ^ p - r| = |(m : ℚ) * 2 ^ q - r| →
        (n : ℚ) * 2 ^ p = m * 2 ^ q) :
      Rounds negative r (.finite negative m q hcanonical)
  | infinite (hle : overflow ≤ r) : Rounds negative r (.infinite negative)

/-! ## Neighbours -/

theorem leastFull_eq : leastFull = 2 ^ 52 := rfl

/-- A number is a multiple of the unit of any number whose exponent is not above its own. -/
theorem mul_zpow_eq_of_le (n : Nat) {p q : Int} (h : q ≤ p) :
    ∃ j : Nat, (n : ℚ) * 2 ^ p = ((n * 2 ^ j : Nat) : ℚ) * 2 ^ q := by
  obtain ⟨j, hj⟩ := Int.eq_ofNat_of_zero_le (sub_nonneg.2 h)
  refine ⟨j, ?_⟩
  rw [show p = q + j by omega, zpow_add₀ (by norm_num), zpow_natCast]
  push_cast
  ring

/-- A number with a lower exponent lies at least half a unit below the least one that fills 53 bits. -/
theorem mul_zpow_le_of_lt {n : Nat} {p q : Int} (hcanonical : Canonical n p) (h : p < q) :
    (n : ℚ) * 2 ^ p ≤ (2 ^ 52 - 1 / 2) * 2 ^ q := by
  have hn : (n : ℚ) + 1 ≤ 2 ^ 53 := by
    exact_mod_cast hcanonical.1
  have hunit : (2 : ℚ) ^ p ≤ 2 ^ (q - 1) := zpow_le_zpow_right₀ (by norm_num) (by omega)
  calc (n : ℚ) * 2 ^ p ≤ (2 ^ 53 - 1) * 2 ^ (q - 1) :=
        mul_le_mul (by linarith) hunit (by positivity) (by norm_num)
    _ = (2 ^ 52 - 1 / 2) * 2 ^ q := by
        rw [zpow_sub_one₀ (by norm_num)]
        ring

theorem leastFull_le_of_lt {m n : Nat} {p q : Int} (hm : Canonical m q) (hn : Canonical n p)
    (h : p < q) : (2 : ℚ) ^ 52 ≤ m := by
  have hfull : leastFull ≤ m := hm.2.2.2.resolve_right (by have := hn.2.1; omega)
  exact_mod_cast hfull

/-- The values of numbers tell their mantissas and exponents. -/
theorem canonical_unique {m n : Nat} {q p : Int} (hm : Canonical m q) (hn : Canonical n p)
    (h : (m : ℚ) * 2 ^ q = n * 2 ^ p) : m = n ∧ q = p := by
  have hexponent : ∀ {m n : Nat} {q p : Int}, Canonical m q → Canonical n p →
      (m : ℚ) * 2 ^ q = n * 2 ^ p → ¬p < q := by
    intro m n q p hm hn h hlt
    have hunit : (0 : ℚ) < 2 ^ q := zpow_pos (by norm_num) q
    have hfull := leastFull_le_of_lt hm hn hlt
    have hle := mul_zpow_le_of_lt hn hlt
    rw [← h] at hle
    have := le_of_mul_le_mul_right hle hunit
    linarith
  obtain rfl : q = p := le_antisymm (not_lt.1 (hexponent hm hn h)) (not_lt.1 (hexponent hn hm h.symm))
  have hunit : (2 : ℚ) ^ q ≠ 0 := zpow_ne_zero q (by norm_num)
  exact ⟨by exact_mod_cast mul_right_cancel₀ hunit h, rfl⟩

/-- Between a number with an even mantissa and another one with an even mantissa above it there is a
    further number. -/
theorem exists_between {m n : Nat} {q p : Int} (hm : Canonical m q) (hn : Canonical n p)
    (hmEven : m % 2 = 0) (hnEven : n % 2 = 0) (h : (m : ℚ) * 2 ^ q < n * 2 ^ p) :
    Canonical (m + 1) q ∧ (m : ℚ) * 2 ^ q < (m + 1 : Nat) * 2 ^ q ∧
      ((m + 1 : Nat) : ℚ) * 2 ^ q < n * 2 ^ p := by
  have hunit : (0 : ℚ) < 2 ^ q := zpow_pos (by norm_num) q
  have hle : q ≤ p := by
    by_contra hnot
    have hlow := mul_zpow_le_of_lt hn (not_le.1 hnot)
    have hfull := leastFull_le_of_lt hm hn (not_le.1 hnot)
    have hlt := lt_of_mul_lt_mul_right (h.trans_le hlow) hunit.le
    linarith
  obtain ⟨j, hj⟩ := mul_zpow_eq_of_le n hle
  rw [hj] at h ⊢
  have hless : m < n * 2 ^ j := by
    exact_mod_cast lt_of_mul_lt_mul_right h hunit.le
  -- an even mantissa is followed by an odd one, which no multiple of an even one is
  have hother : m + 1 ≠ n * 2 ^ j := by
    intro heq
    have hmod : n * 2 ^ j % 2 = 0 := by rw [Nat.mul_mod, hnEven, Nat.zero_mul, Nat.zero_mod]
    omega
  obtain ⟨hfull, hleast, hmost, hsubnormal⟩ := hm
  refine ⟨⟨?_, hleast, hmost, hsubnormal.imp_left fun h => by omega⟩, ?_, ?_⟩
  · rw [leastFull_eq] at hfull ⊢
    omega
  · exact mul_lt_mul_of_pos_right (by exact_mod_cast Nat.lt_succ_self m) hunit
  · exact mul_lt_mul_of_pos_right (by exact_mod_cast lt_of_le_of_ne hless hother) hunit

/-- A rational number is rounded to one number only. -/
theorem Rounds.unique {negative : Bool} {r : ℚ} {x y : Binary64} (hx : Rounds negative r x)
    (hy : Rounds negative r y) : x = y := by
  -- a number as near as another one, but below it, is odd or has an odd one beside it that is nearer
  have hnot : ∀ {m n : Nat} {q p : Int}, Canonical m q → Canonical n p →
      (∀ k e, Canonical k e → |(m : ℚ) * 2 ^ q - r| ≤ |(k : ℚ) * 2 ^ e - r|) →
      |(m : ℚ) * 2 ^ q - r| = |(n : ℚ) * 2 ^ p - r| → m % 2 = 0 → n % 2 = 0 →
      ¬(m : ℚ) * 2 ^ q < n * 2 ^ p := by
    intro m n q p hm hn hnearest heq hmEven hnEven hlt
    obtain ⟨hcanonical, hlow, hhigh⟩ := exists_between hm hn hmEven hnEven hlt
    have hmiddle := hnearest _ _ hcanonical
    rcases abs_cases ((m : ℚ) * 2 ^ q - r) with hm' | hm' <;>
      rcases abs_cases ((n : ℚ) * 2 ^ p - r) with hn' | hn' <;>
      rcases abs_cases (((m + 1 : Nat) : ℚ) * 2 ^ q - r) with hk | hk <;> linarith
  cases hx with
  | infinite hle =>
    cases hy with
    | infinite => rfl
    | finite _ hlt => exact absurd hle (not_le.2 hlt)
  | @finite m q hm hlt hnearest heven =>
    cases hy with
    | infinite hle => exact absurd hle (not_le.2 hlt)
    | @finite n p hn _ hnearest' heven' =>
      have heq : |(m : ℚ) * 2 ^ q - r| = |(n : ℚ) * 2 ^ p - r| :=
        le_antisymm (hnearest n p hn) (hnearest' m q hm)
      have hvalue : (m : ℚ) * 2 ^ q = n * 2 ^ p := by
        rcases Nat.mod_two_eq_zero_or_one m with hmEven | hmOdd
        · rcases Nat.mod_two_eq_zero_or_one n with hnEven | hnOdd
          · exact le_antisymm (not_lt.1 (hnot hn hm hnearest' heq.symm hnEven hmEven))
              (not_lt.1 (hnot hm hn hnearest heq hmEven hnEven))
          · exact heven' hnOdd m q hm heq
        · exact (heven hmOdd n p hn heq.symm).symm
      obtain ⟨rfl, rfl⟩ := canonical_unique hm hn hvalue
      rfl

/-! ## Intervals -/

/-- The interval of a number in units of the number: an odd mantissa does not reach its ends. -/
theorem Near.distance {m : Nat} {q : Int} {r : ℚ} (h : Near m q r) :
    |(m : ℚ) - r / 2 ^ q| ≤ 1 / 2 ∧ (m % 2 = 1 → |(m : ℚ) - r / 2 ^ q| < 1 / 2) := by
  obtain ⟨-, hreach⟩ := reach_bounds m q
  obtain ⟨hlow, hhigh⟩ := h.bounds
  refine ⟨abs_le.2 ⟨by linarith, by linarith⟩, fun hodd => ?_⟩
  unfold Near at h
  rw [if_neg (by omega)] at h
  exact abs_lt.2 ⟨by linarith [h.2], by linarith [h.1]⟩

/-- A number of an interval is no nearer to any other multiple of the unit. -/
theorem Near.distance_natCast {m : Nat} {q : Int} {r : ℚ} (h : Near m q r) {k : Nat} (hk : k ≠ m) :
    |(m : ℚ) - r / 2 ^ q| ≤ |(k : ℚ) - r / 2 ^ q| ∧
      (m % 2 = 1 → |(m : ℚ) - r / 2 ^ q| < |(k : ℚ) - r / 2 ^ q|) := by
  obtain ⟨hhalf, hodd⟩ := h.distance
  have hone : (1 : ℚ) ≤ |(k : ℚ) - m| := by
    exact_mod_cast Int.one_le_abs (sub_ne_zero.2 (Nat.cast_injective.ne hk))
  have htriangle : |(k : ℚ) - m| ≤ |(k : ℚ) - r / 2 ^ q| + |(m : ℚ) - r / 2 ^ q| := by
    have := abs_sub (k - r / 2 ^ q) (m - r / 2 ^ q)
    rwa [sub_sub_sub_cancel_right] at this
  exact ⟨by linarith, fun h => by linarith [hodd h]⟩

/-- A number of an interval is no nearer to anything that lies half a unit below the least mantissa
    that fills 53 bits. -/
theorem Near.distance_below {m : Nat} {q : Int} {r : ℚ} (h : Near m q r) (hq : q ≠ -1074)
    (hm : (2 : ℚ) ^ 52 ≤ m) {y : ℚ} (hy : y ≤ 2 ^ 52 - 1 / 2) :
    |(m : ℚ) - r / 2 ^ q| ≤ |y - r / 2 ^ q| ∧
      (m % 2 = 1 → |(m : ℚ) - r / 2 ^ q| < |y - r / 2 ^ q|) := by
  obtain ⟨hlow, hhigh⟩ := h.bounds
  obtain ⟨hhalf, -⟩ := h.distance
  have hbelow : r / 2 ^ q - y ≤ |y - r / 2 ^ q| := by
    rw [abs_sub_comm]
    exact le_abs_self _
  by_cases hpower : m = leastFull
  · -- the interval of a power of two is narrower below it
    have hreach : reach m q = 1 / 4 := if_pos ⟨hpower, hq⟩
    refine ⟨abs_le'.2 ⟨by linarith, by linarith⟩, fun hodd => ?_⟩
    rw [hpower, leastFull_eq] at hodd
    omega
  · have hmore : (2 : ℚ) ^ 52 + 1 ≤ m := by
      have hle : leastFull ≤ m := by exact_mod_cast hm
      exact_mod_cast Nat.lt_of_le_of_ne hle (Ne.symm hpower)
    obtain ⟨-, hreach⟩ := reach_bounds m q
    exact ⟨by linarith, fun _ => by linarith⟩

theorem abs_mul_zpow_sub (a r : ℚ) (q : Int) : |a * 2 ^ q - r| = |a - r / 2 ^ q| * 2 ^ q := by
  have hunit : (0 : ℚ) < 2 ^ q := zpow_pos (by norm_num) q
  rw [← abs_of_pos hunit, ← abs_mul, sub_mul, abs_of_pos hunit, div_mul_cancel₀ _ hunit.ne']

theorem Near.lt_overflow {m : Nat} {q : Int} {r : ℚ} (hcanonical : Canonical m q) (h : Near m q r) :
    r < overflow := by
  have hunit : (0 : ℚ) < 2 ^ q := zpow_pos (by norm_num) q
  obtain ⟨hfull, -, hmost, -⟩ := hcanonical
  have hle : (2 : ℚ) ^ q ≤ 2 ^ (971 : Int) := zpow_le_zpow_right₀ (by norm_num) hmost
  -- the largest mantissa is odd, so that its interval does not reach its end
  have hlt : r / 2 ^ q < 2 ^ 53 - 1 / 2 := by
    rw [leastFull_eq] at hfull
    by_cases hlargest : m = 2 ^ 53 - 1
    · have hless := (abs_lt.1 (h.distance.2 (by omega))).1
      rw [hlargest] at hless
      push_cast at hless
      linarith
    · have hm : (m : ℚ) + 2 ≤ 2 ^ 53 := by
        exact_mod_cast (by omega : m + 2 ≤ 2 ^ 53)
      have hless := (abs_le.1 h.distance.1).1
      linarith
  rw [div_lt_iff₀ hunit] at hlt
  exact hlt.trans_le (mul_le_mul_of_nonneg_left hle (by norm_num))

/-- The numbers of the interval of a number are rounded to it. -/
theorem Near.rounds {m : Nat} {q : Int} {r : ℚ} (hcanonical : Canonical m q) (h : Near m q r)
    (negative : Bool) : Rounds negative r (.finite negative m q hcanonical) := by
  have hunit : (0 : ℚ) < 2 ^ q := zpow_pos (by norm_num) q
  -- any number is a multiple of the unit, or has a lower exponent
  have hother : ∀ n p, Canonical n p → (n : ℚ) * 2 ^ p = m * 2 ^ q ∨
      |(m : ℚ) * 2 ^ q - r| ≤ |(n : ℚ) * 2 ^ p - r| ∧
        (m % 2 = 1 → |(m : ℚ) * 2 ^ q - r| < |(n : ℚ) * 2 ^ p - r|) := by
    intro n p hn
    have hscaled : ∀ y : ℚ, (n : ℚ) * 2 ^ p = y * 2 ^ q →
        |(m : ℚ) - r / 2 ^ q| ≤ |y - r / 2 ^ q| ∧
          (m % 2 = 1 → |(m : ℚ) - r / 2 ^ q| < |y - r / 2 ^ q|) →
        |(m : ℚ) * 2 ^ q - r| ≤ |(n : ℚ) * 2 ^ p - r| ∧
          (m % 2 = 1 → |(m : ℚ) * 2 ^ q - r| < |(n : ℚ) * 2 ^ p - r|) := by
      rintro y hy ⟨hle, hlt⟩
      rw [hy, abs_mul_zpow_sub, abs_mul_zpow_sub]
      exact ⟨mul_le_mul_of_nonneg_right hle hunit.le,
        fun hodd => mul_lt_mul_of_pos_right (hlt hodd) hunit⟩
    rcases lt_or_ge p q with hlt | hge
    · right
      have hy : (n : ℚ) * 2 ^ p = n * 2 ^ p / 2 ^ q * 2 ^ q := (div_mul_cancel₀ _ hunit.ne').symm
      refine hscaled _ hy (h.distance_below ?_ (leastFull_le_of_lt hcanonical hn hlt) ?_)
      · have hleast := hn.2.1
        omega
      · rw [div_le_iff₀ hunit]
        exact mul_zpow_le_of_lt hn hlt
    · obtain ⟨j, hj⟩ := mul_zpow_eq_of_le n hge
      by_cases hk : n * 2 ^ j = m
      · left
        rw [hj, hk]
      · exact Or.inr (hscaled _ hj (h.distance_natCast hk))
  refine .finite hcanonical (h.lt_overflow hcanonical) (fun n p hn => ?_) fun hodd n p hn heq => ?_
  · rcases hother n p hn with hsame | ⟨hle, -⟩
    · rw [hsame]
    · exact hle
  · rcases hother n p hn with hsame | ⟨-, hlt⟩
    · exact hsame
    · exact absurd heq (hlt hodd).ne'

/-! ## Ratios -/

/-- The integer to which a quotient is rounded is within half a unit of it, and an odd one within
    less. -/
theorem roundHalfEven_bounds (n : Nat) {d : Nat} (hd : 0 < d) :
    ((roundHalfEven n d : ℚ) - 1 / 2 ≤ n / d ∧ (n : ℚ) / d ≤ roundHalfEven n d + 1 / 2) ∧
      (roundHalfEven n d % 2 = 1 →
        (roundHalfEven n d : ℚ) - 1 / 2 < n / d ∧ (n : ℚ) / d < roundHalfEven n d + 1 / 2) := by
  have hd' : (0 : ℚ) < d := by exact_mod_cast hd
  have hsplit : d * (n / d) + n % d = n := Nat.div_add_mod n d
  have hless : n % d < d := Nat.mod_lt n hd
  simp only [le_div_iff₀ hd', div_le_iff₀ hd', lt_div_iff₀ hd', div_lt_iff₀ hd']
  -- the bounds hold of the integer part, or else of the integer above it, as natural numbers
  have hbounds : ∀ k : Nat, 2 * (k * d) ≤ 2 * n + d → 2 * n ≤ 2 * (k * d) + d →
      (k % 2 = 1 → 2 * (k * d) < 2 * n + d ∧ 2 * n < 2 * (k * d) + d) →
      (((k : ℚ) - 1 / 2) * d ≤ n ∧ (n : ℚ) ≤ (k + 1 / 2) * d) ∧
        (k % 2 = 1 → ((k : ℚ) - 1 / 2) * d < n ∧ (n : ℚ) < (k + 1 / 2) * d) := by
    intro k hlow hhigh hodd
    have hlow' : (2 * (k * d) : ℚ) ≤ 2 * n + d := by exact_mod_cast hlow
    have hhigh' : (2 * n : ℚ) ≤ 2 * (k * d) + d := by exact_mod_cast hhigh
    refine ⟨⟨by linarith, by linarith⟩, fun h => ?_⟩
    have hlow'' : (2 * (k * d) : ℚ) < 2 * n + d := by exact_mod_cast (hodd h).1
    have hhigh'' : (2 * n : ℚ) < 2 * (k * d) + d := by exact_mod_cast (hodd h).2
    exact ⟨by linarith, by linarith⟩
  have hmul : n / d * d = d * (n / d) := mul_comm _ _
  unfold roundHalfEven
  dsimp only
  split
  · exact hbounds _ (by omega) (by omega) (by omega)
  · have hnext : (n / d + 1) * d = n / d * d + d := by rw [add_mul, one_mul]
    exact hbounds _ (by omega) (by omega) (by omega)

/-- A mantissa and an exponent that are not canonical belong to a number beyond the largest one. -/
theorem ofRatio_cases {num den : Nat} (hnum : 0 < num) (hden : 0 < den) {m n : Nat} {q p : Int}
    (hexponent : exponentOf num den = p)
    (hround : roundHalfEven (scaleDown num den p).1 (scaleDown num den p).2 = n)
    (hcarry : (if n = 2 * leastFull then (leastFull, p + 1) else (n, p)) = (m, q))
    (hfull : m < 2 * leastFull) (hleast : -1074 ≤ q) (hsubnormal : leastFull ≤ m ∨ q = -1074)
    (hnear : Near m q (num / den)) (hbeyond : 971 < q → overflow ≤ (num : ℚ) / den)
    (negative : Bool) : Rounds negative (num / den) (ofRatio negative num den) := by
  by_cases hq : q ≤ 971
  · rw [ofRatio_eq hnum hden hexponent hround hcarry ⟨hfull, hleast, hq, hsubnormal⟩ negative]
    exact hnear.rounds _ negative
  · have hnot : ¬Canonical m q := fun h => hq h.2.2.1
    have hpos : ¬(num = 0 ∨ den = 0) := by omega
    simp only [ofRatio, if_neg hpos, hexponent, hround, hcarry, dif_neg hnot]
    exact .infinite (hbeyond (not_le.1 hq))

/-- The exponent of a ratio is the one at which it fills 53 bits, or the least one. -/
theorem exponentOf_bounds {num den : Nat} (hnum : 0 < num) (hden : 0 < den) {p : Int}
    (hp : exponentOf num den = p) : -1074 ≤ p ∧ (num : ℚ) / den / 2 ^ p < 2 ^ 53 ∧
      ((2 : ℚ) ^ 52 ≤ num / den / 2 ^ p ∨ p = -1074) := by
  obtain ⟨e, hexponent, hlow, hhigh⟩ := exponentOf_eq hnum hden
  rw [hp] at hexponent
  rcases le_total (-1074) e with hle | hle
  · obtain rfl : p = e := by omega
    exact ⟨hle, hhigh, Or.inl hlow⟩
  · obtain rfl : p = -1074 := by omega
    have hunit : (2 : ℚ) ^ (e - -1074) ≤ 1 := zpow_le_one_of_nonpos₀ (by norm_num) (by omega)
    refine ⟨le_rfl, ?_, Or.inr rfl⟩
    calc (num : ℚ) / den / 2 ^ (-1074 : Int) = num / den / 2 ^ e * 2 ^ (e - -1074) :=
          div_zpow_eq _ _ _
      _ ≤ num / den / 2 ^ e := mul_le_of_le_one_right (by positivity) hunit
      _ < 2 ^ 53 := hhigh

theorem overflow_le {x : ℚ} {p : Int} (hp : 971 ≤ p) (h : 2 ^ 53 - 1 / 2 ≤ x / 2 ^ p) :
    overflow ≤ x := by
  have hunit : (0 : ℚ) < 2 ^ p := zpow_pos (by norm_num) p
  rw [le_div_iff₀ hunit] at h
  have hle : (2 : ℚ) ^ (971 : Int) ≤ 2 ^ p := zpow_le_zpow_right₀ (by norm_num) hp
  exact (mul_le_mul_of_nonneg_left hle (by norm_num)).trans h

/-- **Ratios are rounded to nearest.** -/
theorem rounds_ofRatio {num den : Nat} (hnum : 0 < num) (hden : 0 < den) (negative : Bool) :
    Rounds negative (num / den) (ofRatio negative num den) := by
  obtain ⟨p, hp⟩ : ∃ p, exponentOf num den = p := ⟨_, rfl⟩
  obtain ⟨hleast, hhigh, hlow⟩ := exponentOf_bounds hnum hden hp
  obtain ⟨hpos, hratio⟩ := scaleDown_eq num hden p
  obtain ⟨n, hn⟩ : ∃ n, roundHalfEven (scaleDown num den p).1 (scaleDown num den p).2 = n :=
    ⟨_, rfl⟩
  have hbounds := roundHalfEven_bounds (scaleDown num den p).1 hpos
  rw [hn, hratio] at hbounds
  obtain ⟨⟨hbelow, habove⟩, hodd⟩ := hbounds
  by_cases hcarry : n = 2 * leastFull
  · -- the mantissa is rounded up to the next power of two
    have hhalf : (num : ℚ) / den / 2 ^ (p + 1) = num / den / 2 ^ p / 2 := by
      rw [zpow_add_one₀ (by norm_num), ← div_div]
    have hn' : (n : ℚ) = 2 ^ 53 := by
      rw [hcarry, leastFull_eq]
      norm_num
    rw [hn'] at hbelow
    refine ofRatio_cases hnum hden hp hn (if_pos hcarry) (by decide) (by omega) (Or.inl le_rfl) ?_
      (fun hq => overflow_le (by omega) hbelow) negative
    have hreach : reach leastFull (p + 1) = 1 / 4 := if_pos ⟨rfl, by omega⟩
    have heven : leastFull % 2 = 0 := rfl
    rw [Near, if_pos heven, hreach, hhalf, leastFull_eq]
    push_cast
    exact ⟨by linarith, by linarith⟩
  · have hle : n ≤ 2 * leastFull := by
      have hlt : (n : ℚ) < 2 ^ 53 + 1 := by linarith
      exact Nat.lt_succ_iff.1 (by exact_mod_cast hlt)
    have hfull : leastFull ≤ n ∨ p = -1074 := by
      refine hlow.imp_left fun h => ?_
      have hlt : (2 : ℚ) ^ 52 < n + 1 := by linarith
      exact Nat.lt_succ_iff.1 (by exact_mod_cast hlt)
    refine ofRatio_cases hnum hden hp hn (if_neg hcarry) (by omega) hleast hfull ?_ (fun hq => ?_)
      negative
    · unfold Near
      split
      · refine ⟨?_, habove⟩
        unfold reach
        split
        · next hpower =>
          have hn' : (n : ℚ) = 2 ^ 52 := by exact_mod_cast hpower.1
          have hreached := hlow.resolve_right hpower.2
          linarith
        · exact hbelow
      · next hnot =>
        have hless := hodd (by omega)
        have hreach : reach n p = 1 / 2 := if_neg fun h => hnot (by rw [h.1]; rfl)
        rw [hreach]
        exact hless
    · -- one binary place further, the integer part alone is beyond the largest number
      have hreached := hlow.resolve_right (by omega)
      have hdouble : (num : ℚ) / den / 2 ^ (p - 1) = 2 * (num / den / 2 ^ p) := by
        rw [zpow_sub_one₀ (by norm_num)]
        field_simp
      exact overflow_le (p := p - 1) (by omega) (by rw [hdouble]; linarith)

/-! ## Decimals -/

/-- Up to half of the least number above zero, a rational number is rounded to zero. -/
theorem rounds_zero {r : ℚ} (hpos : 0 ≤ r) (h : r ≤ 2 ^ (-1075 : Int)) (negative : Bool) :
    Rounds negative r (zero negative) := by
  have hunit : (0 : ℚ) < 2 ^ (-1074 : Int) := zpow_pos (by norm_num) _
  have hhalf : (2 : ℚ) ^ (-1075 : Int) = 1 / 2 * 2 ^ (-1074 : Int) := by
    rw [show (-1075 : Int) = -1074 - 1 from rfl, zpow_sub_one₀ (by norm_num), mul_comm, one_div]
  have hnear : Near 0 (-1074) r := by
    have hreach : reach 0 (-1074) = 1 / 2 := if_neg fun h => h.2 rfl
    have hlow : 0 ≤ r / 2 ^ (-1074 : Int) := div_nonneg hpos hunit.le
    have hhigh : r / 2 ^ (-1074 : Int) ≤ 1 / 2 := by rwa [div_le_iff₀ hunit, ← hhalf]
    rw [Near, if_pos rfl, hreach, Nat.cast_zero, zero_sub, zero_add]
    exact ⟨le_trans (by norm_num) hlow, hhigh⟩
  exact hnear.rounds (by decide) negative

/-- **Decimals are rounded to nearest**: digits with a power of ten. -/
theorem rounds_ofDecimal (negative : Bool) (digits : Nat) (e : Int) :
    Rounds negative (digits * 10 ^ e) (ofDecimal negative digits e) := by
  have hunit : (0 : ℚ) < 10 ^ e := zpow_pos (by norm_num) e
  unfold ofDecimal
  simp only [Nat.pow_eq]
  split_ifs with hdigits hmagnitude hlarge he
  · rw [hdigits, Nat.cast_zero, zero_mul]
    exact rounds_zero le_rfl (by positivity) negative
  · refine rounds_zero (by positivity) ((decimal_lt_of_magnitude hmagnitude.1).le.trans ?_) negative
    have hpow : (2 : ℚ) ^ 1075 ≤ 10 ^ 400 := by
      exact_mod_cast (by decide +kernel : 2 ^ 1075 ≤ 10 ^ 400)
    rw [zpow_neg, zpow_neg]
    exact inv_anti₀ (by positivity) (by exact_mod_cast hpow)
  · refine .infinite (le_trans ?_ (pow_le_decimal hdigits hlarge))
    have hpow : (2 : ℚ) ^ 53 * 2 ^ (971 : Int) ≤ 10 ^ (400 : Int) := by
      exact_mod_cast (by decide +kernel : 2 ^ 53 * 2 ^ 971 ≤ 10 ^ 400)
    refine le_trans (mul_le_mul_of_nonneg_right ?_ (by positivity)) hpow
    norm_num
  · obtain ⟨k, rfl⟩ := Int.eq_ofNat_of_zero_le he
    have hpos : 0 < digits * 10 ^ k := Nat.mul_pos (Nat.pos_of_ne_zero hdigits) (by positivity)
    simpa using rounds_ofRatio hpos Nat.one_pos negative
  · obtain ⟨k, rfl⟩ : ∃ k : Nat, e = -(k : Int) := ⟨(-e).toNat, by omega⟩
    have hpos : 0 < 10 ^ k := by positivity
    simpa [div_eq_mul_inv] using rounds_ofRatio (Nat.pos_of_ne_zero hdigits) hpos negative

end SearchClient.Binary64
