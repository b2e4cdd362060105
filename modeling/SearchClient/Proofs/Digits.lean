import Mathlib
import SearchClient.Decimal.Layout

set_option autoImplicit false

/-! # Digits of numbers

A number with `l` digits lies between `10 ^ (l - 1)` and `10 ^ l`, and one of its digits is not a
zero unless it is zero itself. So the shortest digits of a number above zero are not zero, and every
number has a text that is not empty. -/

namespace SearchClient.Decimal

theorem ofNat_ne_nil (n : Nat) : ofNat n ≠ [] := by
  rw [ofNat]
  split <;> simp

theorem ofInt_ne_nil (n : Int) : ofInt n ≠ [] := by
  cases n with
  | ofNat n => exact ofNat_ne_nil n
  | negSucc n => exact List.cons_ne_nil _ _

theorem digitChar_ne_zero {d : Nat} (hpos : d ≠ 0) (h : d < 10) : digitChar d ≠ '0' := by
  interval_cases d <;> first | exact absurd rfl hpos | decide

theorem exists_mem_ofNat_ne {n : Nat} (h : n ≠ 0) : ∃ c ∈ ofNat n, c ≠ '0' := by
  induction n using ofNat.induct with
  | case1 n hsmall =>
    rw [ofNat, if_pos hsmall]
    exact ⟨_, List.mem_singleton_self _, digitChar_ne_zero h hsmall⟩
  | case2 n hlarge ih =>
    rw [ofNat, if_neg hlarge]
    obtain ⟨c, hc, hne⟩ := ih (by omega)
    exact ⟨c, List.mem_append_left _ hc, hne⟩

theorem length_of_lt {n : Nat} (h : n < 10) : length n = 1 := by
  rw [length, ofNat, if_pos h]
  rfl

theorem length_of_le {n : Nat} (h : 10 ≤ n) : length n = length (n / 10) + 1 := by
  rw [length, ofNat, if_neg (by omega), List.length_append]
  rfl

theorem length_pos (n : Nat) : 0 < length n :=
  List.length_pos_of_ne_nil (ofNat_ne_nil n)

theorem lt_pow_length (n : Nat) : n < 10 ^ length n := by
  induction n using ofNat.induct with
  | case1 n hsmall =>
    rw [length_of_lt hsmall]
    omega
  | case2 n hlarge ih =>
    rw [length_of_le (by omega), Nat.pow_succ]
    omega

theorem pow_length_le {n : Nat} (h : n ≠ 0) : 10 ^ (length n - 1) ≤ n := by
  induction n using ofNat.induct with
  | case1 n hsmall =>
    rw [length_of_lt hsmall]
    omega
  | case2 n hlarge ih =>
    have htail := ih (by omega)
    have hpos := length_pos (n / 10)
    rw [length_of_le (by omega), Nat.add_sub_cancel]
    calc 10 ^ length (n / 10) = 10 * 10 ^ (length (n / 10) - 1) := by
          rw [← Nat.pow_succ', Nat.succ_eq_add_one, Nat.sub_add_cancel hpos]
      _ ≤ 10 * (n / 10) := Nat.mul_le_mul_left 10 htail
      _ ≤ n := Nat.mul_div_le n 10

/-- A number below a power of ten has no more digits than the power. -/
theorem length_le_of_lt {n l : Nat} (h : n < 10 ^ l) : length n ≤ max 1 l := by
  by_cases hn : n = 0
  · rw [hn, length_of_lt (by decide)]
    exact le_max_left 1 l
  · have hpow : 10 ^ (length n - 1) < 10 ^ l := (pow_length_le hn).trans_lt h
    have hlt := (Nat.pow_lt_pow_iff_right (by decide)).1 hpow
    omega

end SearchClient.Decimal

namespace SearchClient.Binary64.Ratio

/-- A ratio above zero reaches the unit of every grid that is at least as fine as its first
    digit. -/
theorem floorOn_ne_zero {r : Ratio} (hnum : 0 < r.num) (hden : 0 < r.den) {k : Int}
    (hk : k < r.magnitude) : r.floorOn k ≠ 0 := by
  unfold magnitude at hk
  unfold floorOn
  simp only [Nat.pow_eq]
  split at hk
  · -- the quotient is at least one, and its first digit stands at or above the unit of the grid
    next hle =>
    have hquotient : r.num / r.den ≠ 0 := (Nat.div_pos hle hden).ne'
    split
    · next hpos =>
      have hpow : 10 ^ k.toNat ≤ r.num / r.den :=
        (Nat.pow_le_pow_right (by decide) (by omega)).trans (Decimal.pow_length_le hquotient)
      have hunit : r.den * 10 ^ k.toNat ≤ r.num :=
        (Nat.mul_le_mul_left r.den hpow).trans (Nat.mul_div_le r.num r.den)
      exact (Nat.div_pos hunit (Nat.mul_pos hden (Nat.pow_pos (by decide)))).ne'
    · have hscaled : r.den ≤ r.num * 10 ^ (-k).toNat :=
        hle.trans (Nat.le_mul_of_pos_right r.num (Nat.pow_pos (by decide)))
      exact (Nat.div_pos hscaled hden).ne'
  · -- below one, the grid is fine enough to lift the numerator to the denominator
    have hlength := Decimal.lt_pow_length ((r.den - 1) / r.num)
    have hpos := Decimal.length_pos ((r.den - 1) / r.num)
    rw [Nat.div_lt_iff_lt_mul hnum, Nat.mul_comm] at hlength
    have hpow : 10 ^ Decimal.length ((r.den - 1) / r.num) ≤ 10 ^ (-k).toNat :=
      Nat.pow_le_pow_right (by decide) (by omega)
    have hscaled : r.den ≤ r.num * 10 ^ (-k).toNat := by
      have hmul := Nat.mul_le_mul_left r.num hpow
      omega
    rw [if_neg (by omega)]
    exact (Nat.div_pos hscaled hden).ne'

theorem binary_num_pos {n : Nat} (h : 0 < n) (q : Int) : 0 < (binary n q).num := by
  unfold binary
  split
  · exact Nat.mul_pos h (Nat.pow_pos (by decide))
  · exact h

theorem binary_den_pos (n : Nat) (q : Int) : 0 < (binary n q).den := by
  unfold binary
  split
  · exact Nat.one_pos
  · exact Nat.pow_pos (by decide)

theorem decimal_zero_num (k : Int) : (decimal 0 k).num = 0 := by
  unfold decimal
  split
  · exact Nat.zero_mul _
  · rfl

theorem decimal_den_pos (n : Nat) (k : Int) : 0 < (decimal n k).den := by
  unfold decimal
  split
  · exact Nat.one_pos
  · exact Nat.pow_pos (by decide)

end SearchClient.Binary64.Ratio

namespace SearchClient.Binary64

/-! ## Shortest digits -/

/-- No interval of a mantissa above zero reaches down to zero. -/
theorem contains_zero_eq_false {m : Nat} (hm : 0 < m) (q k : Int) :
    (Interval.of m q).contains (.decimal 0 k) = false := by
  have hlow : 0 < (Interval.of m q).low.num := by
    refine Ratio.binary_num_pos ?_ (q - 2)
    split <;> omega
  have hden := Ratio.decimal_den_pos 0 k
  have hpos := Nat.mul_pos hlow hden
  have hle : (Interval.of m q).low.le (.decimal 0 k) = false := by
    simp only [Ratio.le, Ratio.decimal_zero_num, Nat.zero_mul, decide_eq_false_iff_not]
    omega
  have hlt : (Interval.of m q).low.lt (.decimal 0 k) = false := by
    simp only [Ratio.lt, Ratio.decimal_zero_num, Nat.zero_mul, decide_eq_false_iff_not]
    omega
  simp [Interval.contains, hle, hlt]

theorem onGrid_ne_zero {m : Nat} (hm : 0 < m) {value : Ratio} {q k : Int} {d : Nat}
    (h : onGrid value (.of m q) k = some d) : d ≠ 0 := by
  rintro rfl
  have hzero := contains_zero_eq_false hm q k
  simp only [onGrid] at h
  split at h
  · exact nomatch h
  · next hlower _ =>
    rw [Option.some.inj h, hzero] at hlower
    exact nomatch hlower
  · exact nomatch h
  · next hlower _ =>
    split_ifs at h with hless hmore heven
    · rw [Option.some.inj h, hzero] at hlower
      exact nomatch hlower
    · exact nomatch h
    · rw [Option.some.inj h, hzero] at hlower
      exact nomatch hlower
    · exact nomatch h

theorem search_ne_zero {m : Nat} (hm : 0 < m) {value : Ratio} (hnum : 0 < value.num)
    (hden : 0 < value.den) (q : Int) (left : Nat) :
    ∀ digits, 0 < digits → (search value (.of m q) value.magnitude digits left).1 ≠ 0 := by
  induction left with
  | zero =>
      intro digits hdigits
      exact Ratio.floorOn_ne_zero hnum hden (by omega)
  | succ left ih =>
      intro digits hdigits
      unfold search
      split
      · next d hgrid => exact onGrid_ne_zero hm hgrid
      · exact ih (digits + 1) (Nat.succ_pos digits)

/-- **The shortest digits of a number above zero are not zero.** -/
theorem shortest_ne_zero {m : Nat} (hm : 0 < m) (q : Int) : (shortest m q).1 ≠ 0 :=
  search_ne_zero hm (Ratio.binary_num_pos hm q) (Ratio.binary_den_pos m q) q 17 1 Nat.one_pos

end SearchClient.Binary64

namespace SearchClient.Layout

/-! ## Texts -/

theorem significant_ne_nil {d : Nat} (h : d ≠ 0) : (significant d).1 ≠ [] := by
  obtain ⟨c, hc, hne⟩ := Decimal.exists_mem_ofNat_ne h
  intro hnil
  rw [significant, List.reverse_eq_nil_iff, List.dropWhile_eq_nil_iff] at hnil
  exact hne (of_decide_eq_true (hnil c (List.mem_reverse.2 hc)))

theorem place_ne_nil (l : Layout) {ds : List Char} (h : ds ≠ []) (e : Int) : l.place ds e ≠ [] := by
  unfold place
  split_ifs with hrange hneg
  · exact List.cons_ne_nil _ _
  · dsimp only
    split <;> simp
  · match ds with
    | [] => exact absurd rfl h
    | [d] => exact List.cons_ne_nil _ _
    | d :: c :: rest => exact List.cons_ne_nil _ _

theorem magnitude_ne_nil (l : Layout) (m : Nat) (q : Int) : l.magnitude m q ≠ [] := by
  unfold magnitude
  split
  · exact List.cons_ne_nil _ _
  · next hm =>
    exact place_ne_nil l
      (significant_ne_nil (Binary64.shortest_ne_zero (Nat.pos_of_ne_zero hm) q)) _

theorem render_plain_ne_nil (x : Binary64) : plain.render x ≠ [] := by
  match x with
  | .nan => exact List.cons_ne_nil _ _
  | .infinite false => exact List.cons_ne_nil _ _
  | .infinite true => exact List.cons_ne_nil _ _
  | .finite false m q _ => exact magnitude_ne_nil plain m q
  | .finite true m q _ => exact List.cons_ne_nil _ _

end SearchClient.Layout
