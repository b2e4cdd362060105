import Mathlib
import SearchClient.Proofs.Split
import SearchClient.Proofs.Utf8
import SearchClient.Text.Percent

set_option autoImplicit false

/-! # Percent forms read back

`Percent.text` undoes `Percent.encodeBy` for every class of characters without the percent sign.
An encoded text holds the kept characters, percent signs and upper case digits alone, so a
separator that is not kept never shows up in it, and a text of kept characters is the form of
itself only. -/

namespace SearchClient.Text.Percent

/-! ## Hexadecimal digits -/

theorem hexValue?_hexDigitUpper {d : Nat} (h : d < 16) : hexValue? (hexDigitUpper d) = some d := by
  interval_cases d <;> decide

theorem octets_octet (b : UInt8) (cs : List Char) : octets (octet b ++ cs) = b :: octets cs := by
  have hb : b.toNat < 256 := b.toNat_lt_size
  have hhigh := hexValue?_hexDigitUpper (d := b.toNat / 16) (by omega)
  have hlow := hexValue?_hexDigitUpper (d := b.toNat % 16) (by omega)
  simp only [octet, List.cons_append, List.nil_append, octets, hhigh, hlow]
  rw [show 16 * (b.toNat / 16) + b.toNat % 16 = b.toNat by omega, UInt8.ofNat_toNat]

theorem octets_flatMap_octet (bs : List UInt8) (cs : List Char) :
    octets (bs.flatMap octet ++ cs) = bs ++ octets cs := by
  induction bs with
  | nil => rfl
  | cons b bs ih =>
      rw [List.flatMap_cons, List.append_assoc, octets_octet, ih, List.cons_append]

theorem octets_cons_of_ne {c : Char} (h : c ≠ '%') (cs : List Char) :
    octets (c :: cs) = Utf8.encodeChar c ++ octets cs := by
  rw [octets]
  intro a b cs hc
  exact absurd hc h

/-! ## Encoded texts -/

variable {keep : Char → Bool}

theorem ne_of_class {c d : Char} (hc : keep c = true) (hd : keep d = false) : c ≠ d := by
  rintro rfl
  rw [hd] at hc
  exact absurd hc (by simp)

theorem encodeBy_cons (c : Char) (cs : List Char) :
    encodeBy keep (c :: cs) = (if keep c then [c] else escapeChar c) ++ encodeBy keep cs :=
  List.flatMap_cons

theorem encodeBy_append (cs ds : List Char) :
    encodeBy keep (cs ++ ds) = encodeBy keep cs ++ encodeBy keep ds :=
  List.flatMap_append

/-- The octets behind an encoded text are those of the text. -/
theorem octets_encodeBy (hkeep : keep '%' = false) (cs : List Char) :
    octets (encodeBy keep cs) = Utf8.encode cs := by
  induction cs with
  | nil => rfl
  | cons c cs ih =>
      rw [encodeBy_cons, Utf8.encode_cons]
      split
      · next hc =>
        rw [List.singleton_append, octets_cons_of_ne (ne_of_class hc hkeep), ih]
      · rw [escapeChar, octets_flatMap_octet, ih]

/-- **An encoded text reads back.** -/
theorem text_encodeBy (hkeep : keep '%' = false) (cs : List Char) :
    text (encodeBy keep cs) = cs := by
  rw [text, octets_encodeBy hkeep, Utf8.decodeLeniently_encode]

/-- What a percent form is made of. -/
def isFormChar (c : Char) : Bool :=
  c = '%' || c.isDigit || ('A' ≤ c && c ≤ 'F')

theorem isFormChar_hexDigitUpper {d : Nat} (h : d < 16) : isFormChar (hexDigitUpper d) = true := by
  interval_cases d <;> decide

theorem isFormChar_of_mem_escapeChar {c d : Char} (h : d ∈ escapeChar c) : isFormChar d = true := by
  obtain ⟨b, -, hd⟩ := List.mem_flatMap.1 h
  have hb : b.toNat < 256 := b.toNat_lt_size
  simp only [octet, List.mem_cons, List.not_mem_nil, or_false] at hd
  rcases hd with rfl | rfl | rfl
  · rfl
  · exact isFormChar_hexDigitUpper (by omega)
  · exact isFormChar_hexDigitUpper (by omega)

theorem mem_encodeBy {cs : List Char} {d : Char} (h : d ∈ encodeBy keep cs) :
    (keep d = true ∧ d ∈ cs) ∨ isFormChar d = true := by
  obtain ⟨c, hc, hd⟩ := List.mem_flatMap.1 h
  split at hd
  · next hkept =>
    obtain rfl := List.mem_singleton.1 hd
    exact Or.inl ⟨hkept, hc⟩
  · exact Or.inr (isFormChar_of_mem_escapeChar hd)

theorem encodeBy_eq_self {cs : List Char} (h : ∀ c ∈ cs, keep c = true) : encodeBy keep cs = cs := by
  induction cs with
  | nil => rfl
  | cons c cs ih =>
      rw [encodeBy_cons, if_pos (h c List.mem_cons_self),
        ih fun d hd => h d (List.mem_cons_of_mem c hd), List.singleton_append]

theorem percent_mem_escapeChar (c : Char) : '%' ∈ escapeChar c := by
  obtain ⟨b, bs, hc, -⟩ := Utf8.step_encodeChar false [] c
  simp [escapeChar, hc, octet]

/-- A text of kept characters without a percent sign is the encoded form of itself only. -/
theorem encodeBy_eq_iff {cs ds : List Char} (hkept : ∀ d ∈ ds, keep d = true) (hpercent : '%' ∉ ds) :
    encodeBy keep cs = ds ↔ cs = ds := by
  constructor
  · rintro rfl
    refine (encodeBy_eq_self fun c hc => ?_).symm
    by_contra hdrop
    refine hpercent (List.mem_flatMap.2 ⟨c, hc, ?_⟩)
    rw [if_neg hdrop]
    exact percent_mem_escapeChar c
  · rintro rfl
    exact encodeBy_eq_self hkept

theorem encodeBy_eq_nil_iff {cs : List Char} : encodeBy keep cs = [] ↔ cs = [] :=
  encodeBy_eq_iff (by simp) List.not_mem_nil

/-! ## Separators -/

theorem encodeBy_joinOn {c : Char} (hkeep : keep c = true) (parts : List (List Char)) :
    encodeBy keep (joinOn c parts) = joinOn c (parts.map (encodeBy keep)) := by
  induction parts with
  | nil => rfl
  | cons part parts ih =>
      cases parts with
      | nil => rfl
      | cons next parts =>
          rw [joinOn_cons_cons, encodeBy_append, encodeBy_cons, if_pos hkeep, ih]
          rfl

/-- A separator that is kept splits the encoded text as it splits the text. -/
theorem splitOn_encodeBy {c : Char} (hkeep : keep c = true) (hform : isFormChar c = false)
    (cs : List Char) : splitOn c (encodeBy keep cs) = (splitOn c cs).map (encodeBy keep) := by
  have hne : (splitOn c cs).map (encodeBy keep) ≠ [] := by
    rw [Ne, List.map_eq_nil_iff]
    exact splitOn_ne_nil c cs
  rw [← splitOn_joinOn hne, ← encodeBy_joinOn hkeep, joinOn_splitOn]
  intro part hpart hc
  obtain ⟨p, hp, rfl⟩ := List.mem_map.1 hpart
  rcases mem_encodeBy hc with ⟨-, hmem⟩ | hchar
  · exact notMem_of_mem_splitOn hp hmem
  · rw [hform] at hchar
    exact absurd hchar (by simp)

/-! ## ASCII -/

/-- What holds of all ASCII characters holds of a character in ASCII. -/
theorem forall_ascii {p : Char → Prop} (h : ∀ n < 128, p (Char.ofNat n)) {c : Char}
    (hc : c.toNat < 128) : p c := by
  have hp := h c.toNat hc
  rwa [Char.ofNat_toNat] at hp

theorem toNat_lt_of_isFormChar {c : Char} (h : isFormChar c = true) : c.toNat < 128 := by
  simp only [isFormChar, Char.isDigit, Bool.or_eq_true, decide_eq_true_eq, Bool.and_eq_true] at h
  have hle {k : UInt32} (hk : c.val ≤ k) : c.toNat ≤ k.toNat := UInt32.le_iff_toNat_le.1 hk
  rcases h with (rfl | ⟨-, hdigit⟩) | ⟨-, hletter⟩
  · decide
  · exact Nat.lt_of_le_of_lt (hle hdigit) (by decide)
  · exact Nat.lt_of_le_of_lt (hle (Char.le_def.1 hletter)) (by decide)

theorem toNat_lt_of_isUnreserved {c : Char} (h : isUnreserved c = true) : c.toNat < 128 := by
  simp only [isUnreserved, Char.isAlphanum, Char.isAlpha, Char.isUpper, Char.isLower, Char.isDigit,
    Bool.or_eq_true, Bool.and_eq_true, decide_eq_true_eq] at h
  have hle {k : UInt32} (hk : c.val ≤ k) : c.toNat ≤ k.toNat := UInt32.le_iff_toNat_le.1 hk
  rcases h with (((((⟨-, h⟩ | ⟨-, h⟩) | ⟨-, h⟩) | rfl) | rfl) | rfl) | rfl
  · exact Nat.lt_of_le_of_lt (hle h) (by decide)
  · exact Nat.lt_of_le_of_lt (hle h) (by decide)
  · exact Nat.lt_of_le_of_lt (hle h) (by decide)
  all_goals decide

end SearchClient.Text.Percent
