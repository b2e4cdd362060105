import Mathlib
import SearchClient.Text.Utf8

set_option autoImplicit false

/-! # Octets read back as characters

The octets of a text are read as that text, both by `Utf8.decode` and by `Utf8.decodeLeniently`: the
first octet of a character announces exactly the octets behind it, and the character's number is
put together again from their bits. The four lemmas on `attempt` are the four lengths of a
character. -/

namespace SearchClient.Text.Utf8

variable {n : Nat} (surrogates : Bool) (rest : List UInt8)

/-! ## Single octets -/

theorem toNat_octet {high n : Nat} (h : high + n < 256) : (octet high n).toNat = high + n := by
  simp only [octet, UInt8.toNat_ofNat']
  omega

theorem charOf_toNat (c : Char) : charOf c.toNat = c := by
  have hvalid : c.toNat.isValidChar := c.valid
  simp only [charOf, if_pos hvalid, Char.ofNat_toNat]

/-- An octet in the range asked for adds its six bits. -/
theorem continued_octet {seen bits left least greatest m : Nat} (hm : m < 64)
    (hleast : least ≤ 0x80 + m) (hgreatest : 0x80 + m ≤ greatest) :
    continued seen bits (left + 1) least greatest (octet 0x80 m :: rest)
      = continued (seen + 1) (bits * 64 + m) left 0x80 0xBF rest := by
  have hb : (octet 0x80 m).toNat = 0x80 + m := toNat_octet (by omega)
  rw [continued, hb, if_pos (by simp [hleast, hgreatest]), Nat.add_sub_cancel_left]

/-! ## The lengths of a character -/

theorem attempt_one (h : n < 0x80) :
    attempt surrogates (octet 0 n) rest = .char (charOf n) 1 := by
  have hb : (octet 0 n).toNat = n := by
    rw [toNat_octet (by omega), Nat.zero_add]
  simp only [attempt, hb, lead?, if_pos h, continued]

theorem attempt_two (h : 0x80 ≤ n) (h' : n < 0x800) :
    attempt surrogates (octet 0xC0 (n / 64)) (octet 0x80 (n % 64) :: rest)
      = .char (charOf n) 2 := by
  have hb : (octet 0xC0 (n / 64)).toNat = 0xC0 + n / 64 := toNat_octet (by omega)
  have hlead : lead? surrogates (0xC0 + n / 64) = some ⟨1, 0x80, 0xBF, n / 64⟩ := by
    unfold lead?
    rw [if_neg (by omega), if_neg (by omega), if_pos (by omega), Nat.add_sub_cancel_left]
  simp only [attempt, hb, hlead]
  rw [continued_octet rest (by omega) (by omega) (by omega), continued,
    show n / 64 * 64 + n % 64 = n by omega]

theorem attempt_three (h : 0x800 ≤ n) (h' : n < 0x10000) (hvalid : n.isValidChar) :
    attempt surrogates (octet 0xE0 (n / 4096))
      (octet 0x80 (n / 64 % 64) :: octet 0x80 (n % 64) :: rest) = .char (charOf n) 3 := by
  have hb : (octet 0xE0 (n / 4096)).toNat = 0xE0 + n / 4096 := toNat_octet (by omega)
  simp only [attempt, hb]
  unfold lead?
  rw [if_neg (by omega), if_neg (by omega), if_neg (by omega), if_pos (by omega)]
  -- the second octet is bounded more tightly after `0xE0` and, without surrogates, after `0xED`
  have hleast : (if 0xE0 + n / 4096 = 0xE0 then 0xA0 else 0x80) ≤ 0x80 + n / 64 % 64 := by
    split <;> omega
  have hgreatest : 0x80 + n / 64 % 64
      ≤ if (0xE0 + n / 4096 = 0xED && !surrogates) = true then 0x9F else 0xBF := by
    split
    · next hed =>
      simp only [Bool.and_eq_true, decide_eq_true_eq] at hed
      rcases hvalid with hlow | hhigh
      · omega
      · omega
    · omega
  simp only []
  rw [continued_octet _ (by omega) hleast hgreatest,
    continued_octet _ (by omega) (by omega) (by omega), continued]
  congr 2
  omega

theorem attempt_four (h : 0x10000 ≤ n) (hvalid : n.isValidChar) :
    attempt surrogates (octet 0xF0 (n / 262144))
      (octet 0x80 (n / 4096 % 64) :: octet 0x80 (n / 64 % 64) :: octet 0x80 (n % 64) :: rest)
      = .char (charOf n) 4 := by
  have hn : n < 0x110000 := by
    rcases hvalid with hlow | hhigh
    · omega
    · exact hhigh.2
  have hb : (octet 0xF0 (n / 262144)).toNat = 0xF0 + n / 262144 := toNat_octet (by omega)
  simp only [attempt, hb]
  unfold lead?
  rw [if_neg (by omega), if_neg (by omega), if_neg (by omega), if_neg (by omega),
    if_pos (by omega)]
  have hleast : (if 0xF0 + n / 262144 = 0xF0 then 0x90 else 0x80) ≤ 0x80 + n / 4096 % 64 := by
    split <;> omega
  have hgreatest : 0x80 + n / 4096 % 64 ≤ if 0xF0 + n / 262144 = 0xF4 then 0x8F else 0xBF := by
    split <;> omega
  simp only []
  rw [continued_octet _ (by omega) hleast hgreatest,
    continued_octet _ (by omega) (by omega) (by omega),
    continued_octet _ (by omega) (by omega) (by omega), continued]
  congr 2
  omega

/-- The octets of a character are read as the character, whatever follows them. -/
theorem step_encodeChar (c : Char) :
    ∃ b bs, encodeChar c = b :: bs ∧ step surrogates b (bs ++ rest) = .char c (bs.length + 1) := by
  have hvalid : c.toNat.isValidChar := c.valid
  have hattempt : ∃ b bs, encodeChar c = b :: bs ∧
      attempt surrogates b (bs ++ rest) = .char (charOf c.toNat) (bs.length + 1) := by
    simp only [encodeChar]
    split_ifs with h1 h2 h3
    · exact ⟨_, _, rfl, attempt_one surrogates rest h1⟩
    · exact ⟨_, _, rfl, attempt_two surrogates rest (by omega) h2⟩
    · exact ⟨_, _, rfl, attempt_three surrogates rest (by omega) h3 hvalid⟩
    · exact ⟨_, _, rfl, attempt_four surrogates rest (by omega) hvalid⟩
  obtain ⟨b, bs, hc, ha⟩ := hattempt
  rw [charOf_toNat] at ha
  exact ⟨b, bs, hc, by simp only [step, ha]⟩

/-! ## Texts -/

theorem decodeFrom_skip (start : Nat) (bs rest : List UInt8) :
    decodeFrom surrogates start bs.length (bs ++ rest)
      = decodeFrom surrogates (start + bs.length) 0 rest := by
  induction bs generalizing start with
  | nil => rfl
  | cons b bs ih =>
      rw [List.length_cons, List.cons_append, decodeFrom, ih]
      congr 1
      omega

theorem replaceFrom_skip (bs rest : List UInt8) :
    replaceFrom bs.length (bs ++ rest) = replaceFrom 0 rest := by
  induction bs with
  | nil => rfl
  | cons b bs ih => rw [List.length_cons, List.cons_append, replaceFrom, ih]

theorem encode_cons (c : Char) (cs : List Char) : encode (c :: cs) = encodeChar c ++ encode cs :=
  List.flatMap_cons

theorem decodeFrom_encode (start : Nat) (cs : List Char) :
    decodeFrom surrogates start 0 (encode cs) = .ok cs := by
  induction cs generalizing start with
  | nil => rfl
  | cons c cs ih =>
      obtain ⟨b, bs, hc, hstep⟩ := step_encodeChar surrogates (encode cs) c
      rw [encode_cons, hc, List.cons_append, decodeFrom, hstep]
      simp only [Nat.add_sub_cancel]
      rw [decodeFrom_skip, ih]
      rfl

/-- **The octets of a text decode to it.** -/
theorem decode_encode (cs : List Char) : decode (encode cs) = .ok cs :=
  decodeFrom_encode false 0 cs

/-- The octets of a text need no replacement character. -/
theorem decodeLeniently_encode (cs : List Char) : decodeLeniently (encode cs) = cs := by
  unfold decodeLeniently
  induction cs with
  | nil => rfl
  | cons c cs ih =>
      obtain ⟨b, bs, hc, hstep⟩ := step_encodeChar false (encode cs) c
      rw [encode_cons, hc, List.cons_append, replaceFrom, hstep]
      simp only [Nat.add_sub_cancel]
      rw [replaceFrom_skip, ih]

end SearchClient.Text.Utf8
