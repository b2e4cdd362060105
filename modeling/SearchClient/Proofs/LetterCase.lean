import Mathlib
import SearchClient.Text.Case

set_option autoImplicit false

/-! # Names without letter case

A text in small letters has no capitals of ASCII, and only one letter beyond ASCII has a small letter
in it. So a text in small letters that differs in letter case at most from a name of ordinary letters
is that name (`eq_of_sameLetters_lower`). -/

namespace SearchClient.Text

/-- A character that only its own capital has for a small letter: in ASCII, and not the letter that
    the sign of the kelvin goes to. -/
def isOrdinary (c : Char) : Bool :=
  c.toNat < 0x80 && c ≠ 'k' && c ≠ '\x00'

/-- All capitals beyond ASCII but the sign of the kelvin go to letters beyond ASCII. -/
theorem capitalRuns_beyond : ∀ r ∈ capitalRuns,
    (r.1 = r.2.1 ∧ (r.1 : Int) + r.2.2.2 = 'k'.toNat) ∨ 0x80 ≤ (r.1 : Int) + r.2.2.2 := by
  decide +kernel

theorem isUpper_of_beyond {c : Char} (h : 0x80 ≤ c.toNat) : c.isUpper = false := by
  have hval : c.val.toNat = c.toNat := rfl
  have hlast : 'Z'.val.toNat = 90 := rfl
  simp only [Char.isUpper, UInt32.le_iff_toNat_le, decide_eq_false_iff_not, hval]
  rintro ⟨-, hle⟩
  omega

theorem isOrdinary_of_beyond {c : Char} (h : 0x80 ≤ c.toNat) : isOrdinary c = false := by
  simp [isOrdinary, not_lt.2 h]

/-- A number from 128 on is that of a character beyond ASCII, or stands for the character zero. -/
theorem ofNat_cases {n : Nat} (h : 0x80 ≤ n) :
    0x80 ≤ (Char.ofNat n).toNat ∨ Char.ofNat n = '\x00' := by
  by_cases hvalid : n.isValidChar
  · left
    rw [Char.toNat_ofNat, if_pos hvalid]
    exact h
  · right
    rw [Char.ofNat, dif_neg hvalid]
    rfl

/-- The small letters of a character: of one in ASCII the one there, else one that is not ordinary and
    no capital. -/
theorem lowerChar_cases (c : Char) :
    c.toNat < 0x80 ∧ lowerChar c = [c.toLower] ∨
      0x80 ≤ c.toNat ∧ (∃ d ∈ lowerChar c, isOrdinary d = false) ∧
        ∀ d ∈ lowerChar c, d.isUpper = false := by
  by_cases hascii : c.toNat < 0x80
  · exact Or.inl ⟨hascii, by rw [lowerChar, if_pos hascii]⟩
  · refine Or.inr ⟨not_lt.1 hascii, ?_⟩
    rw [lowerChar, if_neg hascii]
    split
    · refine ⟨⟨'\u0307', by simp, by decide⟩, fun d hd => ?_⟩
      rcases List.mem_pair.1 hd with rfl | rfl <;> decide
    · dsimp only
      split
      · next first last step distance hfind =>
        have hmem := List.mem_of_find?_eq_some hfind
        have hrange := List.find?_some hfind
        simp only [Bool.and_eq_true, decide_eq_true_eq] at hrange
        have hd : ∀ d, d = Char.ofNat ((c.toNat : Int) + distance).toNat →
            isOrdinary d = false ∧ d.isUpper = false := by
          rintro d rfl
          rcases capitalRuns_beyond _ hmem with ⟨hone, hkelvin⟩ | hbeyond
          · have hn : ((c.toNat : Int) + distance).toNat = 'k'.toNat := by
              dsimp only at hone hkelvin
              omega
            rw [hn]
            decide
          · have hn : 0x80 ≤ ((c.toNat : Int) + distance).toNat := by
              dsimp only at hbeyond
              omega
            rcases ofNat_cases hn with hchar | hzero
            · exact ⟨isOrdinary_of_beyond hchar, isUpper_of_beyond hchar⟩
            · rw [hzero]
              decide
        exact ⟨⟨_, List.mem_singleton_self _, (hd _ rfl).1⟩,
          fun d hmem => (hd d (List.mem_singleton.1 hmem)).2⟩
      · have hbeyond := not_lt.1 hascii
        exact ⟨⟨c, List.mem_singleton_self c, isOrdinary_of_beyond hbeyond⟩,
          fun d hd => List.mem_singleton.1 hd ▸ isUpper_of_beyond hbeyond⟩

/-- A text in small letters has no capitals of ASCII. -/
theorem isUpper_of_mem_lowerFrom {before cs : List Char} :
    ∀ d ∈ lowerFrom before cs, d.isUpper = false := by
  induction cs generalizing before with
  | nil => exact fun d hd => absurd hd List.not_mem_nil
  | cons c cs ih =>
      intro d hd
      rw [lowerFrom] at hd
      rcases List.mem_append.1 hd with hsmall | hrest
      · split at hsmall
        · rw [List.mem_singleton.1 hsmall]
          decide
        · rcases lowerChar_cases c with ⟨-, hlower⟩ | ⟨-, -, hupper⟩
          · rw [hlower, List.mem_singleton] at hsmall
            rw [hsmall]
            exact Char.isUpper_toLower_eq_false c
          · exact hupper d hsmall
      · exact ih d hrest

/-- A text without capitals of ASCII whose small letters are all ordinary is in small letters. -/
theorem lowerFrom_eq_self {before cs : List Char} (hupper : ∀ c ∈ cs, c.isUpper = false)
    (hordinary : (lowerFrom before cs).all isOrdinary = true) : lowerFrom before cs = cs := by
  induction cs generalizing before with
  | nil => rfl
  | cons c cs ih =>
      obtain ⟨hfirst, hrest⟩ := List.forall_mem_cons.1 hupper
      rw [lowerFrom, List.all_append, Bool.and_eq_true, List.all_eq_true] at hordinary
      obtain ⟨hsmall, hmore⟩ := hordinary
      rw [lowerFrom, ih hrest hmore]
      rcases lowerChar_cases c with ⟨hascii, hlower⟩ | ⟨hbeyond, ⟨d, hd, hnot⟩, -⟩
      · have hsigma : c ≠ '\u03a3' := by
          rintro rfl
          exact absurd hascii (by decide)
        simp only [hsigma, decide_false, Bool.false_and, Bool.false_eq_true, if_false, hlower,
          Char.toLower_eq_of_not_isUpper (Bool.not_eq_true _ ▸ hfirst), List.singleton_append]
      · split at hsmall
        · exact absurd (hsmall _ (List.mem_singleton_self _)) (by decide)
        · exact absurd (hsmall d hd) (by simp [hnot])

/-- **Names are found by their small letters.** A text in small letters that differs in letter case at
    most from a name of ordinary small letters is that name. -/
theorem eq_of_sameLetters_lower {name : String} (hname : lower name = name)
    (hordinary : name.toList.all isOrdinary = true) {cs : List Char}
    (hsmall : ∀ c ∈ cs, c.isUpper = false) (hsame : sameLetters name (String.ofList cs) = true) :
    String.ofList cs = name := by
  have hlower : lower (String.ofList cs) = name := by
    rw [← of_decide_eq_true hsame, hname]
  have hchars : lowerFrom [] cs = name.toList := by
    rw [← hlower, lower, String.toList_ofList, String.toList_ofList]
  have hkept : lowerFrom [] cs = cs := lowerFrom_eq_self hsmall (hchars ▸ hordinary)
  rw [← hkept, hchars, String.ofList_toList]

end SearchClient.Text
