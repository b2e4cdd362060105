import Mathlib
import SearchClient.Decimal.Literal
import SearchClient.Proofs.Nearest
import SearchClient.Proofs.NumberText

set_option autoImplicit false

/-! # The grammar of number literals

`IsInt` and `IsFloat` say which texts are literals, and of which number: a sign, digits of any script
with single underscores between them, a point, an exponent, and blanks around all of it. The readers
work on a text in ASCII without underscores; `Plain` relates the two, and what a plain text is made of
lifts to the literal (`Plain.of_cons`, `Plain.of_append`). -/

namespace SearchClient.Literal

open Decimal (asciiDigit? digitChar IsRun splitSign)
open Text (digitValue? isSpace)

/-! ## The grammar -/

/-- Digits of any script, with at most one underscore between any two, and their values. -/
inductive DigitPart : List Char → List Nat → Prop where
  | last {c : Char} {d : Nat} (hd : digitValue? c = some d) : DigitPart [c] [d]
  | next {c : Char} {d : Nat} {cs : List Char} {ds : List Nat} (hd : digitValue? c = some d)
      (hrest : DigitPart cs ds) : DigitPart (c :: cs) (d :: ds)
  | spaced {c : Char} {d : Nat} {cs : List Char} {ds : List Nat} (hd : digitValue? c = some d)
      (hrest : DigitPart cs ds) : DigitPart (c :: '_' :: cs) (d :: ds)

/-- A sign, which may be missing; `true` is a minus sign. -/
inductive SignPart : List Char → Bool → Prop where
  | missing : SignPart [] false
  | plus : SignPart ['+'] false
  | minus : SignPart ['-'] true

/-- A number of a sign. -/
def signed (negative : Bool) (n : Nat) : Int :=
  if negative then -n else n

/-- Digits before and behind a point, not both of them missing, and their values. Without digits
    behind it the point may be missing as well. -/
inductive MantissaPart : List Char → List Nat → List Nat → Prop where
  | whole {cs : List Char} {ds : List Nat} (hwhole : DigitPart cs ds) : MantissaPart cs ds []
  | pointed {cs : List Char} {ds : List Nat} (hwhole : DigitPart cs ds) :
      MantissaPart (cs ++ ['.']) ds []
  | fraction {fs : List Char} {es : List Nat} (hfraction : DigitPart fs es) :
      MantissaPart ('.' :: fs) [] es
  | both {cs fs : List Char} {ds es : List Nat} (hwhole : DigitPart cs ds)
      (hfraction : DigitPart fs es) : MantissaPart (cs ++ '.' :: fs) ds es

/-- The exponent, which may be missing. -/
inductive ExponentPart : List Char → Int → Prop where
  | missing : ExponentPart [] 0
  | marked {mark : Char} {sign cs : List Char} {negative : Bool} {ds : List Nat}
      (hmark : mark = 'e' ∨ mark = 'E') (hsign : SignPart sign negative) (hdigits : DigitPart cs ds) :
      ExponentPart (mark :: (sign ++ cs)) (signed negative (Decimal.value ds))

/-- An integer literal without blanks. More digits than the limit are not read as an integer. -/
inductive IntLiteral : List Char → Int → Prop where
  | digits {sign cs : List Char} {negative : Bool} {ds : List Nat} (hsign : SignPart sign negative)
      (hdigits : DigitPart cs ds) (hlimit : ds.length ≤ Decimal.digitLimit) :
      IntLiteral (sign ++ cs) (signed negative (Decimal.value ds))

/-- A floating point literal without blanks: a number is the one nearest to what is written. -/
inductive FloatLiteral : List Char → Binary64 → Prop where
  | infinite {sign cs : List Char} {negative : Bool} (hsign : SignPart sign negative)
      (hname : cs.map Char.toLower = "inf".toList ∨ cs.map Char.toLower = "infinity".toList) :
      FloatLiteral (sign ++ cs) (.infinite negative)
  | nan {sign cs : List Char} {negative : Bool} (hsign : SignPart sign negative)
      (hname : cs.map Char.toLower = "nan".toList) : FloatLiteral (sign ++ cs) .nan
  | number {sign cs es : List Char} {negative : Bool} {ds fs : List Nat} {e : Int} {x : Binary64}
      (hsign : SignPart sign negative) (hmantissa : MantissaPart cs ds fs)
      (hexponent : ExponentPart es e)
      (hx : x.Rounds negative (Decimal.value (ds ++ fs) * 10 ^ (e - fs.length))) :
      FloatLiteral (sign ++ (cs ++ es)) x

/-- A text is a part with blanks around it, if any. -/
def BlanksAround (core cs : List Char) : Prop :=
  ∃ before after, cs = before ++ core ++ after ∧ (∀ c ∈ before, isSpace c = true) ∧
    ∀ c ∈ after, isSpace c = true

/-- A text is a literal of an integer. -/
def IsInt (s : String) (n : Int) : Prop :=
  ∃ core, BlanksAround core s.toList ∧ IntLiteral core n

/-- A text is a literal of a floating point number. -/
def IsFloat (s : String) (x : Binary64) : Prop :=
  ∃ core, BlanksAround core s.toList ∧ FloatLiteral core x

/-! ## Characters -/

/-- The runs of digits lie apart from the blanks and from the letters of ASCII. -/
theorem digitZeros_ranges : ∀ z ∈ Text.digitZeros, z = 0x30 ∨ 0x660 ≤ z ∧ z + 10 ≤ 0x1680 ∨
    0x17E0 ≤ z ∧ z + 10 ≤ 0x2000 ∨ 0x3001 ≤ z := by
  decide

theorem digitValue?_spec {c : Char} {d : Nat} (h : digitValue? c = some d) :
    ∃ z ∈ Text.digitZeros, c.toNat = z + d ∧ d < 10 := by
  rw [digitValue?, Option.map_eq_some_iff] at h
  obtain ⟨z, hfind, rfl⟩ := h
  have hrange := List.find?_some hfind
  simp only [Bool.and_eq_true, decide_eq_true_eq] at hrange
  exact ⟨z, List.mem_of_find?_eq_some hfind, by omega, by omega⟩

theorem isSpace_of_digit {c : Char} {d : Nat} (h : digitValue? c = some d) : isSpace c = false := by
  obtain ⟨z, hz, hc, hd⟩ := digitValue?_spec h
  have hrange := digitZeros_ranges z hz
  simp only [isSpace, Bool.or_eq_false_iff, Bool.and_eq_false_iff, decide_eq_false_iff_not]
  omega

theorem digitValue?_of_asciiDigit? {c : Char} {d : Nat} (h : asciiDigit? c = some d) :
    digitValue? c = some d := by
  unfold asciiDigit? at h
  split at h
  · next hrange =>
    have hlow : 0x30 ≤ c.toNat := hrange.1
    have hhigh : c.toNat ≤ 0x39 := hrange.2
    have hfind : Text.digitZeros.find? (fun z => z ≤ c.toNat && c.toNat < z + 10) = some 0x30 :=
      List.find?_cons_of_pos (by simp; omega)
    rw [digitValue?, hfind, ← h]
    rfl
  · exact nomatch h

/-- The character in ASCII: a digit of any script is the digit there. -/
def toAscii (c : Char) : Char :=
  match digitValue? c with
  | some d => digitChar d
  | none => c

theorem toAscii_of_digit {c : Char} {d : Nat} (h : digitValue? c = some d) :
    toAscii c = digitChar d := by
  rw [toAscii, h]

theorem toAscii_of_none {c : Char} (h : digitValue? c = none) : toAscii c = c := by
  rw [toAscii, h]

theorem asciiDigit?_of_none {c : Char} (h : digitValue? c = none) : asciiDigit? c = none := by
  rw [Option.eq_none_iff_forall_ne_some]
  intro d hd
  rw [digitValue?_of_asciiDigit? hd] at h
  exact nomatch h

theorem asciiDigit?_toAscii (c : Char) : asciiDigit? (toAscii c) = digitValue? c := by
  cases h : digitValue? c with
  | none => rw [toAscii_of_none h, asciiDigit?_of_none h]
  | some d =>
    obtain ⟨-, -, -, hd⟩ := digitValue?_spec h
    rw [toAscii_of_digit h, Decimal.asciiDigit?_digitChar hd]

theorem eq_of_toAscii {c e : Char} (h : toAscii c = e) (he : asciiDigit? e = none) : c = e := by
  have hc : digitValue? c = none := by rw [← asciiDigit?_toAscii, h, he]
  rwa [toAscii_of_none hc] at h

theorem isMargin_eq : isMargin = isSpace := by
  funext c
  rw [Bool.eq_iff_iff]
  simp only [isMargin, Text.isBlank, isSpace, Bool.or_eq_true, Bool.and_eq_true,
    Bool.not_eq_true', Bool.and_eq_false_iff, decide_eq_true_eq, decide_eq_false_iff_not]
  omega

theorem normalize_eq (cs : List Char) :
    normalize cs = (Text.trimBy isSpace cs).map toAscii := by
  rw [normalize, isMargin_eq]
  rfl

/-! ## Plain texts -/

/-- A text and the plain text that is read: digits in ASCII, without the underscores that stand between
    digits. -/
inductive Plain : List Char → List Char → Prop where
  | nil : Plain [] []
  | digit {c : Char} {d : Nat} {cs ds : List Char} (hd : digitValue? c = some d)
      (hrest : Plain cs ds) : Plain (c :: cs) (digitChar d :: ds)
  | spaced {c b : Char} {d e : Nat} {cs ds : List Char} (hd : digitValue? c = some d)
      (he : digitValue? b = some e) (hrest : Plain (b :: cs) ds) :
      Plain (c :: '_' :: b :: cs) (digitChar d :: ds)
  | other {c : Char} {cs ds : List Char} (hc : digitValue? c = none) (hne : c ≠ '_')
      (hrest : Plain cs ds) : Plain (c :: cs) (c :: ds)

theorem dropUnderscores_cons {c : Char} (hc : c ≠ '_') {cs ds : List Char}
    (h : dropUnderscores cs = some ds) : dropUnderscores (c :: cs) = some (c :: ds) := by
  cases cs with
  | nil =>
    obtain rfl := Option.some.inj h
    simp [dropUnderscores]
  | cons d cs =>
    have hd : d ≠ '_' := by
      rintro rfl
      cases cs <;> simp [dropUnderscores] at h
    simp [dropUnderscores, hd, h]

theorem plain_cons {c : Char} {cs ds : List Char} (hc : toAscii c ≠ '_') (h : Plain cs ds) :
    Plain (c :: cs) (toAscii c :: ds) := by
  cases hd : digitValue? c with
  | none =>
    rw [toAscii_of_none hd] at hc ⊢
    exact .other hd hc h
  | some d =>
    rw [toAscii_of_digit hd]
    exact .digit hd h

theorem plain_of_dropUnderscores {cs ds : List Char}
    (h : dropUnderscores (cs.map toAscii) = some ds) : Plain cs ds := by
  generalize hus : cs.map toAscii = us at h
  fun_induction dropUnderscores us generalizing cs ds with
  | case1 =>
    obtain rfl := List.map_eq_nil_iff.1 hus
    obtain rfl := Option.some.inj h
    exact .nil
  | case2 | case3 | case6 => exact nomatch h
  | case4 u hu =>
    obtain ⟨c, rfl, rfl⟩ := List.map_eq_singleton_iff.1 hus
    obtain rfl := Option.some.inj h
    exact plain_cons hu .nil
  | case5 u v us hu hdigits ih =>
    obtain ⟨es, hes, rfl⟩ := Option.map_eq_some_iff.1 h
    obtain ⟨c, _, rfl, rfl, hspaced⟩ := List.map_eq_cons_iff.1 hus
    obtain ⟨underscore, _, rfl, hunderscore, hmore⟩ := List.map_eq_cons_iff.1 hspaced
    obtain ⟨b, cs, rfl, rfl, hrest⟩ := List.map_eq_cons_iff.1 hmore
    obtain rfl := eq_of_toAscii hunderscore rfl
    rw [asciiDigit?_toAscii, asciiDigit?_toAscii, Bool.and_eq_true, Option.isSome_iff_exists,
      Option.isSome_iff_exists] at hdigits
    obtain ⟨⟨d, hd⟩, e, he⟩ := hdigits
    rw [toAscii_of_digit hd]
    exact .spaced hd he (ih hmore hes)
  | case7 u v us hu hnext ih =>
    obtain ⟨es, hes, rfl⟩ := Option.map_eq_some_iff.1 h
    obtain ⟨c, _, rfl, rfl, hrest⟩ := List.map_eq_cons_iff.1 hus
    exact plain_cons hu (ih hrest hes)

theorem digitChar_ne_underscore {c : Char} {d : Nat} (h : digitValue? c = some d) :
    digitChar d ≠ '_' := by
  intro heq
  obtain ⟨-, -, -, hd⟩ := digitValue?_spec h
  have hread := Decimal.asciiDigit?_digitChar hd
  rw [heq] at hread
  exact nomatch hread

theorem dropUnderscores_of_plain {cs ds : List Char} (h : Plain cs ds) :
    dropUnderscores (cs.map toAscii) = some ds := by
  induction h with
  | nil => rfl
  | digit hd _ ih =>
      rw [List.map_cons, toAscii_of_digit hd]
      exact dropUnderscores_cons (digitChar_ne_underscore hd) ih
  | @spaced c b d e cs ds hd he _ ih =>
      have hdigits : (asciiDigit? (toAscii c)).isSome && (asciiDigit? (toAscii b)).isSome := by
        rw [asciiDigit?_toAscii, asciiDigit?_toAscii, hd, he]
        rfl
      have hne : toAscii c ≠ '_' := by
        rw [toAscii_of_digit hd]
        exact digitChar_ne_underscore hd
      rw [List.map_cons] at ih
      have hunderscore : toAscii '_' = '_' := rfl
      rw [List.map_cons, List.map_cons, List.map_cons, hunderscore, dropUnderscores,
        if_pos hdigits, ih, toAscii_of_digit hd]
      · rfl
      · exact hne
  | other hc hne _ ih =>
      rw [List.map_cons, toAscii_of_none hc]
      exact dropUnderscores_cons hne ih

/-- **Underscores are dropped** exactly from texts that have a plain text. -/
theorem dropUnderscores_map_eq_some_iff {cs ds : List Char} :
    dropUnderscores (cs.map toAscii) = some ds ↔ Plain cs ds :=
  ⟨plain_of_dropUnderscores, dropUnderscores_of_plain⟩

/-! ## Parts of plain texts -/

theorem Plain.eq_nil {cs : List Char} (h : Plain cs []) : cs = [] := by
  cases h
  rfl

theorem Plain.append {cs ds es fs : List Char} (h : Plain cs ds) (h' : Plain es fs) :
    Plain (cs ++ es) (ds ++ fs) := by
  induction h with
  | nil => exact h'
  | digit hd _ ih => exact .digit hd ih
  | spaced hd he _ ih => exact .spaced hd he ih
  | other hc hne _ ih => exact .other hc hne ih

/-- Characters that are no digits and no underscores are plain. -/
theorem plain_self {cs : List Char} (h : ∀ c ∈ cs, digitValue? c = none ∧ c ≠ '_') : Plain cs cs := by
  induction cs with
  | nil => exact .nil
  | cons c cs ih =>
      obtain ⟨⟨hc, hne⟩, hcs⟩ := List.forall_mem_cons.1 h
      exact .other hc hne (ih hcs)

/-- A character that is no digit stands for itself. -/
theorem Plain.of_cons {c : Char} (hc : asciiDigit? c = none) {cs ds : List Char}
    (h : Plain cs (c :: ds)) : ∃ es, cs = c :: es ∧ Plain es ds := by
  have hdigit : ∀ {b : Char} {d : Nat}, digitValue? b = some d → digitChar d ≠ c := by
    rintro b d hb rfl
    obtain ⟨-, -, -, hd⟩ := digitValue?_spec hb
    rw [Decimal.asciiDigit?_digitChar hd] at hc
    exact nomatch hc
  generalize hds : c :: ds = us at h
  cases h with
  | nil => exact nomatch hds
  | digit hd _ => exact absurd (List.cons.inj hds).1.symm (hdigit hd)
  | spaced hd _ _ => exact absurd (List.cons.inj hds).1.symm (hdigit hd)
  | other _ _ hrest =>
    obtain ⟨rfl, rfl⟩ := List.cons.inj hds
    exact ⟨_, rfl, hrest⟩

theorem Plain.head?_of_digit {b : Char} {e : Nat} {cs ds : List Char} (h : Plain (b :: cs) ds)
    (he : digitValue? b = some e) : ds.head? = some (digitChar e) := by
  cases h with
  | digit hd _ | spaced hd _ _ =>
    rw [he] at hd
    rw [Option.some.inj hd]
    rfl
  | other hc _ _ =>
    rw [he] at hc
    exact nomatch hc

theorem Plain.eq_of_no_digit {cs ds : List Char} (hds : ∀ c ∈ ds, asciiDigit? c = none)
    (h : Plain cs ds) : cs = ds := by
  induction ds generalizing cs with
  | nil => exact h.eq_nil
  | cons c ds ih =>
      obtain ⟨hc, hrest⟩ := List.forall_mem_cons.1 hds
      obtain ⟨es, rfl, hes⟩ := h.of_cons hc
      rw [ih hrest hes]

/-- A run of digits that ends is one of its own. -/
theorem Plain.of_append {cs ds es : List Char} (hds : IsRun ds) (hes : Json.EndsRun es)
    (h : Plain cs (ds ++ es)) : ∃ front back, cs = front ++ back ∧ Plain front ds ∧ Plain back es := by
  induction ds generalizing cs with
  | nil => exact ⟨[], cs, rfl, .nil, h⟩
  | cons c ds ih =>
      obtain ⟨hc, hrest⟩ := List.forall_mem_cons.1 hds
      generalize hus : c :: ds ++ es = us at h
      cases h with
      | nil => exact nomatch hus
      | digit hd hmore =>
        obtain ⟨rfl, rfl⟩ := List.cons.inj hus
        obtain ⟨front, back, rfl, hfront, hback⟩ := ih hrest hmore
        exact ⟨_ :: front, back, rfl, .digit hd hfront, hback⟩
      | @spaced c' b d e cs ds' hd he hmore =>
        obtain ⟨rfl, rfl⟩ := List.cons.inj hus
        obtain ⟨front, back, hcs, hfront, hback⟩ := ih hrest hmore
        cases front with
        | nil =>
          -- the digit behind the underscore would be the first character behind the run
          obtain rfl : back = b :: cs := hcs.symm
          have hfirst := hes _ (hback.head?_of_digit he)
          obtain ⟨-, -, -, hlt⟩ := digitValue?_spec he
          rw [Decimal.asciiDigit?_digitChar hlt] at hfirst
          exact nomatch hfirst
        | cons b' front =>
          obtain ⟨rfl, rfl⟩ := List.cons.inj hcs
          exact ⟨_ :: '_' :: b :: front, back, rfl, .spaced hd he hfront, hback⟩
      | other hnone _ _ =>
        obtain ⟨rfl, -⟩ := List.cons.inj hus
        rw [asciiDigit?_of_none hnone] at hc
        exact nomatch hc

/-! ## Runs of digits -/

theorem mapM_asciiDigit?_eq_some_iff {cs : List Char} {ds : List Nat} :
    cs.mapM asciiDigit? = some ds ↔ IsRun cs ∧ ds = cs.filterMap asciiDigit? := by
  induction cs generalizing ds with
  | nil =>
      rw [List.mapM_nil, List.filterMap_nil]
      exact ⟨fun h => ⟨List.forall_mem_nil _, (Option.some.inj h).symm⟩, fun h => h.2 ▸ rfl⟩
  | cons c cs ih =>
      rw [List.mapM_cons, IsRun, List.forall_mem_cons, List.filterMap_cons]
      cases asciiDigit? c with
      | none => simp
      | some d =>
        cases hread : cs.mapM asciiDigit? with
        | none =>
          refine iff_of_false (by simp) ?_
          rintro ⟨⟨-, hcs⟩, -⟩
          rw [ih.2 ⟨hcs, rfl⟩] at hread
          exact nomatch hread
        | some es =>
          obtain ⟨hcs, rfl⟩ := ih.1 hread
          constructor
          · exact fun h => ⟨⟨rfl, hcs⟩, (Option.some.inj h).symm⟩
          · exact fun h => congrArg some h.2.symm

theorem digits?_eq_some_iff {cs : List Char} {ds : List Nat} :
    digits? cs = some ds ↔ cs ≠ [] ∧ IsRun cs ∧ ds = cs.filterMap asciiDigit? := by
  cases cs with
  | nil => exact iff_of_false nofun fun h => h.1 rfl
  | cons c cs =>
    rw [digits?, mapM_asciiDigit?_eq_some_iff, and_iff_right (List.cons_ne_nil c cs)]
    exact List.cons_ne_nil c cs

theorem DigitPart.exists_plain {cs : List Char} {ds : List Nat} (h : DigitPart cs ds) :
    ∃ vs, Plain cs vs ∧ vs ≠ [] ∧ IsRun vs ∧ ds = vs.filterMap asciiDigit? := by
  have hrun : ∀ {c : Char} {d : Nat} {vs : List Char} {ds : List Nat}, digitValue? c = some d →
      IsRun vs → ds = vs.filterMap asciiDigit? → IsRun (digitChar d :: vs) ∧
        d :: ds = (digitChar d :: vs).filterMap asciiDigit? := by
    rintro c d vs _ hd hvs rfl
    obtain ⟨-, -, -, hlt⟩ := digitValue?_spec hd
    have hread := Decimal.asciiDigit?_digitChar hlt
    exact ⟨List.forall_mem_cons.2 ⟨Option.isSome_of_eq_some hread, hvs⟩,
      by rw [List.filterMap_cons, hread]⟩
  induction h with
  | last hd =>
      obtain ⟨hone, hvalue⟩ := hrun hd (List.forall_mem_nil _) rfl
      exact ⟨_, .digit hd .nil, List.cons_ne_nil _ _, hone, hvalue⟩
  | next hd _ ih =>
      obtain ⟨vs, hplain, -, hvs, hds⟩ := ih
      obtain ⟨hmore, hvalue⟩ := hrun hd hvs hds
      exact ⟨_, .digit hd hplain, List.cons_ne_nil _ _, hmore, hvalue⟩
  | spaced hd hrest ih =>
      obtain ⟨vs, hplain, -, hvs, hds⟩ := ih
      obtain ⟨hmore, hvalue⟩ := hrun hd hvs hds
      refine ⟨_, ?_, List.cons_ne_nil _ _, hmore, hvalue⟩
      cases hrest with
      | last he | next he _ | spaced he _ => exact .spaced hd he hplain

theorem digitPart_of_plain {cs vs : List Char} (h : Plain cs vs) (hne : vs ≠ [])
    (hvs : IsRun vs) : DigitPart cs (vs.filterMap asciiDigit?) := by
  induction h with
  | nil => exact absurd rfl hne
  | @digit c d cs vs hd hrest ih =>
      obtain ⟨-, -, -, hlt⟩ := digitValue?_spec hd
      rw [List.filterMap_cons, Decimal.asciiDigit?_digitChar hlt]
      cases vs with
      | nil =>
        rw [hrest.eq_nil]
        exact .last hd
      | cons v vs => exact .next hd (ih (List.cons_ne_nil v vs) (List.forall_mem_cons.1 hvs).2)
  | @spaced c b d e cs vs hd he hrest ih =>
      obtain ⟨-, -, -, hlt⟩ := digitValue?_spec hd
      rw [List.filterMap_cons, Decimal.asciiDigit?_digitChar hlt]
      refine .spaced hd (ih ?_ (List.forall_mem_cons.1 hvs).2)
      rintro rfl
      exact nomatch hrest
  | other hc _ _ =>
      have hdigit := (List.forall_mem_cons.1 hvs).1
      rw [asciiDigit?_of_none hc] at hdigit
      exact nomatch hdigit

/-! ## Signs -/

theorem SignPart.no_digit {sign : List Char} {negative : Bool} (h : SignPart sign negative) :
    ∀ c ∈ sign, digitValue? c = none ∧ c ≠ '_' := by
  cases h with
  | missing => exact List.forall_mem_nil _
  | plus | minus => exact List.forall_mem_singleton.2 ⟨rfl, by decide⟩

theorem SignPart.no_blank {sign : List Char} {negative : Bool} (h : SignPart sign negative) :
    ∀ c ∈ sign, isSpace c = false := by
  cases h with
  | missing => exact List.forall_mem_nil _
  | plus | minus => exact List.forall_mem_singleton.2 rfl

theorem SignPart.plain {sign : List Char} {negative : Bool} (h : SignPart sign negative) :
    Plain sign sign :=
  plain_self h.no_digit

theorem SignPart.of_plain {sign : List Char} {negative : Bool} (h : SignPart sign negative)
    {cs ds : List Char} (hplain : Plain cs (sign ++ ds)) : ∃ es, cs = sign ++ es ∧ Plain es ds := by
  cases h with
  | missing => exact ⟨cs, rfl, hplain⟩
  | plus => exact hplain.of_cons (show asciiDigit? '+' = none from rfl)
  | minus => exact hplain.of_cons (show asciiDigit? '-' = none from rfl)

/-- The sign is split off. -/
theorem signPart_splitSign (cs : List Char) :
    ∃ sign, SignPart sign (splitSign cs).1 ∧ cs = sign ++ (splitSign cs).2 := by
  unfold splitSign
  split
  · exact ⟨_, .minus, rfl⟩
  · exact ⟨_, .plus, rfl⟩
  · exact ⟨_, .missing, rfl⟩

theorem SignPart.splitSign_append {sign : List Char} {negative : Bool} (h : SignPart sign negative)
    {cs : List Char} (hcs : ∀ c ∈ cs.head?, c ≠ '-' ∧ c ≠ '+') :
    splitSign (sign ++ cs) = (negative, cs) := by
  cases h with
  | missing =>
    rw [List.nil_append]
    unfold splitSign
    split
    · exact absurd rfl (hcs '-' rfl).1
    · exact absurd rfl (hcs '+' rfl).2
    · rfl
  | plus | minus => rfl

theorem head?_ne_sign_of_isRun {cs : List Char} (h : IsRun cs) :
    ∀ c ∈ cs.head?, c ≠ '-' ∧ c ≠ '+' := by
  intro c hc
  have hdigit := h c (List.mem_of_mem_head? hc)
  constructor <;> (rintro rfl; exact nomatch hdigit)

/-! ## Blanks -/

theorem blanksAround_trimBy (cs : List Char) : BlanksAround (Text.trimBy isSpace cs) cs := by
  refine ⟨cs.takeWhile isSpace, ((cs.dropWhile isSpace).reverse.takeWhile isSpace).reverse, ?_,
    fun c hc => List.mem_takeWhile_imp hc, fun c hc => List.mem_takeWhile_imp (List.mem_reverse.1 hc)⟩
  rw [Text.trimBy, List.append_assoc, ← List.reverse_append, List.takeWhile_append_dropWhile,
    List.reverse_reverse, List.takeWhile_append_dropWhile]

theorem BlanksAround.trimBy_eq {core cs : List Char} (h : BlanksAround core cs)
    (hcore : ∀ c ∈ core, isSpace c = false) : Text.trimBy isSpace cs = core := by
  obtain ⟨before, after, rfl, hbefore, hafter⟩ := h
  have hkept : ∀ {ds : List Char}, (∀ c ∈ ds, isSpace c = false) → ds.dropWhile isSpace = ds := by
    intro ds hds
    cases ds with
    | nil => rfl
    | cons d ds => rw [List.dropWhile_cons_of_neg (by simp [hds d List.mem_cons_self])]
  have hreverse : ∀ c ∈ core.reverse, isSpace c = false := fun c hc => hcore c (List.mem_reverse.1 hc)
  rw [Text.trimBy, List.append_assoc, List.dropWhile_append_of_pos hbefore]
  cases core with
  | nil => rw [List.nil_append, List.dropWhile_eq_nil_iff.2 hafter]; rfl
  | cons c core =>
    rw [List.cons_append, List.dropWhile_cons_of_neg (by simp [hcore c List.mem_cons_self]),
      ← List.cons_append, List.reverse_append,
      List.dropWhile_append_of_pos fun d hd => hafter d (List.mem_reverse.1 hd), hkept hreverse,
      List.reverse_reverse]

theorem dropUnderscores_normalize_eq_some_iff {cs ds : List Char} :
    dropUnderscores (normalize cs) = some ds ↔ Plain (Text.trimBy isSpace cs) ds := by
  rw [normalize_eq, dropUnderscores_map_eq_some_iff]

end SearchClient.Literal
