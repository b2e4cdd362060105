import Mathlib
import SearchClient.Json.Writer
import SearchClient.Proofs.Json
import SearchClient.Proofs.Utf8

set_option autoImplicit false

/-! # JSON texts read back

A value that is written in one of the styles reads back as what the style makes of it (`Json.readAs`):
each part of the text opens with a visible character, and the reader stops right behind it
(`Json.Reads`), so parts can be put between brackets and commas. What was itself read from a JSON
text comes back unchanged where numbers outside the number line have names (`Json.readAs_eq_self`). -/

namespace SearchClient

namespace Text

/-! ## Units of characters -/

theorem hexValue?_hexDigit {d : Nat} (h : d < 16) : hexValue? (hexDigit d) = some d := by
  interval_cases d <;> rfl

/-- The number of a character is not the first half of a pair. -/
theorem isHighSurrogate_toNat (c : Char) : isHighSurrogate c.toNat = false := by
  have hvalid : c.toNat < 0xD800 ∨ 0xDFFF < c.toNat ∧ c.toNat < 0x110000 := c.valid
  simp only [isHighSurrogate, Bool.and_eq_false_iff, decide_eq_false_iff_not]
  omega

theorem joinPairs_toNat (c : Char) (units : List Nat) :
    joinPairs (c.toNat :: units) = c :: joinPairs units := by
  cases units with
  | nil => simp [joinPairs, Utf8.charOf_toNat]
  | cons low units =>
    rw [joinPairs, isHighSurrogate_toNat, Bool.false_and, Utf8.charOf_toNat]
    rfl

/-- A character reads from its units as from its number. -/
theorem joinPairs_units16 (c : Char) (units : List Nat) :
    joinPairs (units16 c ++ units) = c :: joinPairs units := by
  unfold units16
  by_cases hsmall : c.toNat < 0x10000
  · rw [if_pos hsmall]
    exact joinPairs_toNat c units
  · have hvalid : c.toNat < 0xD800 ∨ 0xDFFF < c.toNat ∧ c.toNat < 0x110000 := c.valid
    rw [if_neg hsmall, List.cons_append, List.singleton_append, joinPairs]
    generalize hhigh : 0xD800 + (c.toNat - 0x10000) / 0x400 = high
    generalize hlow : 0xDC00 + (c.toNat - 0x10000) % 0x400 = low
    have hpair : (isHighSurrogate high && isLowSurrogate low) = true := by
      simp only [isHighSurrogate, isLowSurrogate, Bool.and_eq_true, decide_eq_true_eq]
      omega
    have hnumber : 0x10000 + (high - 0xD800) * 0x400 + (low - 0xDC00) = c.toNat := by
      omega
    rw [if_pos hpair, pairChar, hnumber, Utf8.charOf_toNat]

theorem lt_of_mem_units16 {c : Char} {unit : Nat} (h : unit ∈ units16 c) : unit < 0x10000 := by
  have hvalid : c.toNat < 0xD800 ∨ 0xDFFF < c.toNat ∧ c.toNat < 0x110000 := c.valid
  unfold units16 at h
  dsimp only at h
  split at h
  · next hsmall => rwa [List.mem_singleton.1 h]
  · simp only [List.mem_cons, List.not_mem_nil, or_false] at h
    omega

/-! ## Halves without a partner -/

theorem standIn?_eq_none_iff {unit : Nat} :
    standIn? unit = none ↔ unit < 0xD800 ∨ 0xDFFF < unit := by
  simp only [standIn?, isHighSurrogate, isLowSurrogate, ite_eq_right_iff, reduceCtorEq, imp_false,
    Bool.or_eq_true, Bool.and_eq_true, decide_eq_true_eq]
  omega

/-- A character has no half alone. -/
theorem loneHalves_units16 (c : Char) (units : List Nat) :
    loneHalves (units16 c ++ units) = loneHalves units := by
  have hvalid : c.toNat < 0xD800 ∨ 0xDFFF < c.toNat ∧ c.toNat < 0x110000 := c.valid
  unfold units16
  by_cases hsmall : c.toNat < 0x10000
  · have hwhole : standIn? c.toNat = none := standIn?_eq_none_iff.2 (by omega)
    rw [if_pos hsmall]
    cases units with
    | nil => simp [loneHalves, hwhole]
    | cons low units => simp [loneHalves, isHighSurrogate_toNat, hwhole]
  · have hpair : (isHighSurrogate (0xD800 + (c.toNat - 0x10000) / 0x400) &&
        isLowSurrogate (0xDC00 + (c.toNat - 0x10000) % 0x400)) = true := by
      simp only [isHighSurrogate, isLowSurrogate, Bool.and_eq_true, decide_eq_true_eq]
      omega
    rw [if_neg hsmall, List.cons_append, List.singleton_append, loneHalves, if_pos hpair]

theorem units16_charOf {unit : Nat} (hsmall : unit < 0x10000) (h : standIn? unit = none) :
    units16 (charOf unit) = [unit] := by
  have hvalid : unit.isValidChar :=
    (standIn?_eq_none_iff.1 h).imp_right fun hhigh => ⟨hhigh, by omega⟩
  have hnumber : (charOf unit).toNat = unit := by
    rw [charOf, if_pos hvalid, Char.toNat_ofNat, if_pos hvalid]
  rw [units16, hnumber, if_pos hsmall]

theorem units16_pairChar {high low : Nat}
    (h : (isHighSurrogate high && isLowSurrogate low) = true) :
    units16 (pairChar high low) = [high, low] := by
  simp only [isHighSurrogate, isLowSurrogate, Bool.and_eq_true, decide_eq_true_eq] at h
  generalize hn : 0x10000 + (high - 0xD800) * 0x400 + (low - 0xDC00) = n
  have hvalid : n.isValidChar := Or.inr (by omega)
  have hnumber : (pairChar high low).toNat = n := by
    rw [pairChar, hn, charOf, if_pos hvalid, Char.toNat_ofNat, if_pos hvalid]
  have hhigh : 0xD800 + (n - 0x10000) / 0x400 = high := by omega
  have hlow : 0xDC00 + (n - 0x10000) % 0x400 = low := by omega
  rw [units16, hnumber, if_neg (by omega), hhigh, hlow]

/-- **Halves that are lost.** Units are those of a text exactly if no half among them is alone. -/
theorem loneHalves_eq_nil_iff {units : List Nat} (hunits : ∀ unit ∈ units, unit < 0x10000) :
    loneHalves units = [] ↔ (joinPairs units).flatMap units16 = units := by
  constructor
  · intro h
    induction units using joinPairs.induct with
    | case1 => rfl
    | case2 unit =>
      have hwhole : standIn? unit = none := Option.toList_eq_nil_iff.1 h
      rw [joinPairs, List.flatMap_singleton, units16_charOf (hunits _ List.mem_cons_self) hwhole]
    | case3 high low units hpair ih =>
      rw [loneHalves, if_pos hpair] at h
      obtain ⟨-, hrest⟩ := List.forall_mem_cons.1 hunits
      obtain ⟨-, hrest⟩ := List.forall_mem_cons.1 hrest
      rw [joinPairs, if_pos hpair, List.flatMap_cons, units16_pairChar hpair, ih hrest h]
      rfl
    | case4 high low units hpair ih =>
      rw [loneHalves, if_neg hpair, List.append_eq_nil_iff, Option.toList_eq_nil_iff] at h
      obtain ⟨hhigh, hrest⟩ := List.forall_mem_cons.1 hunits
      rw [joinPairs, if_neg hpair, List.flatMap_cons, units16_charOf hhigh h.1, ih hrest h.2]
      rfl
  · intro h
    have hnone (cs : List Char) : loneHalves (cs.flatMap units16) = [] := by
      induction cs with
      | nil => rfl
      | cons c cs ih => rw [List.flatMap_cons, loneHalves_units16, ih]
    rw [← h, hnone]

end Text

namespace Json

open Decimal

/-! ## Strings -/

theorem hexNumber?_hexPadded {n : Nat} (h : n < 0x10000) : ∃ a b c d,
    Text.hexPadded 4 n = [a, b, c, d] ∧ hexNumber? a b c d = some n := by
  refine ⟨_, _, _, _, rfl, ?_⟩
  have hdigit (k : Nat) : Text.hexValue? (Text.hexDigit (k % 16)) = some (k % 16) :=
    Text.hexValue?_hexDigit (Nat.mod_lt k (by decide))
  simp only [hexNumber?, hdigit]
  show some _ = some n
  congr 1
  omega

theorem readUnits_numberedEscape {n : Nat} (hn : n < 0x10000) (quote : List Char)
    {rest : List Char} (hrest : rest ≠ []) :
    readUnits quote (numberedEscape n ++ rest) = (readUnits quote rest).cons n := by
  obtain ⟨a, b, c, d, hdigits, hnumber⟩ := hexNumber?_hexPadded hn
  obtain ⟨e, rest, rfl⟩ := List.exists_cons_of_ne_nil hrest
  rw [numberedEscape, hdigits, List.cons_append, List.cons_append, List.cons_append,
    List.cons_append, List.cons_append, List.cons_append, List.nil_append, readUnits]
  simp [hnumber]

theorem readUnits_numberedEscapes {units : List Nat} (hunits : ∀ n ∈ units, n < 0x10000)
    (quote : List Char) {rest tail : List Char} (hrest : rest ≠ []) {more : List Nat}
    (h : readUnits quote rest = .ok (more, tail)) :
    readUnits quote (units.flatMap numberedEscape ++ rest) = .ok (units ++ more, tail) := by
  induction units with
  | nil => exact h
  | cons n units ih =>
      obtain ⟨hn, hunits⟩ := List.forall_mem_cons.1 hunits
      rw [List.flatMap_cons, List.append_assoc, readUnits_numberedEscape hn quote (by simp [hrest]),
        ih hunits]
      rfl

/-- A character as a string writes it reads as its number, or as its units. -/
theorem readUnits_writeChar (ascii : Bool) (c : Char) (quote : List Char) {rest tail : List Char}
    (hrest : rest ≠ []) {more : List Nat} (h : readUnits quote rest = .ok (more, tail)) :
    ∃ units, (units = [c.toNat] ∨ units = Text.units16 c) ∧
      readUnits quote (writeChar ascii c ++ rest) = .ok (units ++ more, tail) := by
  have hescape (e : Char) (he : e ≠ 'u') (hchar : escaped? e = some c) :
      readUnits quote (['\\', e] ++ rest) = .ok ([c.toNat] ++ more, tail) := by
    obtain ⟨d, rest, rfl⟩ := List.exists_cons_of_ne_nil hrest
    simp [readUnits, he, hchar, h, Reading.cons, Except.map]
  unfold writeChar
  split_ifs with hquote hlf hcr htab hback hfeed hnumbered
  · simp only [Bool.or_eq_true, decide_eq_true_eq] at hquote
    refine ⟨_, Or.inl rfl, hescape c ?_ ?_⟩
    · rcases hquote with rfl | rfl <;> decide
    · rcases hquote with rfl | rfl <;> rfl
  · subst hlf
    exact ⟨_, Or.inl rfl, hescape 'n' (by decide) rfl⟩
  · subst hcr
    exact ⟨_, Or.inl rfl, hescape 'r' (by decide) rfl⟩
  · subst htab
    exact ⟨_, Or.inl rfl, hescape 't' (by decide) rfl⟩
  · subst hback
    exact ⟨_, Or.inl rfl, hescape 'b' (by decide) rfl⟩
  · subst hfeed
    exact ⟨_, Or.inl rfl, hescape 'f' (by decide) rfl⟩
  · exact ⟨_, Or.inr rfl, readUnits_numberedEscapes (fun _ => Text.lt_of_mem_units16) quote hrest h⟩
  · -- a character that stands for itself is neither a quote nor a backslash, and no control
    refine ⟨_, Or.inl rfl, ?_⟩
    have hplain : ¬c.toNat < 0x20 := by
      simp only [Bool.or_eq_true, decide_eq_true_eq, not_or] at hnumbered
      exact hnumbered.1
    simp only [Bool.or_eq_true, decide_eq_true_eq, not_or] at hquote
    simp [readUnits, hquote.1, hquote.2, hplain, h, Reading.cons, Except.map]

/-- **Strings read back.** -/
theorem readString_writeString (style : Style) (s : String) (quote rest : List Char) :
    readString quote (s.toList.flatMap (writeChar style.ascii) ++ '"' :: rest) = .ok (s, rest) := by
  have hunits (cs : List Char) : ∃ units,
      readUnits quote (cs.flatMap (writeChar style.ascii) ++ '"' :: rest) = .ok (units, rest) ∧
        Text.joinPairs units = cs := by
    induction cs with
    | nil => exact ⟨[], by rw [List.flatMap_nil, List.nil_append, readUnits], rfl⟩
    | cons c cs ih =>
        obtain ⟨more, hmore, hjoin⟩ := ih
        have hne : cs.flatMap (writeChar style.ascii) ++ '"' :: rest ≠ [] := by simp
        obtain ⟨units, hunits, hread⟩ := readUnits_writeChar style.ascii c quote hne hmore
        refine ⟨units ++ more, by rw [List.flatMap_cons, List.append_assoc, hread], ?_⟩
        rcases hunits with rfl | rfl
        · rw [List.singleton_append, Text.joinPairs_toNat, hjoin]
        · rw [Text.joinPairs_units16, hjoin]
  obtain ⟨units, hread, hjoin⟩ := hunits s.toList
  rw [readString, hread]
  simp [Except.map, hjoin]

/-! ## What is read -/

/-- Data that can be written so that they read back: no integer has too many digits. -/
inductive Printable : Value → Prop
  | null : Printable .null
  | bool (b : Bool) : Printable (.bool b)
  | int {n : Int} (hn : Decimal.length n.natAbs ≤ digitLimit) : Printable (.int n)
  | float (x : Binary64) : Printable (.float x)
  | text (s : String) : Printable (.text s)
  | symbol (s : Symbol) : Printable (.symbol s)
  | list {items : List Value} (hitems : ∀ v ∈ items, Printable v) : Printable (.list items)
  | map {entries : Entries Value} (hentries : ∀ e ∈ entries, Printable e.2) :
      Printable (.map entries)

theorem Printable.isShort {v : Value} (h : Printable v) : v.isShort = true := by
  induction h with
  | int hn => exact decide_eq_true hn
  | list _ ih => exact Value.isShort_list_iff.2 ih
  | map _ ih => exact Value.isShort_map_iff.2 ih
  | _ => rfl

theorem content_of_printable {v : Value} (hv : Printable v) {s : String}
    (h : write? .body v = some s) : content v = .ok s := by
  simp only [content, h, hv.isShort, if_true]

mutual

/-- What a written value reads as: members of the taxonomy are texts, numbers may have no name, and
    of two members of one name the later one counts. -/
def readAs (l : Layout) : Value → Value
  | .float x => readFloat l x
  | .symbol s => .text s.wire
  | .list items => .list (readItemsAs l items)
  | .map entries => .map (Entries.ofPairs (readMembersAs l entries))
  | v => v

/-- What the written items of a list read as. -/
def readItemsAs (l : Layout) : List Value → List Value
  | [] => []
  | v :: items => readAs l v :: readItemsAs l items

/-- What the written members of a map read as. -/
def readMembersAs (l : Layout) : List (String × Value) → List (String × Value)
  | [] => []
  | (name, v) :: entries => (name, readAs l v) :: readMembersAs l entries

end

theorem readItemsAs_eq_map (l : Layout) (items : List Value) :
    readItemsAs l items = items.map (readAs l) := by
  induction items with
  | nil => rfl
  | cons v items ih => rw [readItemsAs, ih, List.map_cons]

theorem readMembersAs_eq_map (l : Layout) (entries : Entries Value) :
    readMembersAs l entries = entries.map fun e => (e.1, readAs l e.2) := by
  induction entries with
  | nil => rfl
  | cons e entries ih => rw [readMembersAs, ih, List.map_cons]

/-- **Data of a JSON text** are read as themselves where every number has a name. -/
theorem readAs_eq_self {l : Layout} (hl : l.nan ≠ "null") {v : Value} (hv : IsJson v) :
    readAs l v = v := by
  induction hv with
  | float x =>
    rw [readAs, readFloat, if_pos]
    simp [hl]
  | @list items hitems ih =>
    rw [readAs, readItemsAs_eq_map]
    exact congrArg Value.list ((List.map_congr_left ih).trans (List.map_id items))
  | @map entries hnames hentries ih =>
    have hsame : entries.map (fun e => (e.1, readAs l e.2)) = entries :=
      (List.map_congr_left fun e he => by rw [ih e he]; rfl).trans (List.map_id entries)
    rw [readAs, readMembersAs_eq_map, hsame, Entries.ofPairs_eq_self hnames]
  | _ => rfl

/-- Data of a JSON text can be written. -/
theorem closed_printable : Closed Printable where
  null := .null
  bool := .bool
  int _ := .int
  float := .float
  text := .text
  list _ := .list
  map _ _ := .map

/-- A style whose texts can be read: nothing but blanks stands beside a comma or a colon. -/
structure Style.Legible (style : Style) : Prop where
  numbers : Named style.numbers
  comma : ∃ blanks, style.comma.toList = ',' :: blanks ∧ ∀ c ∈ blanks, c = ' '
  colon : ∃ blanks, style.colon.toList = ':' :: blanks ∧ ∀ c ∈ blanks, c = ' '

theorem Style.legible_body : Style.body.Legible where
  numbers := Or.inl ⟨rfl, rfl⟩
  comma := ⟨[' '], rfl, by simp⟩
  colon := ⟨[' '], rfl, by simp⟩

theorem Style.legible_compact : Style.compact.Legible where
  numbers := Or.inr ⟨rfl, rfl⟩
  comma := ⟨[], rfl, by simp⟩
  colon := ⟨[], rfl, by simp⟩

theorem Style.legible_page : Style.page.Legible where
  numbers := Or.inl ⟨rfl, rfl⟩
  comma := ⟨[], rfl, by simp⟩
  colon := ⟨[' '], rfl, by simp⟩

/-! ## Blanks -/

/-- A visible character of ASCII. -/
def isVisible (c : Char) : Bool :=
  0x20 < c.toNat && c.toNat < 0x7F

/-- A text that starts with a visible character that closes no list. -/
def Opens (cs : List Char) : Prop :=
  ∃ c rest, cs = c :: rest ∧ isVisible c = true ∧ c ≠ ']'

theorem Opens.append {cs : List Char} (h : Opens cs) (rest : List Char) : Opens (cs ++ rest) := by
  obtain ⟨c, more, rfl, hvisible, hclose⟩ := h
  exact ⟨c, more ++ rest, rfl, hvisible, hclose⟩

theorem skipBlanks_cons {c : Char} (h : isVisible c = true) (cs : List Char) :
    skipBlanks (c :: cs) = c :: cs := by
  have hspace : c ≠ ' ' := by rintro rfl; exact absurd h (by decide)
  have hlf : c ≠ '\n' := by rintro rfl; exact absurd h (by decide)
  have htab : c ≠ '\t' := by rintro rfl; exact absurd h (by decide)
  have hcr : c ≠ '\r' := by rintro rfl; exact absurd h (by decide)
  simp [skipBlanks, hspace, hlf, htab, hcr]

theorem skipBlanks_append {blanks : List Char} (h : ∀ c ∈ blanks, c = ' ' ∨ c = '\n')
    (cs : List Char) : skipBlanks (blanks ++ cs) = skipBlanks cs := by
  refine List.dropWhile_append_of_pos fun c hc => ?_
  rcases h c hc with rfl | rfl <;> rfl

theorem blank_of_mem_newline {style : Style} {depth : Nat} :
    ∀ c ∈ newline style depth, c = ' ' ∨ c = '\n' := by
  intro c hc
  unfold newline at hc
  split at hc
  · rcases List.mem_cons.1 hc with rfl | hspace
    · exact Or.inr rfl
    · exact Or.inl (List.eq_of_mem_replicate hspace)
  · exact absurd hc List.not_mem_nil

theorem endsNumber_of_blanks {blanks : List Char} (h : ∀ c ∈ blanks, c = ' ' ∨ c = '\n') {c : Char}
    (hc : asciiDigit? c = none ∧ c ≠ '.' ∧ c ≠ 'e' ∧ c ≠ 'E') (cs : List Char) :
    EndsNumber (blanks ++ c :: cs) := by
  cases blanks with
  | nil => exact endsNumber_cons hc cs
  | cons b blanks =>
    rcases h b List.mem_cons_self with rfl | rfl
    · exact endsNumber_cons ⟨rfl, by decide, by decide, by decide⟩ _
    · exact endsNumber_cons ⟨rfl, by decide, by decide, by decide⟩ _

/-! ## Values -/

variable {style : Style}

/-- A text from which a value is read, whatever follows it. -/
structure Reads (style : Style) (v : Value) (cs : List Char) : Prop where
  opens : Opens cs
  read : ∀ fuel rest, 2 * cs.length ≤ fuel → EndsNumber rest →
    readValue fuel (cs ++ rest) = .ok (readAs style.numbers v, rest)

/-- A text from which a member is read. -/
def ReadsMember (style : Style) (e : String × Value) (cs : List Char) : Prop :=
  ∃ part, cs = writeString style e.1 ++ style.colon.toList ++ part ∧ Reads style e.2 part

/-- What stands behind the first part of a list or map, up to its end. -/
def closingText (style : Style) (depth : Nat) (closing : Char) (parts : List (List Char)) :
    List Char :=
  parts.flatMap (fun part => style.comma.toList ++ newline style (depth + 1) ++ part) ++
    (newline style depth ++ [closing])

theorem enclose_cons (depth : Nat) (opening closing : Char) (part : List Char)
    (parts : List (List Char)) : enclose style depth opening closing (part :: parts) =
      opening :: (newline style (depth + 1) ++ (part ++ closingText style depth closing parts)) := by
  simp [enclose, closingText]

/-- Behind the last part stands the end. -/
theorem closingText_nil (style : Style) (depth : Nat) (closing : Char)
    (hclosing : isVisible closing = true)
    (hend : asciiDigit? closing = none ∧ closing ≠ '.' ∧ closing ≠ 'e' ∧ closing ≠ 'E')
    (rest : List Char) : EndsNumber (closingText style depth closing [] ++ rest) ∧
      skipBlanks (closingText style depth closing [] ++ rest) = closing :: rest := by
  have htext : closingText style depth closing [] ++ rest =
      newline style depth ++ closing :: rest := by
    simp [closingText]
  rw [htext, skipBlanks_append blank_of_mem_newline, skipBlanks_cons hclosing]
  exact ⟨endsNumber_of_blanks blank_of_mem_newline hend rest, rfl⟩

/-- Behind any other part stands a comma, and behind that the next part. -/
theorem closingText_cons (hstyle : style.Legible) (depth : Nat) (closing : Char) {part : List Char}
    (hopens : Opens part) (parts : List (List Char)) (rest : List Char) :
    EndsNumber (closingText style depth closing (part :: parts) ++ rest) ∧
      (∃ more, skipBlanks (closingText style depth closing (part :: parts) ++ rest) = ',' :: more ∧
        skipBlanks more = part ++ (closingText style depth closing parts ++ rest)) ∧
      (part ++ closingText style depth closing parts).length <
        (closingText style depth closing (part :: parts)).length := by
  obtain ⟨blanks, hcomma, hblanks⟩ := hstyle.comma
  have htext : closingText style depth closing (part :: parts) ++ rest =
      ',' :: (blanks ++ (newline style (depth + 1) ++
        (part ++ (closingText style depth closing parts ++ rest)))) := by
    simp [closingText, hcomma]
  have hlength := congrArg List.length htext
  simp only [List.length_append, List.length_cons] at hlength
  obtain ⟨c, more, hmore, hvisible, -⟩ :=
    hopens.append (closingText style depth closing parts ++ rest)
  rw [htext, List.length_append]
  refine ⟨endsNumber_cons ⟨rfl, by decide, by decide, by decide⟩ _,
    ⟨_, skipBlanks_cons (by decide) _, ?_⟩, by omega⟩
  rw [skipBlanks_append fun c hc => Or.inl (hblanks c hc), skipBlanks_append blank_of_mem_newline,
    hmore, skipBlanks_cons hvisible]

theorem readItems_written (hstyle : style.Legible) (depth : Nat) {v : Value} {items : List Value}
    {part : List Char} {parts : List (List Char)} (hpart : Reads style v part)
    (hparts : List.Forall₂ (Reads style) items parts) (rest : List Char) :
    ∀ fuel, 2 * (part ++ closingText style depth ']' parts).length + 1 ≤ fuel →
      readItems fuel (part ++ (closingText style depth ']' parts ++ rest)) =
        .ok (readItemsAs style.numbers (v :: items), rest) := by
  induction hparts generalizing v part with
  | nil =>
      intro fuel hfuel
      obtain ⟨fuel, rfl⟩ := Nat.exists_eq_succ_of_ne_zero (n := fuel) (by omega)
      rw [List.length_append] at hfuel
      obtain ⟨hends, hskip⟩ := closingText_nil style depth ']' (by decide)
        ⟨rfl, by decide, by decide, by decide⟩ rest
      rw [readItems, hpart.read fuel _ (by omega) hends]
      simp only [bind, Except.bind, hskip]
      rfl
  | @cons w next items parts hnext hparts ih =>
      intro fuel hfuel
      obtain ⟨fuel, rfl⟩ := Nat.exists_eq_succ_of_ne_zero (n := fuel) (by omega)
      rw [List.length_append] at hfuel
      obtain ⟨hends, ⟨more, hskip, hmore⟩, hshorter⟩ :=
        closingText_cons hstyle depth ']' hnext.opens parts rest
      have hrest := ih hnext fuel (by omega)
      rw [readItems, hpart.read fuel _ (by omega) hends]
      simp only [bind, Except.bind, hskip, hmore, hrest]
      rfl

theorem opens_writeString (style : Style) (s : String) : Opens (writeString style s) :=
  ⟨'"', _, rfl, by decide, by decide⟩

theorem ReadsMember.opens {e : String × Value} {cs : List Char} (h : ReadsMember style e cs) :
    Opens cs := by
  obtain ⟨part, rfl, -⟩ := h
  exact ((opens_writeString style e.1).append _).append _

theorem readMemberName_written (hstyle : style.Legible) (name : String) {rest : List Char}
    (hrest : Opens rest) :
    readMemberName (writeString style name ++ style.colon.toList ++ rest) = .ok (name, rest) := by
  obtain ⟨blanks, hcolon, hblanks⟩ := hstyle.colon
  obtain ⟨c, more, rfl, hvisible, -⟩ := hrest
  have htext : writeString style name ++ style.colon.toList ++ c :: more =
      '"' :: (name.toList.flatMap (writeChar style.ascii) ++ '"' :: ':' :: (blanks ++ c :: more)) := by
    simp [writeString, hcolon]
  have hname := readString_writeString style name
    ('"' :: (name.toList.flatMap (writeChar style.ascii) ++ '"' :: ':' :: (blanks ++ c :: more)))
    (':' :: (blanks ++ c :: more))
  have hcolonRead : skipBlanks (':' :: (blanks ++ c :: more)) = ':' :: (blanks ++ c :: more) :=
    skipBlanks_cons (by decide) _
  have hvalue : skipBlanks (blanks ++ c :: more) = c :: more := by
    rw [skipBlanks_append fun d hd => Or.inl (hblanks d hd), skipBlanks_cons hvisible]
  rw [htext, readMemberName, hname]
  simp only [bind, Except.bind, hcolonRead, hvalue]

theorem readMembers_written (hstyle : style.Legible) (depth : Nat) {e : String × Value}
    {entries : List (String × Value)} {part : List Char} {parts : List (List Char)}
    (hpart : ReadsMember style e part) (hparts : List.Forall₂ (ReadsMember style) entries parts)
    (rest : List Char) :
    ∀ fuel, 2 * (part ++ closingText style depth '}' parts).length + 1 ≤ fuel →
      readMembers fuel (part ++ (closingText style depth '}' parts ++ rest)) =
        .ok (readMembersAs style.numbers (e :: entries), rest) := by
  -- behind its name and colon, a member is read like an item
  have hmember (fuel : Nat) {e : String × Value} {part more : List Char}
      (hpart : ReadsMember style e part) (hfuel : 2 * part.length ≤ fuel) (hmore : EndsNumber more) :
      ∃ text, readMemberName (part ++ more) = .ok (e.1, text) ∧
        readValue fuel text = .ok (readAs style.numbers e.2, more) := by
    obtain ⟨text, rfl, htext⟩ := hpart
    simp only [List.length_append] at hfuel
    refine ⟨text ++ more, ?_, htext.read fuel more (by omega) hmore⟩
    rw [List.append_assoc, readMemberName_written hstyle e.1 (htext.opens.append more)]
  induction hparts generalizing e part with
  | nil =>
      intro fuel hfuel
      obtain ⟨fuel, rfl⟩ := Nat.exists_eq_succ_of_ne_zero (n := fuel) (by omega)
      rw [List.length_append] at hfuel
      obtain ⟨hends, hskip⟩ := closingText_nil style depth '}' (by decide)
        ⟨rfl, by decide, by decide, by decide⟩ rest
      obtain ⟨text, hname, hvalue⟩ := hmember fuel hpart (by omega) hends
      rw [readMembers, hname]
      simp only [bind, Except.bind, hvalue, hskip]
      rfl
  | @cons w next entries parts hnext hparts ih =>
      intro fuel hfuel
      obtain ⟨fuel, rfl⟩ := Nat.exists_eq_succ_of_ne_zero (n := fuel) (by omega)
      rw [List.length_append] at hfuel
      obtain ⟨hends, ⟨more, hskip, hmore⟩, hshorter⟩ :=
        closingText_cons hstyle depth '}' hnext.opens parts rest
      have hrest := ih hnext fuel (by omega)
      obtain ⟨text, hname, hvalue⟩ := hmember fuel hpart (by omega) hends
      rw [readMembers, hname]
      simp only [bind, Except.bind, hvalue, hskip, hmore, hrest]
      rfl

/-! ## Writing -/

theorem exists_writeItems {items : List Value} {depth : Nat}
    (h : ∀ v ∈ items, ∃ cs, writeValue style depth v = some cs ∧ Reads style v cs) :
    ∃ parts, writeItems style depth items = some parts ∧
      List.Forall₂ (Reads style) items parts := by
  induction items with
  | nil => exact ⟨[], rfl, List.Forall₂.nil⟩
  | cons v items ih =>
      obtain ⟨⟨part, hpart, hreads⟩, hitems⟩ := List.forall_mem_cons.1 h
      obtain ⟨parts, hparts, hall⟩ := ih hitems
      exact ⟨part :: parts, by rw [writeItems, hpart, hparts]; rfl, List.Forall₂.cons hreads hall⟩

theorem exists_writeMembers {entries : List (String × Value)} {depth : Nat}
    (h : ∀ e ∈ entries, ∃ cs, writeValue style depth e.2 = some cs ∧ Reads style e.2 cs) :
    ∃ parts, writeMembers style depth entries = some parts ∧
      List.Forall₂ (ReadsMember style) entries parts := by
  induction entries with
  | nil => exact ⟨[], rfl, List.Forall₂.nil⟩
  | cons e entries ih =>
      obtain ⟨⟨part, hpart, hreads⟩, hentries⟩ := List.forall_mem_cons.1 h
      obtain ⟨parts, hparts, hall⟩ := ih hentries
      exact ⟨_, by rw [writeMembers, hpart, hparts]; rfl,
        List.Forall₂.cons ⟨part, rfl, hreads⟩ hall⟩

/-- A text that holds no other texts and is read as a scalar. -/
theorem reads_of_readScalar {v : Value} {cs : List Char} {c : Char} {more : List Char}
    (hcs : cs = c :: more) (hvisible : isVisible c = true)
    (hc : c ≠ '"' ∧ c ≠ '[' ∧ c ≠ '{' ∧ c ≠ ']')
    (h : ∀ rest, EndsNumber rest → readScalar (cs ++ rest) = .ok (readAs style.numbers v, rest)) :
    Reads style v cs where
  opens := ⟨c, more, hcs, hvisible, hc.2.2.2⟩
  read fuel rest hfuel hrest := by
    subst hcs
    obtain ⟨fuel, rfl⟩ := Nat.exists_eq_succ_of_ne_zero (n := fuel) (by simp at hfuel; omega)
    have hscalar := h rest hrest
    rw [List.cons_append] at hscalar ⊢
    rw [readValue, hscalar]
    · rintro _ heq
      exact hc.1 (List.cons.inj heq).1
    · rintro _ heq
      exact hc.2.1 (List.cons.inj heq).1
    · rintro _ heq
      exact hc.2.2.1 (List.cons.inj heq).1

theorem reads_writeString (v : Value) {s : String} (hv : readAs style.numbers v = .text s) :
    Reads style v (writeString style s) where
  opens := opens_writeString style s
  read fuel rest hfuel _ := by
    obtain ⟨fuel, rfl⟩ := Nat.exists_eq_succ_of_ne_zero (n := fuel)
      (by simp [writeString] at hfuel; omega)
    have htext : writeString style s ++ rest =
        '"' :: (s.toList.flatMap (writeChar style.ascii) ++ '"' :: rest) := by
      simp [writeString]
    rw [htext, readValue, readString_writeString, hv]
    rfl

/-- The characters that a number can start with. -/
def IsNumberStart (c : Char) : Prop :=
  (asciiDigit? c).isSome = true ∨ c ∈ ['-', 'N', 'I', 'n']

theorem IsNumberStart.visible {c : Char} (h : IsNumberStart c) :
    isVisible c = true ∧ c ≠ '"' ∧ c ≠ '[' ∧ c ≠ '{' ∧ c ≠ ']' := by
  rcases h with hdigit | hmem
  · have hrange : '0'.toNat ≤ c.toNat ∧ c.toNat ≤ '9'.toNat := by
      unfold asciiDigit? at hdigit
      split at hdigit
      · next hrange => exact hrange
      · exact nomatch hdigit
    have hzero : '0'.toNat = 48 := rfl
    have hnine : '9'.toNat = 57 := rfl
    have hvisible : isVisible c = true := by
      simp only [isVisible, Bool.and_eq_true, decide_eq_true_eq]
      omega
    refine ⟨hvisible, ?_, ?_, ?_, ?_⟩ <;> (rintro rfl; exact nomatch hdigit)
  · simp only [List.mem_cons, List.not_mem_nil, or_false] at hmem
    rcases hmem with rfl | rfl | rfl | rfl <;> decide

theorem exists_start_ofInt (n : Int) : ∃ c more, ofInt n = c :: more ∧ IsNumberStart c := by
  cases n with
  | ofNat n =>
    obtain ⟨c, more, hcs, hc⟩ := (isWhole_ofNat n).exists_cons
    exact ⟨c, more, hcs, Or.inl hc⟩
  | negSucc n => exact ⟨'-', _, rfl, Or.inr (by simp)⟩

theorem exists_start_render {l : Layout} (hl : Named l) (x : Binary64) :
    ∃ c more, l.render x = c :: more ∧ IsNumberStart c := by
  match x with
  | .finite false m q hcanonical =>
    obtain ⟨p, htext, -⟩ := exists_parts_magnitude l hcanonical
    obtain ⟨c, more, hcs, hc⟩ := p.isWhole.exists_cons
    exact ⟨c, _, by rw [Layout.render, htext, Parts.text, hcs, List.cons_append], Or.inl hc⟩
  | .finite true m q hcanonical => exact ⟨'-', _, rfl, Or.inr (by simp)⟩
  | .nan =>
    rcases hl with ⟨hnan, -⟩ | ⟨hnan, -⟩
    · exact ⟨'N', _, by rw [Layout.render, hnan]; rfl, Or.inr (by simp)⟩
    · exact ⟨'n', _, by rw [Layout.render, hnan]; rfl, Or.inr (by simp)⟩
  | .infinite false =>
    rcases hl with ⟨-, hinfinity⟩ | ⟨-, hinfinity⟩
    · exact ⟨'I', _, by rw [Layout.render, hinfinity]; rfl, Or.inr (by simp)⟩
    · exact ⟨'n', _, by rw [Layout.render, hinfinity]; rfl, Or.inr (by simp)⟩
  | .infinite true =>
    rcases hl with ⟨-, hinfinity⟩ | ⟨-, hinfinity⟩
    · exact ⟨'-', _, by rw [Layout.render, hinfinity]; rfl, Or.inr (by simp)⟩
    · exact ⟨'n', _, by rw [Layout.render, hinfinity]; rfl, Or.inr (by simp)⟩

theorem reads_enclosed_list (hstyle : style.Legible) (depth : Nat) {items : List Value}
    {parts : List (List Char)} (h : List.Forall₂ (Reads style) items parts) :
    Reads style (.list items) (enclose style depth '[' ']' parts) := by
  cases h with
  | nil =>
    refine ⟨⟨'[', _, rfl, by decide, by decide⟩, fun fuel rest hfuel _ => ?_⟩
    obtain ⟨fuel, rfl⟩ := Nat.exists_eq_succ_of_ne_zero (n := fuel) (by simp [enclose] at hfuel; omega)
    have hskip : skipBlanks (']' :: rest) = ']' :: rest := skipBlanks_cons (by decide) rest
    show readValue (fuel + 1) ('[' :: ']' :: rest) = _
    rw [readValue]
    simp only [hskip]
    rfl
  | @cons v part items parts hpart hparts =>
    rw [enclose_cons]
    refine ⟨⟨'[', _, rfl, by decide, by decide⟩, fun fuel rest hfuel _ => ?_⟩
    obtain ⟨fuel, rfl⟩ := Nat.exists_eq_succ_of_ne_zero (n := fuel) (by simp at hfuel; omega)
    rw [List.length_cons, List.length_append] at hfuel
    obtain ⟨c, more, hmore, hvisible, hclose⟩ :=
      hpart.opens.append (closingText style depth ']' parts ++ rest)
    have hskip : skipBlanks (newline style (depth + 1) ++
        (part ++ (closingText style depth ']' parts ++ rest))) = c :: more := by
      rw [skipBlanks_append blank_of_mem_newline, hmore, skipBlanks_cons hvisible]
    have hitems := readItems_written hstyle depth hpart hparts rest fuel (by omega)
    rw [hmore] at hitems
    rw [List.cons_append, List.append_assoc, List.append_assoc, readValue]
    simp only [hskip]
    split
    · next heq => exact absurd (List.cons.inj heq).1 hclose
    · rw [hitems]
      rfl

theorem reads_enclosed_map (hstyle : style.Legible) (depth : Nat) {entries : List (String × Value)}
    {parts : List (List Char)} (h : List.Forall₂ (ReadsMember style) entries parts) :
    Reads style (.map entries) (enclose style depth '{' '}' parts) := by
  cases h with
  | nil =>
    refine ⟨⟨'{', _, rfl, by decide, by decide⟩, fun fuel rest hfuel _ => ?_⟩
    obtain ⟨fuel, rfl⟩ := Nat.exists_eq_succ_of_ne_zero (n := fuel) (by simp [enclose] at hfuel; omega)
    have hskip : skipBlanks ('}' :: rest) = '}' :: rest := skipBlanks_cons (by decide) rest
    show readValue (fuel + 1) ('{' :: '}' :: rest) = _
    rw [readValue]
    simp only [hskip]
    rfl
  | @cons e part entries parts hpart hparts =>
    rw [enclose_cons]
    refine ⟨⟨'{', _, rfl, by decide, by decide⟩, fun fuel rest hfuel _ => ?_⟩
    obtain ⟨fuel, rfl⟩ := Nat.exists_eq_succ_of_ne_zero (n := fuel) (by simp at hfuel; omega)
    rw [List.length_cons, List.length_append] at hfuel
    -- the text of a member starts with the quote of its name
    obtain ⟨more, hmore⟩ : ∃ more, part ++ (closingText style depth '}' parts ++ rest) =
        '"' :: more := by
      obtain ⟨text, rfl, -⟩ := hpart
      exact ⟨_, rfl⟩
    have hskip : skipBlanks (newline style (depth + 1) ++
        (part ++ (closingText style depth '}' parts ++ rest))) = '"' :: more := by
      rw [skipBlanks_append blank_of_mem_newline, hmore, skipBlanks_cons (by decide)]
    have hmembers := readMembers_written hstyle depth hpart hparts rest fuel (by omega)
    rw [hmore] at hmembers
    rw [List.cons_append, List.append_assoc, List.append_assoc, readValue]
    simp only [hskip]
    split
    · next heq => exact absurd (List.cons.inj heq).1 (by decide)
    · rw [hmembers]
      rfl

/-- **Written values read back** as what their style makes of them. -/
theorem reads_written (hstyle : style.Legible) {v : Value} (hv : Printable v) :
    ∀ depth, ∃ cs, writeValue style depth v = some cs ∧ Reads style v cs := by
  induction hv with
  | null =>
    intro depth
    refine ⟨_, rfl, reads_of_readScalar rfl (by decide) (by decide) fun rest _ => ?_⟩
    simp [readScalar, readName?, names, Text.dropText?, readAs]
  | bool b =>
    intro depth
    cases b with
    | true =>
      refine ⟨_, rfl, reads_of_readScalar rfl (by decide) (by decide) fun rest _ => ?_⟩
      simp [readScalar, readName?, names, Text.dropText?, readAs]
    | false =>
      refine ⟨_, rfl, reads_of_readScalar rfl (by decide) (by decide) fun rest _ => ?_⟩
      simp [readScalar, readName?, names, Text.dropText?, readAs]
  | @int n hn =>
    intro depth
    obtain ⟨c, more, hcs, hc⟩ := exists_start_ofInt n
    exact ⟨_, rfl, reads_of_readScalar hcs hc.visible.1 hc.visible.2
      fun rest hrest => readScalar_ofInt hn hrest⟩
  | float x =>
    intro depth
    obtain ⟨c, more, hcs, hc⟩ := exists_start_render hstyle.numbers x
    exact ⟨_, rfl, reads_of_readScalar hcs hc.visible.1 hc.visible.2
      fun rest hrest => readScalar_render hstyle.numbers x hrest⟩
  | text s => exact fun depth => ⟨_, rfl, reads_writeString _ rfl⟩
  | symbol s => exact fun depth => ⟨_, rfl, reads_writeString _ rfl⟩
  | list hitems ih =>
    intro depth
    obtain ⟨parts, hparts, hreads⟩ := exists_writeItems fun v hv => ih v hv (depth + 1)
    exact ⟨_, by rw [writeValue, hparts]; rfl, reads_enclosed_list hstyle depth hreads⟩
  | map hentries ih =>
    intro depth
    obtain ⟨parts, hparts, hreads⟩ := exists_writeMembers fun e he => ih e he (depth + 1)
    exact ⟨_, by rw [writeValue, hparts]; rfl, reads_enclosed_map hstyle depth hreads⟩

/-- A text reads back with blanks behind it as well. -/
theorem Reads.readText_append {v : Value} {cs : List Char} (h : Reads style v cs) {blanks : List Char}
    (hblanks : ∀ c ∈ blanks, c = ' ' ∨ c = '\n') :
    readText (cs ++ blanks) = .ok (readAs style.numbers v) := by
  obtain ⟨c, more, hcs, hvisible, -⟩ := h.opens
  have hend : EndsNumber blanks := by
    cases blanks with
    | nil => exact nofun
    | cons b blanks =>
      rcases hblanks b List.mem_cons_self with rfl | rfl
      · exact endsNumber_cons ⟨rfl, by decide, by decide, by decide⟩ _
      · exact endsNumber_cons ⟨rfl, by decide, by decide, by decide⟩ _
  have hvalue := h.read (2 * (cs ++ blanks).length + 2) blanks (by simp; omega) hend
  have hmark : c ≠ '\uFEFF' := by
    rintro rfl
    exact absurd hvisible (by decide)
  have hskip : skipBlanks blanks = [] := by
    have hall := skipBlanks_append hblanks []
    rwa [List.append_nil] at hall
  rw [hcs, List.cons_append] at hvalue ⊢
  have hread : Json.readText (c :: (more ++ blanks)) = Json.read (c :: (more ++ blanks)) := by
    unfold Json.readText
    split
    · next heq => exact absurd (List.cons.inj heq).1 hmark
    · rfl
  rw [hread, Json.read, readAll, skipBlanks_cons hvisible, hvalue]
  simp only [bind, Except.bind, hskip]
  rfl

theorem Reads.readText {v : Value} {cs : List Char} (h : Reads style v cs) :
    readText cs = .ok (readAs style.numbers v) := by
  have happend := h.readText_append (List.forall_mem_nil _)
  rwa [List.append_nil] at happend

/-- **The text of a value reads back.** -/
theorem exists_written (hstyle : style.Legible) {v : Value} (hv : Printable v) (depth : Nat) :
    ∃ cs, writeValue style depth v = some cs ∧ readText cs = .ok (readAs style.numbers v) := by
  obtain ⟨cs, hwrite, hreads⟩ := reads_written hstyle hv depth
  exact ⟨cs, hwrite, hreads.readText⟩

end Json

end SearchClient
