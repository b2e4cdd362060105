import Mathlib
import SearchClient.Proofs.JsonText
import SearchClient.Text.Blank

set_option autoImplicit false

/-! # JSON texts on one line

A text without indentation holds no control characters. Of the characters beyond ASCII it holds
those that the texts and names in its value hold, if they are not escaped, and no others
(`Json.line_written`). So it holds a line feed never, and a line end exactly if one of them stands in
a text or name and is kept as it is. -/

namespace SearchClient.Json

open Decimal

/-! ## Characters of values -/

mutual

/-- The characters of the texts and names in a value. -/
def characters : Value → List Char
  | .text s => s.toList
  | .symbol s => s.wire.toList
  | .list items => itemCharacters items
  | .map entries => memberCharacters entries
  | _ => []

/-- The characters in the items of a list. -/
def itemCharacters : List Value → List Char
  | [] => []
  | v :: items => characters v ++ itemCharacters items

/-- The characters in the members of a map. -/
def memberCharacters : List (String × Value) → List Char
  | [] => []
  | (name, v) :: entries => name.toList ++ characters v ++ memberCharacters entries

end

/-! ## Lines -/

/-- A text on one line for some characters: it holds no control character, and beyond ASCII those of
    the characters that are not escaped. -/
structure Line (ascii : Bool) (chars cs : List Char) : Prop where
  printable : ∀ c ∈ cs, 0x20 ≤ c.toNat
  shown : ∀ c, 0x7F ≤ c.toNat → (c ∈ cs ↔ ascii = false ∧ c ∈ chars)

theorem Line.append {ascii : Bool} {chars more cs ds : List Char} (h : Line ascii chars cs)
    (hmore : Line ascii more ds) : Line ascii (chars ++ more) (cs ++ ds) where
  printable c hc := (List.mem_append.1 hc).elim (h.printable c) (hmore.printable c)
  shown c hc := by
    rw [List.mem_append, List.mem_append, h.shown c hc, hmore.shown c hc, and_or_left]

/-- A printable character of ASCII. -/
def isPlain (c : Char) : Bool :=
  0x20 ≤ c.toNat && c.toNat < 0x7F

theorem isPlain_iff {c : Char} : isPlain c = true ↔ 0x20 ≤ c.toNat ∧ c.toNat < 0x7F := by
  rw [isPlain, Bool.and_eq_true, decide_eq_true_eq, decide_eq_true_eq]

/-- Printable ASCII shows nothing. -/
theorem line_of_ascii {ascii : Bool} {chars cs : List Char}
    (h : ∀ c ∈ cs, isPlain c = true)
    (hchars : ascii = false → ∀ c ∈ chars, c.toNat < 0x7F) : Line ascii chars cs where
  printable c hc := (isPlain_iff.1 (h c hc)).1
  shown c hc := by
    refine iff_of_false (fun hmem => ?_) fun ⟨hascii, hmem⟩ => ?_
    · have hlt := (isPlain_iff.1 (h c hmem)).2
      omega
    · have hlt := hchars hascii c hmem
      omega

theorem line_of_plain {ascii : Bool} {cs : List Char} (h : ∀ c ∈ cs, isPlain c = true) :
    Line ascii [] cs :=
  line_of_ascii h fun _ _ hc => absurd hc List.not_mem_nil

theorem line_of_all {ascii : Bool} {cs : List Char} (h : cs.all isPlain = true) :
    Line ascii [] cs :=
  line_of_plain (List.all_eq_true.1 h)

/-! ## Strings -/

theorem isPlain_hexDigit {d : Nat} (h : d < 16) : isPlain (Text.hexDigit d) = true := by
  interval_cases d <;> rfl

theorem isPlain_of_mem_numberedEscape (n : Nat) : ∀ c ∈ numberedEscape n, isPlain c = true := by
  have hpadded (width n : Nat) : ∀ c ∈ Text.hexPadded width n, isPlain c = true := by
    induction width generalizing n with
    | zero => exact fun _ hc => absurd hc List.not_mem_nil
    | succ width ih =>
        intro c hc
        rcases List.mem_append.1 hc with hfront | hlast
        · exact ih (n / 16) c hfront
        · rw [List.mem_singleton.1 hlast]
          exact isPlain_hexDigit (Nat.mod_lt n (by decide))
  intro c hc
  rw [numberedEscape, List.mem_cons, List.mem_cons] at hc
  rcases hc with rfl | rfl | hc
  · decide
  · decide
  · exact hpadded 4 n c hc

theorem line_writeChar (ascii : Bool) (c : Char) : Line ascii [c] (writeChar ascii c) := by
  have hescape (e : Char) (he : isPlain e = true) (hc : c.toNat < 0x7F) :
      Line ascii [c] ['\\', e] := by
    refine line_of_ascii (fun d hd => ?_) fun _ d hd => by rwa [List.mem_singleton.1 hd]
    simp only [List.mem_cons, List.not_mem_nil, or_false] at hd
    rcases hd with rfl | rfl
    · decide
    · exact he
  unfold writeChar
  split_ifs with hquote hlf hcr htab hback hfeed hnumbered
  · simp only [Bool.or_eq_true, decide_eq_true_eq] at hquote
    rcases hquote with rfl | rfl
    · exact hescape _ (by decide) (by decide)
    · exact hescape _ (by decide) (by decide)
  · exact hescape 'n' (by decide) (by rw [hlf]; decide)
  · exact hescape 'r' (by decide) (by rw [hcr]; decide)
  · exact hescape 't' (by decide) (by rw [htab]; decide)
  · exact hescape 'b' (by decide) (by rw [hback]; decide)
  · exact hescape 'f' (by decide) (by rw [hfeed]; decide)
  · refine line_of_ascii (fun d hd => ?_) fun hascii d hd => ?_
    · obtain ⟨n, -, hd⟩ := List.mem_flatMap.1 hd
      exact isPlain_of_mem_numberedEscape n d hd
    · rw [List.mem_singleton.1 hd]
      simp only [hascii, Bool.false_and, Bool.or_false, decide_eq_true_eq] at hnumbered
      omega
  · simp only [Bool.or_eq_true, Bool.and_eq_true, decide_eq_true_eq, not_or, not_and] at hnumbered
    refine ⟨fun d hd => ?_, fun d hd => ?_⟩
    · rw [List.mem_singleton.1 hd]
      omega
    · refine ⟨fun hmem => ⟨?_, hmem⟩, fun h => h.2⟩
      rw [List.mem_singleton.1 hmem] at hd
      exact Bool.eq_false_of_not_eq_true fun hascii => hnumbered.2 hascii hd

theorem line_writeString (style : Style) (s : String) :
    Line style.ascii s.toList (writeString style s) := by
  have hchars (cs : List Char) : Line style.ascii cs (cs.flatMap (writeChar style.ascii)) := by
    induction cs with
    | nil => exact line_of_all rfl
    | cons c cs ih => exact (line_writeChar style.ascii c).append ih
  have hquote : Line style.ascii [] ['"'] := line_of_all rfl
  have hopened := hquote.append ((hchars s.toList).append hquote)
  rwa [List.append_nil] at hopened

/-! ## Numbers -/

theorem isPlain_of_digit {c : Char} (h : (asciiDigit? c).isSome = true) : isPlain c = true := by
  unfold asciiDigit? at h
  split at h
  · next hrange =>
    have hbounds : '0'.toNat ≤ c.toNat ∧ c.toNat ≤ '9'.toNat := hrange
    have hzero : '0'.toNat = 48 := rfl
    have hnine : '9'.toNat = 57 := rfl
    rw [isPlain_iff]
    omega
  · exact nomatch h

theorem isPlain_of_mem_ofInt {n : Int} : ∀ c ∈ ofInt n, isPlain c = true := by
  intro c hc
  cases n with
  | ofNat n => exact isPlain_of_digit (isRun_ofNat n c hc)
  | negSucc n =>
    rcases List.mem_cons.1 hc with rfl | hdigits
    · decide
    · exact isPlain_of_digit (isRun_ofNat (n + 1) c hdigits)

theorem Parts.isPlain_of_mem_text (p : Parts) (l : Layout) : ∀ c ∈ p.text l, isPlain c = true := by
  intro c hc
  rw [Parts.text, List.mem_append, List.mem_append] at hc
  rcases hc with hwhole | hfraction | hexponent
  · exact isPlain_of_digit (p.isWhole.isRun c hwhole)
  · cases hp : p.fraction with
    | none =>
      rw [hp] at hfraction
      exact absurd hfraction List.not_mem_nil
    | some ds =>
      rw [hp] at hfraction
      rcases List.mem_cons.1 hfraction with rfl | hdigits
      · decide
      · exact isPlain_of_digit ((p.isRun ds hp).2 c hdigits)
  · cases hp : p.exponent with
    | none =>
      rw [hp] at hexponent
      exact absurd hexponent List.not_mem_nil
    | some e =>
      rw [hp, exponentText, Layout.exponentText, List.mem_cons, List.mem_cons] at hexponent
      rcases hexponent with rfl | rfl | hdigits
      · decide
      · split <;> decide
      · exact isPlain_of_digit (isRun_padded _ _ c hdigits)

theorem isPlain_of_mem_render {l : Layout} (hl : Named l) {x : Binary64} :
    ∀ c ∈ l.render x, isPlain c = true := by
  match x with
  | .finite false m q hcanonical =>
    obtain ⟨p, htext, -⟩ := exists_parts_magnitude l hcanonical
    rw [Layout.render, htext]
    exact p.isPlain_of_mem_text l
  | .finite true m q hcanonical =>
    obtain ⟨p, htext, -⟩ := exists_parts_magnitude l hcanonical
    rw [Layout.render, htext, List.forall_mem_cons]
    exact ⟨rfl, p.isPlain_of_mem_text l⟩
  | .nan =>
    rcases hl with ⟨hnan, -⟩ | ⟨hnan, -⟩
    · rw [Layout.render, hnan]
      exact List.all_eq_true.1 (by decide +kernel)
    · rw [Layout.render, hnan]
      exact List.all_eq_true.1 (by decide +kernel)
  | .infinite false =>
    rcases hl with ⟨-, hinfinity⟩ | ⟨-, hinfinity⟩
    · rw [Layout.render, hinfinity]
      exact List.all_eq_true.1 (by decide +kernel)
    · rw [Layout.render, hinfinity]
      exact List.all_eq_true.1 (by decide +kernel)
  | .infinite true =>
    rcases hl with ⟨-, hinfinity⟩ | ⟨-, hinfinity⟩
    · rw [Layout.render, hinfinity]
      exact List.all_eq_true.1 (by decide +kernel)
    · rw [Layout.render, hinfinity]
      exact List.all_eq_true.1 (by decide +kernel)

/-! ## Values -/

variable {style : Style}

theorem newline_eq_nil (hline : style.indent = none) (depth : Nat) : newline style depth = [] := by
  rw [newline, hline]

/-- Brackets and commas show nothing. -/
theorem line_enclose (hstyle : style.Legible) (hline : style.indent = none) (depth : Nat)
    {opening closing : Char} (hopening : isPlain opening = true) (hclosing : isPlain closing = true)
    {chars parts : List (List Char)} (h : List.Forall₂ (Line style.ascii) chars parts) :
    Line style.ascii chars.flatten (enclose style depth opening closing parts) := by
  have hone (c : Char) (hc : isPlain c = true) : Line style.ascii [] [c] := by
    refine line_of_plain fun d hd => ?_
    rwa [List.mem_singleton.1 hd]
  have hcomma : Line style.ascii [] style.comma.toList := by
    obtain ⟨blanks, hcomma, hblanks⟩ := hstyle.comma
    rw [hcomma]
    refine (hone ',' (by decide)).append (line_of_plain fun c hc => ?_)
    rw [hblanks c hc]
    decide
  cases h with
  | nil => exact (hone opening hopening).append (hone closing hclosing)
  | @cons first part chars parts hfirst hrest =>
    have hmore : Line style.ascii chars.flatten
        (parts.flatMap fun part => style.comma.toList ++ part) := by
      induction hrest with
      | nil => exact line_of_all rfl
      | @cons here part chars parts hhere _ ih => exact (hcomma.append hhere).append ih
    have henclosed := (hone opening hopening).append
      ((hfirst.append hmore).append (hone closing hclosing))
    rw [List.nil_append, List.append_nil] at henclosed
    rw [enclose_cons, closingText, newline_eq_nil hline depth, List.nil_append]
    simpa [newline_eq_nil hline] using henclosed

theorem itemCharacters_eq_flatten (items : List Value) :
    itemCharacters items = (items.map characters).flatten := by
  induction items with
  | nil => rfl
  | cons v items ih => rw [itemCharacters, ih, List.map_cons, List.flatten_cons]

theorem memberCharacters_eq_flatten (entries : List (String × Value)) :
    memberCharacters entries = (entries.map fun e => e.1.toList ++ characters e.2).flatten := by
  induction entries with
  | nil => rfl
  | cons e entries ih => rw [memberCharacters, ih, List.map_cons, List.flatten_cons]

theorem line_of_writeItems {depth : Nat} {items : List Value} {parts : List (List Char)}
    (h : ∀ v ∈ items, ∀ cs, writeValue style depth v = some cs → Line style.ascii (characters v) cs)
    (hparts : writeItems style depth items = some parts) :
    List.Forall₂ (Line style.ascii) (items.map characters) parts := by
  induction items generalizing parts with
  | nil =>
      obtain rfl := Option.some.inj hparts
      exact List.Forall₂.nil
  | cons v items ih =>
      obtain ⟨hv, hitems⟩ := List.forall_mem_cons.1 h
      obtain ⟨part, hpart, hparts⟩ := Option.bind_eq_some_iff.1 hparts
      obtain ⟨rest, hrest, hparts⟩ := Option.bind_eq_some_iff.1 hparts
      obtain rfl := Option.some.inj hparts
      exact List.Forall₂.cons (hv part hpart) (ih hitems hrest)

theorem line_of_writeMembers (hstyle : style.Legible) {depth : Nat}
    {entries : List (String × Value)} {parts : List (List Char)}
    (h : ∀ e ∈ entries, ∀ cs, writeValue style depth e.2 = some cs →
      Line style.ascii (characters e.2) cs)
    (hparts : writeMembers style depth entries = some parts) :
    List.Forall₂ (Line style.ascii) (entries.map fun e => e.1.toList ++ characters e.2) parts := by
  have hcolon : Line style.ascii [] style.colon.toList := by
    obtain ⟨blanks, hcolon, hblanks⟩ := hstyle.colon
    rw [hcolon]
    refine line_of_plain (List.forall_mem_cons.2 ⟨by decide, fun c hc => ?_⟩)
    rw [hblanks c hc]
    decide
  induction entries generalizing parts with
  | nil =>
      obtain rfl := Option.some.inj hparts
      exact List.Forall₂.nil
  | cons e entries ih =>
      obtain ⟨he, hentries⟩ := List.forall_mem_cons.1 h
      obtain ⟨part, hpart, hparts⟩ := Option.bind_eq_some_iff.1 hparts
      obtain ⟨rest, hrest, hparts⟩ := Option.bind_eq_some_iff.1 hparts
      obtain rfl := Option.some.inj hparts
      have hname := (line_writeString style e.1).append hcolon
      rw [List.append_nil] at hname
      exact List.Forall₂.cons (hname.append (he part hpart)) (ih hentries hrest)

/-- **Texts on one line** hold no control characters, and beyond ASCII just what is not escaped of
    the texts and names in their value. -/
theorem line_written (hstyle : style.Legible) (hline : style.indent = none) {v : Value}
    (hv : Printable v) : ∀ depth cs, writeValue style depth v = some cs →
      Line style.ascii (characters v) cs := by
  induction hv with
  | null =>
    rintro depth _ ⟨⟩
    exact line_of_all (by decide +kernel)
  | bool b =>
    rintro depth cs hcs
    cases b <;> (obtain rfl := Option.some.inj hcs; exact line_of_all (by decide +kernel))
  | int hn =>
    rintro depth _ ⟨⟩
    exact line_of_plain isPlain_of_mem_ofInt
  | float x =>
    rintro depth _ ⟨⟩
    exact line_of_plain (isPlain_of_mem_render hstyle.numbers)
  | text s =>
    rintro depth _ ⟨⟩
    exact line_writeString style s
  | symbol s =>
    rintro depth _ ⟨⟩
    exact line_writeString style s.wire
  | @list items hitems ih =>
    intro depth cs hcs
    obtain ⟨parts, hparts, rfl⟩ := Option.map_eq_some_iff.1 hcs
    rw [characters, itemCharacters_eq_flatten]
    exact line_enclose hstyle hline depth (by decide) (by decide)
      (line_of_writeItems (fun v hv => ih v hv (depth + 1)) hparts)
  | @map entries hentries ih =>
    intro depth cs hcs
    obtain ⟨parts, hparts, rfl⟩ := Option.map_eq_some_iff.1 hcs
    rw [characters, memberCharacters_eq_flatten]
    exact line_enclose hstyle hline depth (by decide) (by decide)
      (line_of_writeMembers hstyle (fun e he => ih e he (depth + 1)) hparts)

/-- Whether a text on one line holds a line end is up to the texts and names in its value. -/
theorem Line.lineEnd_iff {ascii : Bool} {chars cs : List Char} (h : Line ascii chars cs) :
    (∃ c ∈ cs, Text.isLineEnd c = true) ↔
      ascii = false ∧ ∃ c ∈ chars, 0x7F ≤ c.toNat ∧ Text.isLineEnd c = true := by
  -- the line ends of ASCII are control characters
  have hbeyond {c : Char} (hc : 0x20 ≤ c.toNat) (hend : Text.isLineEnd c = true) :
      0x7F ≤ c.toNat := by
    simp only [Text.isLineEnd, Bool.or_eq_true, Bool.and_eq_true, decide_eq_true_eq] at hend
    omega
  constructor
  · rintro ⟨c, hc, hend⟩
    have hwide := hbeyond (h.printable c hc) hend
    obtain ⟨hascii, hmem⟩ := (h.shown c hwide).1 hc
    exact ⟨hascii, c, hmem, hwide, hend⟩
  · rintro ⟨hascii, c, hmem, hwide, hend⟩
    exact ⟨c, (h.shown c hwide).2 ⟨hascii, hmem⟩, hend⟩

theorem Line.notMem_lineFeed {ascii : Bool} {chars cs : List Char} (h : Line ascii chars cs) :
    '\n' ∉ cs := by
  intro hmem
  exact absurd (h.printable '\n' hmem) (by decide)

/-! ## Objects -/

theorem exists_braces (depth : Nat) (parts : List (List Char)) :
    ∃ middle, enclose style depth '{' '}' parts = '{' :: middle ++ ['}'] := by
  cases parts with
  | nil => exact ⟨[], rfl⟩
  | cons part parts =>
    exact ⟨newline style (depth + 1) ++ part ++
      parts.flatMap (fun part => style.comma.toList ++ newline style (depth + 1) ++ part) ++
        newline style depth, rfl⟩

/-- The text of an object on one line, between braces, which reads back. -/
theorem exists_object (hstyle : style.Legible) (hline : style.indent = none)
    {entries : Entries Value} (hv : Printable (.map entries)) :
    ∃ cs, write? style (.map entries) = some (String.ofList cs) ∧
      readText cs = .ok (readAs style.numbers (.map entries)) ∧
      Line style.ascii (characters (.map entries)) cs ∧ ∃ middle, cs = '{' :: middle ++ ['}'] := by
  obtain ⟨cs, hwrite, hread⟩ := exists_written hstyle hv 0
  have hisLine := line_written hstyle hline hv 0 cs hwrite
  refine ⟨cs, by rw [write?, hwrite]; rfl, hread, hisLine, ?_⟩
  obtain ⟨parts, -, rfl⟩ := Option.map_eq_some_iff.1 hwrite
  exact exists_braces 0 parts

/-- Where everything beyond ASCII is escaped nothing of it is shown. -/
theorem Line.nothing_shown {chars cs : List Char} (h : Line true chars cs) : Line false [] cs where
  printable := h.printable
  shown c hc := by simp [h.shown c hc]

end SearchClient.Json
