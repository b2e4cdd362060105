import Mathlib
import SearchClient.CommandLine.Input
import SearchClient.Proofs.Uploading

set_option autoImplicit false

/-! # Uploads read as files

The command line reads documents from the lines of a file. More characters end a line there than the
line feeds that frame an upload, so the body of an upload reads back from a file, document by
document, exactly if no document shows a line end beyond ASCII (`CommandLine.loaded_iff`). -/

namespace SearchClient.Text

/-! ## Blanks at the ends -/

theorem isBlank_of_isLineEnd {c : Char} (h : isLineEnd c = true) : isBlank c = true := by
  simp only [isLineEnd, isBlank, isSpace, Bool.or_eq_true, Bool.and_eq_true, decide_eq_true_eq] at *
  omega

theorem trimBy_eq_nil_iff {p : Char → Bool} {cs : List Char} :
    trimBy p cs = [] ↔ ∀ c ∈ cs, p c = true := by
  rw [trimBy, List.reverse_eq_nil_iff, List.dropWhile_eq_nil_iff]
  constructor
  · intro h c hc
    rw [← List.takeWhile_append_dropWhile (p := p) (l := cs), List.mem_append] at hc
    rcases hc with hfront | hback
    · exact List.mem_takeWhile_imp hfront
    · exact h c (List.mem_reverse.2 hback)
  · intro h c hc
    exact h c ((List.dropWhile_sublist p).subset (List.mem_reverse.1 hc))

/-- What stands between two characters that are kept is kept, and what follows is removed. -/
theorem trimBy_append {p : Char → Bool} {first last : Char} (hfirst : p first = false)
    (hlast : p last = false) (middle : List Char) {tail : List Char}
    (htail : ∀ c ∈ tail, p c = true) :
    trimBy p (first :: middle ++ [last] ++ tail) = first :: middle ++ [last] := by
  have hall : ∀ c ∈ tail.reverse, p c = true := fun c hc => htail c (List.mem_reverse.1 hc)
  rw [trimBy, List.cons_append, List.cons_append, List.dropWhile_cons_of_neg (by simp [hfirst]),
    ← List.cons_append, ← List.cons_append, List.reverse_append, List.reverse_append,
    List.dropWhile_append_of_pos hall, List.reverse_singleton, List.singleton_append,
    List.dropWhile_cons_of_neg (by simp [hlast]), List.reverse_cons, List.reverse_reverse]

/-! ## Lines -/

theorem unifyLineEnds_eq_self {cs : List Char} (h : '\r' ∉ cs) : unifyLineEnds cs = cs := by
  induction cs with
  | nil => rfl
  | cons c cs ih =>
      rw [List.mem_cons, not_or] at h
      rw [unifyLineEnds, ih h.2]
      · rintro _ rfl
        exact absurd rfl h.1
      · rintro rfl
        exact absurd rfl h.1

theorem linesFrom_cons {c : Char} (hc : '\r' ≠ c) (line cs : List Char) : linesFrom line (c :: cs) =
    if isLineEnd c then line.reverse :: linesFrom [] cs else linesFrom (c :: line) cs := by
  rw [linesFrom]
  rintro _ rfl
  exact absurd rfl hc

/-- A line end after a line that has begun splits both sides apart. -/
theorem linesFrom_append_cons {last c : Char} (hlast : isLineEnd last = false)
    (hc : isLineEnd c = true) (hreturn : '\r' ≠ c) (after : List Char) {before : List Char}
    (h : '\r' ∉ before) (line : List Char) : linesFrom line (before ++ last :: c :: after) =
      linesFrom line (before ++ [last]) ++ lines after := by
  have hkept : '\r' ≠ last := by
    rintro rfl
    exact absurd hlast (by decide)
  induction before generalizing line with
  | nil =>
      rw [List.nil_append, List.nil_append, linesFrom_cons hkept, linesFrom_cons hkept, hlast,
        if_neg Bool.false_ne_true, if_neg Bool.false_ne_true, linesFrom_cons hreturn, hc]
      rfl
  | cons d before ih =>
      rw [List.mem_cons, not_or] at h
      rw [List.cons_append, List.cons_append, linesFrom_cons h.1, linesFrom_cons h.1, ih h.2,
        ih h.2]
      split <;> rfl

/-- Without a line end there is one line. -/
theorem linesFrom_of_plain {cs : List Char} (h : ∀ c ∈ cs, isLineEnd c = false) {line : List Char}
    (hne : line.reverse ++ cs ≠ []) : linesFrom line cs = [line.reverse ++ cs] := by
  induction cs generalizing line with
  | nil =>
      rw [List.append_nil] at hne
      rw [linesFrom, List.append_nil, if_neg]
      rintro hempty
      exact hne (by rw [List.isEmpty_iff.1 hempty]; rfl)
  | cons c cs ih =>
      obtain ⟨hc, hcs⟩ := List.forall_mem_cons.1 h
      have hreturn : '\r' ≠ c := by
        rintro rfl
        exact absurd hc (by decide)
      rw [linesFrom_cons hreturn, hc, if_neg Bool.false_ne_true, ih hcs (by simp)]
      simp

/-- What ends no line stands in one. -/
theorem exists_mem_linesFrom {c : Char} (hc : isLineEnd c = false) {line cs : List Char}
    (h : c ∈ line ∨ c ∈ cs) : ∃ part ∈ linesFrom line cs, c ∈ part := by
  fun_induction linesFrom line cs with
  | case1 line hempty =>
      rw [List.isEmpty_iff.1 hempty] at h
      simp at h
  | case2 line hempty =>
      refine ⟨line.reverse, List.mem_singleton_self _, List.mem_reverse.2 ?_⟩
      exact h.resolve_right List.not_mem_nil
  | case3 line cs ih =>
      have hreturn : c ≠ '\r' := by
        rintro rfl
        exact absurd hc (by decide)
      have hfeed : c ≠ '\n' := by
        rintro rfl
        exact absurd hc (by decide)
      rcases h with hline | hcs
      · exact ⟨line.reverse, List.mem_cons_self, List.mem_reverse.2 hline⟩
      · have hrest := List.mem_of_ne_of_mem hfeed (List.mem_of_ne_of_mem hreturn hcs)
        obtain ⟨part, hpart, hmem⟩ := ih (Or.inr hrest)
        exact ⟨part, List.mem_cons_of_mem _ hpart, hmem⟩
  | case4 line d cs _ hd ih =>
      rcases h with hline | hcs
      · exact ⟨line.reverse, List.mem_cons_self, List.mem_reverse.2 hline⟩
      · rcases List.mem_cons.1 hcs with rfl | hcs
        · rw [hd] at hc
          exact nomatch hc
        · obtain ⟨part, hpart, hmem⟩ := ih (Or.inr hcs)
          exact ⟨part, List.mem_cons_of_mem _ hpart, hmem⟩
  | case5 line d cs _ hd ih =>
      rw [List.mem_cons, or_left_comm, ← or_assoc, ← List.mem_cons] at h
      exact ih h

/-- What ends no line and stands in front of a line end stands in a line of its own side. -/
theorem exists_linesFrom_split {c : Char} (hc : isLineEnd c = true) (hreturn : '\r' ≠ c)
    (after : List Char) {before : List Char} (h : '\r' ∉ before) (line : List Char) :
    ∃ parts, linesFrom line (before ++ c :: after) = parts ++ lines after ∧
      ∀ d, isLineEnd d = false → d ∈ line ∨ d ∈ before → ∃ part ∈ parts, d ∈ part := by
  induction before generalizing line with
  | nil =>
      refine ⟨[line.reverse], ?_, fun d _ hd => ⟨_, List.mem_singleton_self _, ?_⟩⟩
      · rw [List.nil_append, linesFrom_cons hreturn, hc]
        rfl
      · exact List.mem_reverse.2 (hd.resolve_right List.not_mem_nil)
  | cons e before ih =>
      rw [List.mem_cons, not_or] at h
      rw [List.cons_append, linesFrom_cons h.1]
      cases he : isLineEnd e with
      | true =>
        obtain ⟨parts, hparts, hall⟩ := ih h.2 []
        refine ⟨line.reverse :: parts, by rw [if_pos rfl, hparts, List.cons_append], ?_⟩
        rintro d hd (hline | hbefore)
        · exact ⟨line.reverse, List.mem_cons_self, List.mem_reverse.2 hline⟩
        · rcases List.mem_cons.1 hbefore with rfl | hbefore
          · rw [he] at hd
            exact nomatch hd
          · obtain ⟨part, hpart, hmem⟩ := hall d hd (Or.inr hbefore)
            exact ⟨part, List.mem_cons_of_mem _ hpart, hmem⟩
      | false =>
        obtain ⟨parts, hparts, hall⟩ := ih h.2 (e :: line)
        refine ⟨parts, hparts, fun d hd hmem => hall d hd ?_⟩
        rwa [List.mem_cons, or_left_comm, ← or_assoc, ← List.mem_cons] at hmem

/-! ## Lines that count -/

/-- Whether a text holds more than blanks. -/
def isFilled (cs : List Char) : Bool :=
  !(trim cs).isEmpty

/-- The lines that are not blank. -/
def filledLines (cs : List Char) : List (List Char) :=
  (lines cs).filter isFilled

/-- A text in braces, without a carriage return. -/
structure Braced (cs : List Char) : Prop where
  braces : ∃ middle, cs = '{' :: middle ++ ['}']
  noReturn : '\r' ∉ cs

theorem Braced.mem_opening {cs : List Char} (h : Braced cs) : '{' ∈ cs := by
  obtain ⟨middle, rfl⟩ := h.braces
  exact List.mem_cons_self

theorem isFilled_of_mem {c : Char} (hc : isBlank c = false) {part : List Char} (h : c ∈ part) :
    isFilled part = true := by
  rw [isFilled, Bool.not_eq_true', List.isEmpty_eq_false_iff, Ne, trim, trimBy_eq_nil_iff]
  intro hall
  rw [hall c h] at hc
  exact nomatch hc

theorem filledLines_of_plain {cs : List Char} (hcs : Braced cs)
    (h : ∀ c ∈ cs, isLineEnd c = false) : filledLines cs = [cs] := by
  have hlines : lines cs = [cs] := linesFrom_of_plain h (List.ne_nil_of_mem hcs.mem_opening)
  rw [filledLines, hlines, List.filter_cons_of_pos (isFilled_of_mem (by decide) hcs.mem_opening),
    List.filter_nil]

theorem one_le_length_filledLines {cs : List Char} {c : Char} (hc : isBlank c = false)
    (h : c ∈ cs) : 1 ≤ (filledLines cs).length := by
  have hkept : isLineEnd c = false := by
    rw [← Bool.not_eq_true]
    intro hend
    rw [isBlank_of_isLineEnd hend] at hc
    exact nomatch hc
  obtain ⟨part, hpart, hmem⟩ := exists_mem_linesFrom hkept (Or.inr h : c ∈ [] ∨ c ∈ cs)
  exact List.length_pos_of_mem (List.mem_filter.2 ⟨hpart, isFilled_of_mem hc hmem⟩)

/-- A line end between the braces leaves a line on either side. -/
theorem two_le_length_filledLines {cs : List Char} (hcs : Braced cs) {c : Char} (hmem : c ∈ cs)
    (hc : isLineEnd c = true) : 2 ≤ (filledLines cs).length := by
  have hreturn : '\r' ≠ c := by
    rintro rfl
    exact hcs.noReturn hmem
  obtain ⟨middle, hmiddle⟩ := hcs.braces
  have hinside : c ∈ middle := by
    rw [hmiddle, List.cons_append, List.mem_cons, List.mem_append, List.mem_singleton] at hmem
    rcases hmem with rfl | hinside | rfl
    · exact absurd hc (by decide)
    · exact hinside
    · exact absurd hc (by decide)
  -- the opening brace stands in front of the line end, and the closing one behind it
  obtain ⟨before, after, rfl⟩ := List.append_of_mem hinside
  have hsplit : cs = ('{' :: before) ++ c :: (after ++ ['}']) := by
    rw [hmiddle]
    simp
  have hbefore : '\r' ∉ '{' :: before := by
    intro hmem
    exact hcs.noReturn (by rw [hsplit]; exact List.mem_append_left _ hmem)
  obtain ⟨parts, hparts, hall⟩ := exists_linesFrom_split hc hreturn (after ++ ['}']) hbefore []
  obtain ⟨part, hpart, hopening⟩ := hall '{' (by decide) (Or.inr List.mem_cons_self)
  have hfirst := List.length_pos_of_mem
    (List.mem_filter.2 ⟨hpart, isFilled_of_mem (by decide) hopening⟩)
  have hrest : 1 ≤ (filledLines (after ++ ['}'])).length :=
    one_le_length_filledLines (c := '}') (by decide) (by simp)
  rw [filledLines, lines, hsplit, hparts, List.filter_append, List.length_append]
  rw [filledLines] at hrest
  omega

theorem filledLines_joinOn {parts : List (List Char)} (h : ∀ part ∈ parts, Braced part) :
    filledLines (joinOn '\n' parts) = parts.flatMap filledLines := by
  induction parts with
  | nil => rfl
  | cons part parts ih =>
      obtain ⟨hpart, hparts⟩ := List.forall_mem_cons.1 h
      cases parts with
      | nil => exact (List.append_nil _).symm
      | cons next parts =>
        -- the line feed ends a line that has begun, that of the closing brace
        obtain ⟨middle, rfl⟩ := hpart.braces
        have hmiddle : '\r' ∉ '{' :: middle := fun hmem =>
          hpart.noReturn (List.mem_append_left _ hmem)
        have hclosing : isLineEnd '}' = false := by decide
        have hfeed : isLineEnd '\n' = true := by decide
        have hlines := linesFrom_append_cons hclosing hfeed (by decide)
          (joinOn '\n' (next :: parts)) hmiddle []
        rw [joinOn_cons_cons, List.flatMap_cons, ← ih hparts, filledLines, lines, List.append_assoc,
          List.singleton_append, hlines, List.filter_append]
        rfl

/-- Parts without line ends come back from their joined text. -/
theorem filledLines_joinOn_of_plain {parts : List (List Char)} (h : ∀ part ∈ parts, Braced part)
    (hplain : ∀ part ∈ parts, ∀ c ∈ part, isLineEnd c = false) :
    filledLines (joinOn '\n' parts) = parts := by
  have hsingle : ∀ part ∈ parts, filledLines part = [part] := fun part hpart =>
    filledLines_of_plain (h part hpart) (hplain part hpart)
  rw [filledLines_joinOn h, List.flatMap_congr hsingle]
  exact List.flatMap_pure_eq_map id parts |>.trans (List.map_id parts)

/-- **As many lines count as were joined**, exactly if no part holds a line end. -/
theorem length_filledLines_joinOn_iff {parts : List (List Char)} (h : ∀ part ∈ parts, Braced part) :
    (filledLines (joinOn '\n' parts)).length = parts.length ↔
      ∀ part ∈ parts, ∀ c ∈ part, isLineEnd c = false := by
  refine ⟨fun hlength part hpart c hc => ?_, fun hplain => ?_⟩
  · rw [← Bool.not_eq_true]
    intro hend
    have hleast : ∀ part ∈ parts, 1 ≤ (filledLines part).length := fun part hpart =>
      one_le_length_filledLines (c := '{') (by decide) (h part hpart).mem_opening
    have hmore := two_le_length_filledLines (h part hpart) hc hend
    have hlt : (parts.map fun _ => 1).sum < (parts.map fun part => (filledLines part).length).sum :=
      List.sum_lt_sum _ _ hleast ⟨part, hpart, hmore⟩
    rw [← List.length_flatMap, ← filledLines_joinOn h, hlength] at hlt
    simp at hlt
  · rw [filledLines_joinOn_of_plain h hplain]

theorem Braced.joinOn {parts : List (List Char)} (hne : parts ≠ [])
    (h : ∀ part ∈ parts, Braced part) : Braced (joinOn '\n' parts) := by
  induction parts with
  | nil => exact absurd rfl hne
  | cons part parts ih =>
      obtain ⟨hpart, hparts⟩ := List.forall_mem_cons.1 h
      cases parts with
      | nil => exact hpart
      | cons next parts =>
        obtain ⟨middle, hmiddle⟩ := hpart.braces
        have hrest := ih (List.cons_ne_nil _ _) hparts
        obtain ⟨rest, hbraces⟩ := hrest.braces
        refine ⟨⟨middle ++ '}' :: '\n' :: '{' :: rest, ?_⟩, ?_⟩
        · rw [joinOn_cons_cons, hmiddle, hbraces]
          simp
        · rw [joinOn_cons_cons, List.mem_append, List.mem_cons]
          rintro (hmem | hmem | hmem)
          · exact hpart.noReturn hmem
          · exact absurd hmem (by decide)
          · exact hrest.noReturn hmem

end SearchClient.Text

namespace SearchClient.CommandLine

open Text Json Client Client.Document Client.Operation

/-! ## Files -/

/-- A text in braces that a file holds, with blanks behind it, is read by its lines. -/
theorem readDocuments_of_braced {cs : List Char} (hcs : Braced cs) {tail : List Char}
    (htail : ∀ c ∈ tail, isBlank c = true) :
    readDocuments (cs ++ tail) = (filledLines cs).mapM Json.readText := by
  obtain ⟨middle, rfl⟩ := hcs.braces
  have htrim : trim ('{' :: middle ++ ['}'] ++ tail) = '{' :: middle ++ ['}'] :=
    trimBy_append (by decide) (by decide) middle htail
  rw [readDocuments, htrim]
  rfl

theorem readText_of_file {h : Host} {path : String} (hpath : path ≠ "-") {cs : List Char}
    (hfile : h.files.place path = .file (Utf8.encode cs)) (hcs : '\r' ∉ cs) (input : String) :
    readText h input path = .ok cs := by
  rw [readText, if_neg hpath, readOctets, hfile]
  show (Files.text (Utf8.encode cs)).mapError Failure.Problem.undecodable = _
  rw [Files.text, Utf8.decode_encode]
  show Except.ok (unifyLineEnds cs) = _
  rw [unifyLineEnds_eq_self hcs]

/-- The documents of a file are those of the lines of its text. -/
theorem loadDocuments_of_file {h : Host} {path : String} (hpath : path ≠ "-") {cs tail : List Char}
    (hcs : Braced cs) (htail : tail = [] ∨ tail = ['\n'])
    (hfile : h.files.place path = .file (Utf8.encode (cs ++ tail))) (input : String) :
    loadDocuments h input path = ((filledLines cs).mapM Json.readText).mapError .json := by
  have hblank : ∀ c ∈ tail, isBlank c = true ∧ c ≠ '\r' := by
    rcases htail with rfl | rfl
    · exact fun _ hc => absurd hc List.not_mem_nil
    · exact List.forall_mem_singleton.2 (by decide)
  have hreturn : '\r' ∉ cs ++ tail := by
    rw [List.mem_append]
    rintro (hmem | hmem)
    · exact hcs.noReturn hmem
    · exact (hblank _ hmem).2 rfl
  rw [loadDocuments, readText_of_file hpath hfile hreturn]
  show (readDocuments (cs ++ tail)).mapError _ = _
  rw [readDocuments_of_braced hcs fun c hc => (hblank c hc).1]

/-! ## Uploads -/

theorem braced_of_framed {d : Value} {line : String} (h : Framed d line) : Braced line.toList where
  braces := h.braces
  noReturn hmem := absurd (h.isLine.printable '\r' hmem) (by decide)

/-- A line holds a line end exactly if its document shows one. -/
theorem plain_iff_of_framed {d : Value} {line : String} (h : Framed d line) :
    (∀ c ∈ line.toList, isLineEnd c = false) ↔
      ∀ c ∈ shown d, 0x7F ≤ c.toNat → isLineEnd c = false := by
  have hiff := h.isLine.lineEnd_iff
  rw [← not_iff_not]
  simpa using hiff

theorem plain_iff_of_forall₂ {docs : List Value} {texts : List String}
    (h : List.Forall₂ Framed docs texts) :
    (∀ part ∈ texts.map String.toList, ∀ c ∈ part, isLineEnd c = false) ↔
      ∀ d ∈ docs, ∀ c ∈ shown d, 0x7F ≤ c.toNat → isLineEnd c = false := by
  induction h with
  | nil => simp
  | cons hframed _ ih =>
      rw [List.map_cons, List.forall_mem_cons, List.forall_mem_cons, ih,
        plain_iff_of_framed hframed]

/-- **Uploads read back from files**: the file of an upload, with or without a line feed at its end,
    holds the documents of its lines, one for each line and in their order, exactly if no document
    shows a line end beyond ASCII. -/
theorem loaded_iff {documents : Value} {docs : List Value}
    (helements : documents.elements = .ok docs) (hne : docs ≠ [])
    (hdocs : ∀ d ∈ docs, Uploadable d) {x : Http.Executor} {index format primaryKey : Value}
    {outcome : Http.Outcome} {r : Http.Request}
    (hr : r ∈ (((addDocuments index documents format primaryKey).plan x).run outcome).requests)
    {h : Host} {path : String} (hpath : path ≠ "-") (ended : Bool)
    (hfile : h.files.place path =
      .file (Utf8.encode (r.body.toList ++ if ended then ['\n'] else []))) (input : String) :
    (∃ vs, loadDocuments h input path = .ok vs ∧
      List.Forall₂ (fun line v => Json.readText line = .ok v) (splitOn '\n' r.body.toList) vs) ↔
    ∀ d ∈ docs, ∀ c ∈ shown d, 0x7F ≤ c.toNat → isLineEnd c = false := by
  obtain ⟨texts, hall, htexts, hbody, hfeedless⟩ := exists_lines_of_upload helements hne hdocs hr
  have hparts : texts.map String.toList ≠ [] := List.map_eq_nil_iff.not.2 htexts
  have hbraced : ∀ part ∈ texts.map String.toList, Braced part := by
    intro part hpart
    obtain ⟨text, hmem, rfl⟩ := List.mem_map.1 hpart
    obtain ⟨d, -, hframed⟩ := exists_framed hall hmem
    exact braced_of_framed hframed
  rw [hbody] at hfile
  have htail : (if ended then ['\n'] else []) = [] ∨ (if ended then ['\n'] else []) = ['\n'] := by
    cases ended <;> simp
  rw [loadDocuments_of_file hpath (Braced.joinOn hparts hbraced) htail hfile, hbody,
    splitOn_joinOn hparts hfeedless]
  rw [← plain_iff_of_forall₂ hall]
  constructor
  · -- as many documents as lines are read, and what was not joined would be one more line
    rintro ⟨vs, hload, hread⟩
    rw [← length_filledLines_joinOn_iff hbraced, hread.length_eq]
    exact (mapM_eq_ok_iff.1 (mapError_eq_ok_iff.1 hload)).length_eq
  · intro hplain
    have hread : List.Forall₂ (fun line v => Json.readText line = .ok v)
        (texts.map String.toList) (docs.map decoded) := by
      rw [List.forall₂_map_left_iff, List.forall₂_map_right_iff]
      refine hall.flip.imp fun text d hframed => ?_
      obtain ⟨es, hes, hread⟩ := hframed.reads
      rw [hes, hread]
    refine ⟨docs.map decoded, ?_, hread⟩
    rw [filledLines_joinOn_of_plain hbraced hplain, mapError_eq_ok_iff, mapM_eq_ok_iff]
    exact hread

/-- A directory with one file. -/
def oneFile (octets : List UInt8) : Host :=
  ⟨[], [("docs.ndjson", octets)]⟩

theorem place_oneFile (octets : List UInt8) :
    (oneFile octets).files.place "docs.ndjson" = .file octets := by
  rfl

/-- The configuration of an index that has just an identifier. -/
def indexNamed (id : String) : Value :=
  .record .index [("id", .text id), ("primary_key", .null)] [] ["id"]

theorem uploadable_indexNamed (id : String) : Uploadable (indexNamed id) := by
  have hnames : ["id", "primaryKey"].Nodup := by decide
  refine .record hnames ?_ fun _ hmem => absurd hmem List.not_mem_nil
  exact List.forall_mem_cons.2 ⟨.text _, List.forall_mem_singleton.2 .null⟩

/-- The file of the record of an index whose identifier holds hard characters, none of them a line
    end, reads back. -/
theorem loaded_iff_of_plain_id :
    let index := indexNamed "a\n\u007f😀"
    ∃ r ∈ (((addDocuments (.text "books") (.list [index]) .null .null).plan rootExecutor).run
        (.interrupted "" "")).requests,
      ∃ vs, loadDocuments (oneFile (Utf8.encode (r.body.toList ++ ['\n']))) "" "docs.ndjson" =
        .ok vs ∧
      List.Forall₂ (fun line v => Json.readText line = .ok v) (splitOn '\n' r.body.toList) vs := by
  intro index
  have hall : (shown index).all (fun c => c.toNat < 0x7F || !isLineEnd c) = true := by
    decide +kernel
  have hplain : ∀ c ∈ shown index, 0x7F ≤ c.toNat → isLineEnd c = false := by
    intro c hc hwide
    have hc := List.all_eq_true.1 hall c hc
    rw [decide_eq_false (Nat.not_lt.2 hwide), Bool.false_or, Bool.not_eq_true'] at hc
    exact hc
  have hsent : (((addDocuments (.text "books") (.list [index]) .null .null).plan
      rootExecutor).run (.interrupted "" "")).requests.map (·.method) = ["POST"] := by
    decide +kernel
  obtain ⟨r, hmem, -⟩ := Http.Trace.exists_request hsent
  have helements : (Value.list [index]).elements = .ok [index] := rfl
  have hdocs : ∀ d ∈ [index], Uploadable d := List.forall_mem_singleton.2 (uploadable_indexNamed _)
  refine ⟨r, hmem, (loaded_iff helements (List.cons_ne_nil _ _) hdocs hmem (by decide) true
    (place_oneFile _) "").2 ?_⟩
  exact List.forall_mem_singleton.2 hplain

/-- A file of the record of an index whose identifier holds a line separator is not read. -/
theorem upload_not_loaded :
    let index := indexNamed "a\u2028b"
    Uploadable index ∧ ∃ r ∈ (((addDocuments (.text "books") (.list [index]) .null .null).plan
        rootExecutor).run (.interrupted "" "")).requests,
      (Json.readText r.body.toList).toOption.isSome = true ∧
      ¬∃ vs, loadDocuments (oneFile (Utf8.encode r.body.toList)) "" "docs.ndjson" = .ok vs ∧
        List.Forall₂ (fun line v => Json.readText line = .ok v) (splitOn '\n' r.body.toList) vs := by
  intro index
  have hsent : (((addDocuments (.text "books") (.list [index]) .null .null).plan
      rootExecutor).run (.interrupted "" "")).requests.map (·.body) =
        ["\x7b\"id\":\"a\u2028b\",\"primaryKey\":null\x7d"] := by
    decide +kernel
  obtain ⟨r, hmem, hbody⟩ := Http.Trace.exists_request hsent
  refine ⟨uploadable_indexNamed _, r, hmem, ?_, ?_⟩
  · rw [hbody]
    decide +kernel
  · rw [hbody]
    rintro ⟨vs, hload, -⟩
    have hfails : (loadDocuments (oneFile (Utf8.encode
        "\x7b\"id\":\"a\u2028b\",\"primaryKey\":null\x7d".toList)) "" "docs.ndjson").toOption.isSome =
          false := by
      decide +kernel
    rw [hload] at hfails
    exact nomatch hfails

end SearchClient.CommandLine
