import Mathlib
import SearchClient.Proofs.Dumping
import SearchClient.Proofs.JsonLine
import SearchClient.Proofs.Sending
import SearchClient.Proofs.Split

set_option autoImplicit false

/-! # Uploads line by line

Documents are uploaded as lines: a map as its JSON text in ASCII, a record as its stored text. Either
text is an object on one line that reads back (`Document.Framed`), so the body of an upload splits
into the lines of its documents again. -/

namespace SearchClient.Record

open Json

/-! ## Stored records -/

/-- How the data of a record are stored: fields go by their names in data. An undeclared member may
    stand beside a field of its name, or replace it. -/
def storedWith (repeated : Bool) : DumpOptions :=
  { byWire := true, keepRepeated := repeated }

theorem dumpFields_stored (repeated : Bool) (model : Model) (given : List String)
    (fields : Entries Value) : dumpFields (storedWith repeated) model given fields =
      fields.map fun e => (Schema.wireOf model e.1, dump (storedWith repeated) e.2) := by
  induction fields with
  | nil => rfl
  | cons e fields ih =>
      rw [dumpFields, ih]
      rfl

theorem plainItems_eq_map (items : List Value) : plainItems items = items.map plain := by
  induction items with
  | nil => rfl
  | cons v items ih => rw [plainItems, ih, List.map_cons]

theorem plainEntries_eq_map (entries : Entries Value) :
    plainEntries entries = entries.map fun e => (e.1, plain e.2) := by
  induction entries with
  | nil => rfl
  | cons e entries ih => rw [plainEntries, ih, List.map_cons]

/-- Data that can be stored: what can be printed, dates, and records of such whose fields have names
    of their own. -/
inductive Storable : Value → Prop
  | null : Storable .null
  | bool (b : Bool) : Storable (.bool b)
  | int {n : Int} (hn : Decimal.length n.natAbs ≤ Decimal.digitLimit) : Storable (.int n)
  | float (x : Binary64) : Storable (.float x)
  | text (s : String) : Storable (.text s)
  | symbol (s : Symbol) : Storable (.symbol s)
  | date (d : Date) : Storable (.date d)
  | dateTime (t : DateTime) : Storable (.dateTime t)
  | list {items : List Value} (hitems : ∀ v ∈ items, Storable v) : Storable (.list items)
  | map {entries : Entries Value} (hentries : ∀ e ∈ entries, Storable e.2) :
      Storable (.map entries)
  | record {model : Model} {fields extra : Entries Value} {given : List String}
      (hnames : (fields.map fun e => Schema.wireOf model e.1).Nodup)
      (hfields : ∀ e ∈ fields, Storable e.2) (hextra : ∀ e ∈ extra, Storable e.2) :
      Storable (.record model fields extra given)

/-- The data of a record as they are written. -/
def stored (repeated : Bool) (v : Value) : Value :=
  plain (dump (storedWith repeated) v)

theorem stored_list (repeated : Bool) (items : List Value) :
    stored repeated (.list items) = .list (items.map (stored repeated)) := by
  rw [stored, dump, plain, dumpItems_eq_map, plainItems_eq_map, List.map_map]
  rfl

theorem stored_map (repeated : Bool) (entries : Entries Value) :
    stored repeated (.map entries) = .map (entries.map fun e => (e.1, stored repeated e.2)) := by
  rw [stored, dump, plain, dumpEntries_eq_map, plainEntries_eq_map, List.map_map]
  rfl

/-- The data of a record are those of its fields, by their names in data, and of its undeclared
    members. -/
theorem stored_record (repeated : Bool) (model : Model) (fields extra : Entries Value)
    (given : List String) : stored repeated (.record model fields extra given) =
      .map ((storedWith repeated).join
        (fields.map fun e => (Schema.wireOf model e.1, stored repeated e.2))
        (extra.map fun e => (e.1, stored repeated e.2))) := by
  rw [stored, dump, plain, dumpFields_stored, dumpExtra_eq_map rfl, plainEntries_eq_map]
  unfold DumpOptions.join
  split
  · rw [List.map_append, List.map_map, List.map_map]
    rfl
  · rw [Entries.merge_map_snd, List.map_map, List.map_map]
    rfl

theorem mem_join {o : DumpOptions} {fields extra : Entries Value} {e : String × Value}
    (h : e ∈ o.join fields extra) : e ∈ fields ∨ e ∈ extra := by
  unfold DumpOptions.join at h
  split at h
  · exact List.mem_append.1 h
  · exact Entries.mem_merge h

theorem printable_stored (repeated : Bool) {v : Value} (hv : Storable v) :
    Printable (stored repeated v) := by
  induction hv with
  | null => exact .null
  | bool b => exact .bool b
  | int hn => exact .int hn
  | float x => exact .float x
  | text s => exact .text s
  | symbol s => exact .symbol s
  | date d => exact .text _
  | dateTime t => exact .text _
  | list hitems ih =>
    rw [stored_list]
    refine .list fun w hw => ?_
    obtain ⟨v, hv, rfl⟩ := List.mem_map.1 hw
    exact ih v hv
  | map hentries ih =>
    rw [stored_map]
    refine .map fun w hw => ?_
    obtain ⟨e, he, rfl⟩ := List.mem_map.1 hw
    exact ih e he
  | record hnames hfields hextra ihFields ihExtra =>
    rw [stored_record]
    refine .map fun w hw => ?_
    rcases mem_join hw with hfield | hother
    · obtain ⟨e, he, rfl⟩ := List.mem_map.1 hfield
      exact ihFields e he
    · obtain ⟨e, he, rfl⟩ := List.mem_map.1 hother
      exact ihExtra e he

/-- **A repeated name is read once**: undeclared members that stand beside a field of their name read
    as if they replaced it. -/
theorem readAs_stored (l : Layout) {v : Value} (hv : Storable v) :
    readAs l (stored true v) = readAs l (stored false v) := by
  induction hv with
  | @list items hitems ih =>
    rw [stored_list, stored_list, readAs, readAs, readItemsAs_eq_map, readItemsAs_eq_map,
      List.map_map, List.map_map]
    exact congrArg Value.list (List.map_congr_left ih)
  | @map entries hentries ih =>
    rw [stored_map, stored_map, readAs, readAs, readMembersAs_eq_map, readMembersAs_eq_map,
      List.map_map, List.map_map]
    refine congrArg (fun es => Value.map (Entries.ofPairs es)) (List.map_congr_left fun e he => ?_)
    exact congrArg (Prod.mk e.1) (ih e he)
  | @record model fields extra given hnames hfields hextra ihFields ihExtra =>
    -- the parts read the same, and a name that is written later counts, at its first place
    have hfieldsRead : fields.map (fun e => (Schema.wireOf model e.1, readAs l (stored true e.2))) =
        fields.map fun e => (Schema.wireOf model e.1, readAs l (stored false e.2)) :=
      List.map_congr_left fun e he => congrArg (Prod.mk _) (ihFields e he)
    have hextraRead : extra.map (fun e => (e.1, readAs l (stored true e.2))) =
        extra.map fun e => (e.1, readAs l (stored false e.2)) :=
      List.map_congr_left fun e he => congrArg (Prod.mk _) (ihExtra e he)
    rw [stored_record, stored_record, readAs, readAs, readMembersAs_eq_map, readMembersAs_eq_map]
    have hrepeated (fields extra : Entries Value) :
        (storedWith true).join fields extra = fields ++ extra := rfl
    have hreplaced (fields extra : Entries Value) :
        (storedWith false).join fields extra = fields.merge extra := rfl
    rw [hrepeated, hreplaced, List.map_append, Entries.merge_map_snd, List.map_map, List.map_map,
      List.map_map, List.map_map]
    simp only [Function.comp_def]
    rw [hfieldsRead, hextraRead, Entries.ofPairs_append]
    have hfieldNames : Entries.names
        (fields.map fun e => (Schema.wireOf model e.1, readAs l (stored false e.2))) =
          fields.map fun e => Schema.wireOf model e.1 := by
      simp [Entries.names]
    rw [← hfieldNames] at hnames
    rw [Entries.ofPairs_eq_self hnames, Entries.ofPairs_eq_self (Entries.nodup_names_merge hnames)]
  | _ => rfl

end SearchClient.Record

namespace SearchClient.Client

open Http Json

/-! ## Lines -/

namespace Document

/-- A document that can be uploaded: a map of data that can be written, or a record that can be
    stored. -/
def Uploadable (d : Value) : Prop :=
  match d with
  | .map _ => IsJson d ∧ Printable d
  | .record .. => Record.Storable d
  | _ => False

/-- What the line of a document is to be read as: a map as itself, a record as its data. -/
def decoded (d : Value) : Value :=
  match d with
  | .record .. => readAs Layout.compact (Record.stored false d)
  | d => d

/-- The characters of a document that stand in its line as they are, if they are beyond ASCII: those
    of the data of a record. -/
def shown (d : Value) : List Char :=
  match d with
  | .record .. => characters (Record.stored true d)
  | _ => []

/-- A line that holds a document. -/
structure Framed (d : Value) (line : String) : Prop where
  reads : ∃ es, decoded d = .map es ∧ readText line.toList = .ok (.map es)
  isLine : Line false (shown d) line.toList
  braces : ∃ middle, line.toList = '{' :: middle ++ ['}']

theorem named_ofNamed (es : Entries Value) : Value.named (Value.ofNamed es) = .ok es := by
  induction es with
  | nil => rfl
  | cons e es ih =>
      show (Value.named (Value.ofNamed es) >>= fun rest => .ok ((e.1, e.2) :: rest)) = _
      rw [ih]
      rfl

/-- **Every document has a line** that holds it. -/
theorem exists_line {d : Value} (hd : Uploadable d) : ∃ text, line d = .ok text ∧ Framed d text := by
  cases d with
  | map es =>
    obtain ⟨hjson, hprintable⟩ := hd
    obtain ⟨cs, hwrite, hread, hline, hbraces⟩ :=
      exists_object Style.legible_body rfl hprintable
    rw [readAs_eq_self (by decide) hjson] at hread
    refine ⟨String.ofList cs, ?_, ⟨es, rfl, ?_⟩, ?_, ?_⟩
    · show entriesText (Value.ofNamed es) = _
      rw [entriesText, named_ofNamed]
      exact content_of_printable hprintable hwrite
    · rwa [String.toList_ofList]
    · rw [String.toList_ofList]
      exact hline.nothing_shown
    · rwa [String.toList_ofList]
  | record model fields extra given =>
    have hprintable := Record.printable_stored true hd
    have hsame := Record.readAs_stored Layout.compact hd
    obtain ⟨entries, hentries⟩ : ∃ entries, Record.stored true (.record model fields extra given) =
        .map entries := ⟨_, Record.stored_record true model fields extra given⟩
    rw [hentries] at hprintable hsame
    obtain ⟨cs, hwrite, hread, hline, hbraces⟩ :=
      exists_object Style.legible_compact rfl hprintable
    refine ⟨String.ofList cs, ?_, ⟨Entries.ofPairs (readMembersAs Layout.compact entries), ?_, ?_⟩,
      ?_, ?_⟩
    · have hstored : Record.dumpText? { byWire := true } (.record model fields extra given) =
          write? .compact (Record.stored true (.record model fields extra given)) := rfl
      simp only [line, hstored, hentries, hwrite]
    · exact hsame.symm
    · rw [String.toList_ofList]
      exact hread
    · rw [String.toList_ofList, shown, hentries]
      exact hline
    · rwa [String.toList_ofList]
  | _ => exact absurd hd not_false

theorem exists_lines {docs : List Value} (h : ∀ d ∈ docs, Uploadable d) :
    ∃ texts, lines docs = .ok texts ∧ List.Forall₂ Framed docs texts := by
  induction docs with
  | nil => exact ⟨[], rfl, List.Forall₂.nil⟩
  | cons d docs ih =>
      obtain ⟨hd, hdocs⟩ := List.forall_mem_cons.1 h
      obtain ⟨text, htext, hframed⟩ := exists_line hd
      obtain ⟨texts, htexts, hall⟩ := ih hdocs
      exact ⟨text :: texts, by rw [lines, htext, htexts]; rfl, List.Forall₂.cons hframed hall⟩

theorem exists_framed {docs : List Value} {texts : List String} (h : List.Forall₂ Framed docs texts)
    {text : String} (htext : text ∈ texts) : ∃ d ∈ docs, Framed d text := by
  induction h with
  | nil => exact absurd htext List.not_mem_nil
  | @cons d first docs texts hfirst _ ih =>
      rcases List.mem_cons.1 htext with rfl | hrest
      · exact ⟨d, List.mem_cons_self, hfirst⟩
      · obtain ⟨d', hd', hframed⟩ := ih hrest
        exact ⟨d', List.mem_cons_of_mem d hd', hframed⟩

end Document

namespace Operation

open Document

/-- The body of an upload is the lines of its documents with line feeds between them. -/
theorem exists_body_of_upload {documents : Value} {docs : List Value}
    (helements : documents.elements = .ok docs) (hdocs : ∀ d ∈ docs, Uploadable d)
    (index format primaryKey : Value) :
    ∃ c text texts, (addDocuments index documents format primaryKey).call = .ok c ∧
      Executor.bodyText c.body = .ok text ∧ List.Forall₂ Framed docs texts ∧
      text.toList = Text.joinOn '\n' (texts.map String.toList) := by
  obtain ⟨texts, htexts, hall⟩ := exists_lines hdocs
  have hlines : (documents.elements >>= Document.lines).mapError Failure.Problem.misuse =
      .ok texts := by
    rw [helements]
    exact congrArg (Except.mapError Failure.Problem.misuse) htexts
  refine ⟨_, "\n".intercalate texts, texts, bind_eq_ok_iff.2 ⟨texts, hlines, rfl⟩, rfl, hall, ?_⟩
  rw [String.toList_intercalate]
  exact Text.intercalate_eq_joinOn _

/-- The body of the request of an upload, as lines. -/
theorem lines_of_upload {documents : Value} {docs : List Value}
    (helements : documents.elements = .ok docs) (hdocs : ∀ d ∈ docs, Uploadable d) {x : Executor}
    {index format primaryKey : Value} {outcome : Outcome} {r : Request}
    (hr : r ∈ (((addDocuments index documents format primaryKey).plan x).run outcome).requests) :
    ∃ texts : List String, List.Forall₂ Framed docs texts ∧
      r.body.toList = Text.joinOn '\n' (texts.map String.toList) ∧
      ∀ part ∈ texts.map String.toList, '\n' ∉ part := by
  obtain ⟨c, text, texts, hc, htext, hall, hbody⟩ :=
    exists_body_of_upload helements hdocs index format primaryKey
  have hsame := body_of_mem hr hc
  rw [htext] at hsame
  refine ⟨texts, hall, by rw [← Except.ok.inj hsame, hbody], fun part hpart => ?_⟩
  obtain ⟨text, hmem, rfl⟩ := List.mem_map.1 hpart
  obtain ⟨d, -, hframed⟩ := exists_framed hall hmem
  exact hframed.isLine.notMem_lineFeed

/-- Where there are documents there are lines, so the body can be split into them. -/
theorem exists_lines_of_upload {documents : Value} {docs : List Value}
    (helements : documents.elements = .ok docs) (hne : docs ≠ [])
    (hdocs : ∀ d ∈ docs, Uploadable d) {x : Executor} {index format primaryKey : Value}
    {outcome : Outcome} {r : Request}
    (hr : r ∈ (((addDocuments index documents format primaryKey).plan x).run outcome).requests) :
    ∃ texts : List String, List.Forall₂ Framed docs texts ∧ texts ≠ [] ∧
      r.body.toList = Text.joinOn '\n' (texts.map String.toList) ∧
      ∀ part ∈ texts.map String.toList, '\n' ∉ part := by
  obtain ⟨texts, hall, hbody, hparts⟩ := lines_of_upload helements hdocs hr
  refine ⟨texts, hall, ?_, hbody, hparts⟩
  rintro rfl
  exact hne (List.forall₂_nil_right_iff.1 hall)

end Operation

open Document Operation

/-- **Uploads are framed by line feeds.** An upload of documents is sent, unless its address or a
    header is at fault; its body holds one line feed less than there are documents, and splits at
    them into one line for each document, in their order, that reads as the document. -/
theorem upload_framed {documents : Value} {docs : List Value}
    (helements : documents.elements = .ok docs) (hne : docs ≠ [])
    (hdocs : ∀ d ∈ docs, Uploadable d) (x : Executor) (index format primaryKey : Value)
    (outcome : Outcome) :
    let trace := ((addDocuments index documents format primaryKey).plan x).run outcome
    trace.Sent ∧ ∀ r ∈ trace.requests,
      r.body.toList.count '\n' + 1 = docs.length ∧
      List.Forall₂ (fun d line => ∃ es, decoded d = .map es ∧ readText line = .ok (.map es)) docs
        (Text.splitOn '\n' r.body.toList) := by
  intro trace
  refine ⟨?_, fun r hr => ?_⟩
  · obtain ⟨c, text, texts, hc, htext, -⟩ :=
      exists_body_of_upload helements hdocs index format primaryKey
    exact sent_of_bodyText hc htext outcome
  · obtain ⟨texts, hall, htexts, hbody, hfeedless⟩ := exists_lines_of_upload helements hne hdocs hr
    have hparts : texts.map String.toList ≠ [] := List.map_eq_nil_iff.not.2 htexts
    rw [hbody, Text.splitOn_joinOn hparts hfeedless, List.forall₂_map_right_iff]
    refine ⟨?_, hall.imp fun _ _ hframed => hframed.reads⟩
    rw [Text.count_joinOn hparts hfeedless, List.length_map, hall.length_eq]

/-- A map and a record whose texts hold line feeds, quotes, what is beyond ASCII and what is beyond
    the basic plane are sent on a line each, and read back. -/
theorem upload_framed_of_hard_texts :
    let book : Value := .map [("a\n\"", .list [.text "\\\u2028😀\u0001", .null])]
    let index : Value := .record .index [("id", .text "b\n"), ("primary_key", .null)]
      [("note", .text "\u2028😀\"")] ["id"]
    ∃ r ∈ (((addDocuments (.text "books") (.list [book, index]) .null .null).plan rootExecutor).run
        (.interrupted "" "")).requests,
      r.body = "\x7b\"a\\n\\\"\": [\"\\\\\\u2028\\ud83d\\ude00\\u0001\", null]\x7d\n" ++
        "\x7b\"id\":\"b\\n\",\"primaryKey\":null,\"note\":\"\u2028😀\\\"\"\x7d" ∧
      r.body.toList.count '\n' + 1 = 2 ∧
      List.Forall₂ (fun v line => readText line = .ok v)
        [book, .map [("id", .text "b\n"), ("primaryKey", .null), ("note", .text "\u2028😀\"")]]
        (Text.splitOn '\n' r.body.toList) := by
  intro book index
  have hbook : Uploadable book := by
    constructor
    · refine .map (by decide) (List.forall_mem_singleton.2 (.list ?_))
      exact List.forall_mem_cons.2 ⟨.text _, List.forall_mem_singleton.2 .null⟩
    · refine .map (List.forall_mem_singleton.2 (.list ?_))
      exact List.forall_mem_cons.2 ⟨.text _, List.forall_mem_singleton.2 .null⟩
  have hindex : Uploadable index := by
    refine .record (by decide) ?_ (List.forall_mem_singleton.2 (.text _))
    exact List.forall_mem_cons.2 ⟨.text _, List.forall_mem_singleton.2 .null⟩
  have hsent : (((addDocuments (.text "books") (.list [book, index]) .null .null).plan
      rootExecutor).run (.interrupted "" "")).requests.map (·.body) =
        ["\x7b\"a\\n\\\"\": [\"\\\\\\u2028\\ud83d\\ude00\\u0001\", null]\x7d\n" ++
          "\x7b\"id\":\"b\\n\",\"primaryKey\":null,\"note\":\"\u2028😀\\\"\"\x7d"] := by
    decide +kernel
  obtain ⟨r, hmem, hbody⟩ := Trace.exists_request hsent
  have helements : (Value.list [book, index]).elements = .ok [book, index] := rfl
  have hdocs : ∀ d ∈ [book, index], Uploadable d :=
    List.forall_mem_cons.2 ⟨hbook, List.forall_mem_singleton.2 hindex⟩
  obtain ⟨-, hframed⟩ := upload_framed helements (List.cons_ne_nil _ _) hdocs rootExecutor
    (.text "books") .null .null (.interrupted "" "")
  obtain ⟨hcount, hlines⟩ := hframed r hmem
  have hread : List.Forall₂ (fun v line => readText line = .ok v) ([book, index].map decoded)
      (Text.splitOn '\n' r.body.toList) := by
    rw [List.forall₂_map_left_iff]
    refine hlines.imp fun d line h => ?_
    obtain ⟨es, hes, hread⟩ := h
    rw [hes, hread]
  exact ⟨r, hmem, hbody, hcount, hread⟩

end SearchClient.Client
