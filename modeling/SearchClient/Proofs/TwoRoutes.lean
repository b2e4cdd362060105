import Mathlib
import SearchClient.Proofs.Proper
import SearchClient.Proofs.Uploading
import SearchClient.Proofs.Writing

set_option autoImplicit false

/-! # Records in both operations on documents

A record is uploaded as its stored text, and an update sends its data: the stored text keeps members
that are null and converts dates, octets and numbers outside the number line, the data of an update
do neither. So the update says what the line says, but for the members that are null because a field
is (`Value.withoutUnset`), exactly if no part of the record is such a value
(`Record.withoutUnset_lineData_eq_iff`). With a date or octets anywhere in it the update fails, and
with a number outside the number line it says something else (`Client.update_of_sent_line`). -/

namespace SearchClient

/-! ## Parts of values -/

namespace Value

mutual

/-- The parts of a value that are no lists, maps or records. -/
def leaves : Value → List Value
  | .list items => itemLeaves items
  | .map entries => memberLeaves entries
  | .pair _ v => leaves v
  | .record _ fields extra _ => memberLeaves fields ++ memberLeaves extra
  | v => [v]

/-- The parts of the items of a list. -/
def itemLeaves : List Value → List Value
  | [] => []
  | v :: items => leaves v ++ itemLeaves items

/-- The parts of the members of a map or record. -/
def memberLeaves : List (String × Value) → List Value
  | [] => []
  | (_, v) :: entries => leaves v ++ memberLeaves entries

end

/-- A value that no JSON text holds: the stored text of a record converts it. -/
def Foreign : Value → Prop
  | .date _ | .dateTime _ | .octets _ => True
  | _ => False

/-- A value that all JSON texts hold. -/
def Native : Value → Prop
  | .date _ | .dateTime _ | .octets _ => False
  | .float x => x.isFinite = true
  | _ => True

theorem Native.not_foreign {v : Value} (h : v.Native) : ¬v.Foreign := by
  cases v with
  | date | dateTime | octets => exact h.elim
  | _ => exact not_false

/-- The items of a list. -/
def items : Value → List Value
  | .list items => items
  | _ => []

/-- Whether a value is a record whose member of a name is null. -/
def isUnset : Value → String → Bool
  | .record model fields extra given, name =>
    ((record model fields extra given).namedMembers.get? name).any isNull
  | _, _ => false

mutual

/-- Data that a value is read back as, without the members that are null because a member of a
    record in the value is. -/
def withoutUnset : Value → Value → Value
  | v, .list items => .list (itemsWithoutUnset v.items items)
  | v, .map entries => .map (membersWithoutUnset v entries)
  | _, data => data

/-- The items of a list that items are read back as, without such members. -/
def itemsWithoutUnset : List Value → List Value → List Value
  | _, [] => []
  | vs, w :: ws => withoutUnset (vs.headD .null) w :: itemsWithoutUnset vs.tail ws

/-- The members of a map that a value is read back as, without such members. -/
def membersWithoutUnset : Value → List (String × Value) → List (String × Value)
  | _, [] => []
  | v, (name, w) :: entries =>
    if v.isUnset name then membersWithoutUnset v entries
    else (name, withoutUnset (.ofOption (v.namedMembers.get? name)) w) ::
      membersWithoutUnset v entries

end

theorem forall_itemLeaves_iff {p : Value → Prop} {items : List Value} :
    (∀ leaf ∈ itemLeaves items, p leaf) ↔ ∀ v ∈ items, ∀ leaf ∈ v.leaves, p leaf := by
  induction items with
  | nil => simp [itemLeaves]
  | cons v items ih => rw [itemLeaves, List.forall_mem_append, ih, List.forall_mem_cons]

theorem forall_memberLeaves_iff {p : Value → Prop} {entries : Entries Value} :
    (∀ leaf ∈ memberLeaves entries, p leaf) ↔ ∀ e ∈ entries, ∀ leaf ∈ e.2.leaves, p leaf := by
  induction entries with
  | nil => simp [memberLeaves]
  | cons e entries ih => rw [memberLeaves, List.forall_mem_append, ih, List.forall_mem_cons]

/-- The parts of a record are those of its members. -/
theorem forall_leaves_record_iff {p : Value → Prop} {model : Model} {fields extra : Entries Value}
    {given : List String} : (∀ leaf ∈ (record model fields extra given).leaves, p leaf) ↔
      ∀ e ∈ (record model fields extra given).namedMembers, ∀ leaf ∈ e.2.leaves, p leaf := by
  rw [leaves, namedMembers, List.forall_mem_append, List.forall_mem_append, forall_memberLeaves_iff,
    forall_memberLeaves_iff, List.forall_mem_map]

theorem itemsWithoutUnset_map (f : Value → Value) (items : List Value) :
    itemsWithoutUnset items (items.map f) = items.map fun v => v.withoutUnset (f v) := by
  induction items with
  | nil => rfl
  | cons v items ih =>
      rw [List.map_cons, itemsWithoutUnset, List.tail_cons, ih]
      rfl

/-- Members that are read one by one lose those that are unset. -/
theorem membersWithoutUnset_map {v : Value} (f : Value → Value) {entries : Entries Value}
    (h : ∀ e ∈ entries, v.namedMembers.get? e.1 = some e.2) :
    membersWithoutUnset v (entries.map fun e => (e.1, f e.2)) =
      (entries.filter fun e => !v.isUnset e.1).map fun e => (e.1, e.2.withoutUnset (f e.2)) := by
  induction entries with
  | nil => rfl
  | cons e entries ih =>
      obtain ⟨hfirst, hrest⟩ := List.forall_mem_cons.1 h
      rw [List.map_cons, membersWithoutUnset, ih hrest, hfirst, List.filter_cons]
      cases v.isUnset e.1 <;> rfl

end Value

/-! ## The data of both routes -/

namespace Record

open Json Value

/-- What the line of a record reads as. -/
def lineData (v : Value) : Value :=
  readAs Layout.compact (stored true v)

/-- What the body of an update by a record reads as. -/
def bodyData (v : Value) : Value :=
  readAs Layout.body (dump asSent v)

theorem stored_members (model : Model) (fields extra : Entries Value) (given : List String) :
    stored true (.record model fields extra given) =
      .map ((Value.record model fields extra given).namedMembers.map fun e =>
        (e.1, stored true e.2)) := by
  rw [stored_record, namedMembers, List.map_append, List.map_map]
  rfl

/-- An update sends the members that are not null. -/
theorem dump_members {model : Model} {fields extra : Entries Value} {given : List String}
    (hnames : (Value.record model fields extra given).namedMembers.names.Nodup) :
    dump asSent (.record model fields extra given) =
      .map (((Value.record model fields extra given).namedMembers.filter fun e =>
        !e.2.isNull).map fun e => (e.1, dump asSent e.2)) := by
  rw [dump, dumpFields_eq, dumpExtra_eq, namedMembers, List.filter_append, List.map_append]
  rw [namedMembers, Entries.names, List.map_append] at hnames
  obtain ⟨-, hextra, hapart⟩ := List.nodup_append.1 hnames
  refine congrArg Value.map (Entries.merge_eq_append ?_ ?_)
  · intro name hname hfield
    rw [Entries.names, List.map_map] at hname hfield
    exact hapart name ((List.filter_sublist.map _).subset hfield) name
      ((List.filter_sublist.map _).subset hname) rfl
  · rw [Entries.names, List.map_map]
    exact hextra.sublist (List.filter_sublist.map _)

/-! ## What can be written -/

/-- Octets that are stored are stored as the text that they are. -/
theorem exists_text_of_octets {bs : List UInt8} (h : Writable (stored true (.octets bs))) :
    ∃ s, stored true (.octets bs) = .text s := by
  have hstored : stored true (.octets bs) = plain (.octets bs) := rfl
  rw [hstored, plain] at h ⊢
  cases hdecode : Text.Utf8.decode bs with
  | ok cs => exact ⟨_, rfl⟩
  | error fault =>
    rw [hdecode] at h
    cases h

/-- The line of a record that has one can be read. -/
theorem printable_stored_of_writable {v : Value} (hv : Proper v) (h : Writable (stored true v)) :
    Printable (stored true v) := by
  induction hv with
  | null => exact .null
  | bool b => exact .bool b
  | int hn => exact .int hn
  | float x => exact .float x
  | text s => exact .text s
  | symbol s => exact .symbol s
  | date d => exact .text _
  | dateTime t => exact .text _
  | octets bs =>
    obtain ⟨s, hs⟩ := exists_text_of_octets h
    rw [hs]
    exact .text s
  | list hitems ih =>
    rw [stored_list] at h ⊢
    have hall := List.forall_mem_map.1 (writable_list_iff.1 h)
    exact .list (List.forall_mem_map.2 fun v hv => ih v hv (hall v hv))
  | map hnames hentries ih =>
    rw [stored_map] at h ⊢
    have hall := List.forall_mem_map.1 (writable_map_iff.1 h)
    exact .map (List.forall_mem_map.2 fun e he => ih e he (hall e he))
  | record hnames hmembers ih =>
    rw [stored_members] at h ⊢
    have hall := List.forall_mem_map.1 (writable_map_iff.1 h)
    exact .map (List.forall_mem_map.2 fun e he => ih e he (hall e he))

/-- Data of a record without foreign parts can be sent so that they read back. -/
theorem printable_dump {v : Value} (hv : Proper v) (h : ∀ leaf ∈ v.leaves, ¬leaf.Foreign) :
    Printable (dump asSent v) := by
  induction hv with
  | null => exact .null
  | bool b => exact .bool b
  | int hn => exact .int hn
  | float x => exact .float x
  | text s => exact .text s
  | symbol s => exact .symbol s
  | date d => exact absurd trivial (h _ (List.mem_singleton_self _))
  | dateTime t => exact absurd trivial (h _ (List.mem_singleton_self _))
  | octets bs => exact absurd trivial (h _ (List.mem_singleton_self _))
  | list hitems ih =>
    rw [leaves, forall_itemLeaves_iff] at h
    rw [dump, dumpItems_eq_map]
    exact .list (List.forall_mem_map.2 fun v hv => ih v hv (h v hv))
  | map hnames hentries ih =>
    rw [leaves, forall_memberLeaves_iff] at h
    rw [dump, dumpEntries_eq_map]
    exact .map (List.forall_mem_map.2 fun e he => ih e he (h e he))
  | record hnames hmembers ih =>
    rw [forall_leaves_record_iff] at h
    rw [dump_members hnames]
    refine .map (List.forall_mem_map.2 fun e he => ?_)
    have hmem := List.mem_of_mem_filter he
    exact ih e hmem (h e hmem)

/-- Data of a record that can be sent have no foreign parts: one that is null has none. -/
theorem not_foreign_of_writable {v : Value} (hv : Proper v) (h : Writable (dump asSent v)) :
    ∀ leaf ∈ v.leaves, ¬leaf.Foreign := by
  induction hv with
  | date d => exact nomatch h
  | dateTime t => exact nomatch h
  | octets bs => exact nomatch h
  | list hitems ih =>
    rw [dump, dumpItems_eq_map] at h
    have hall := List.forall_mem_map.1 (writable_list_iff.1 h)
    rw [leaves, forall_itemLeaves_iff]
    exact fun v hv => ih v hv (hall v hv)
  | map hnames hentries ih =>
    rw [dump, dumpEntries_eq_map] at h
    have hall := List.forall_mem_map.1 (writable_map_iff.1 h)
    rw [leaves, forall_memberLeaves_iff]
    exact fun e he => ih e he (hall e he)
  | record hnames hmembers ih =>
    rw [dump_members hnames] at h
    have hall := List.forall_mem_map.1 (writable_map_iff.1 h)
    rw [forall_leaves_record_iff]
    intro e he
    -- that the data can be written tells nothing of a member that is not sent
    cases hnull : e.2.isNull with
    | true =>
      rw [eq_null_of_isNull hnull]
      exact fun leaf hleaf => List.mem_singleton.1 hleaf ▸ not_false
    | false => exact ih e he (hall e (List.mem_filter.2 ⟨he, by simp [hnull]⟩))
  | _ => exact fun leaf hleaf => List.mem_singleton.1 hleaf ▸ not_false

/-! ## What is read -/

theorem readAs_map (l : Layout) {entries : Entries Value} (hnames : entries.names.Nodup) :
    readAs l (.map entries) = .map (entries.map fun e => (e.1, readAs l e.2)) := by
  rw [readAs, readMembersAs_eq_map, Entries.ofPairs_eq_self]
  rwa [Entries.names_map_snd]

theorem lineData_list (items : List Value) : lineData (.list items) = .list (items.map lineData) := by
  rw [lineData, stored_list, readAs, readItemsAs_eq_map, List.map_map]
  rfl

theorem lineData_map {entries : Entries Value} (hnames : entries.names.Nodup) :
    lineData (.map entries) = .map (entries.map fun e => (e.1, lineData e.2)) := by
  rw [lineData, stored_map, readAs_map _ (by rwa [Entries.names_map_snd]), List.map_map]
  rfl

theorem lineData_record {model : Model} {fields extra : Entries Value} {given : List String}
    (hnames : (Value.record model fields extra given).namedMembers.names.Nodup) :
    lineData (.record model fields extra given) =
      .map ((Value.record model fields extra given).namedMembers.map fun e => (e.1, lineData e.2)) := by
  rw [lineData, stored_members, readAs_map _ (by rwa [Entries.names_map_snd]), List.map_map]
  rfl

theorem bodyData_list (items : List Value) : bodyData (.list items) = .list (items.map bodyData) := by
  rw [bodyData, dump, dumpItems_eq_map, readAs, readItemsAs_eq_map, List.map_map]
  rfl

theorem bodyData_map {entries : Entries Value} (hnames : entries.names.Nodup) :
    bodyData (.map entries) = .map (entries.map fun e => (e.1, bodyData e.2)) := by
  rw [bodyData, dump, dumpEntries_eq_map, readAs_map _ (by rwa [Entries.names_map_snd]),
    List.map_map]
  rfl

theorem bodyData_record {model : Model} {fields extra : Entries Value} {given : List String}
    (hnames : (Value.record model fields extra given).namedMembers.names.Nodup) :
    bodyData (.record model fields extra given) =
      .map (((Value.record model fields extra given).namedMembers.filter fun e =>
        !e.2.isNull).map fun e => (e.1, bodyData e.2)) := by
  have hpresent : Entries.names ((Value.record model fields extra given).namedMembers.filter
      fun e => !e.2.isNull) |>.Nodup := hnames.sublist (List.filter_sublist.map _)
  rw [bodyData, dump_members hnames, readAs_map _ (by rwa [Entries.names_map_snd]), List.map_map]
  rfl

/-- A number reads as itself in a body, and in a line if it is finite. -/
theorem withoutUnset_float (x : Binary64) :
    (Value.float x).withoutUnset (lineData (.float x)) = bodyData (.float x) ↔ x.isFinite = true := by
  have hbody : bodyData (.float x) = .float x := readAs_eq_self (by decide) (.float x)
  have hline : lineData (.float x) = if x.isFinite then .float x else .null := by
    show readFloat Layout.compact x = _
    simp [readFloat, Layout.compact]
  rw [hbody, hline]
  cases x.isFinite with
  | true => exact iff_of_true rfl rfl
  | false => exact iff_of_false (by simp [withoutUnset]) Bool.false_ne_true

/-- What two readings make of the members that are not null is the same exactly if it is so wherever
    the parts show it: a member that is null shows nothing. -/
theorem present_map_eq_iff {members : Entries Value} (f g : Value → Value)
    (h : ∀ e ∈ members, f e.2 = g e.2 ↔ ∀ leaf ∈ e.2.leaves, leaf.Native) :
    (members.filter fun e => !e.2.isNull).map (fun e => (e.1, f e.2)) =
        (members.filter fun e => !e.2.isNull).map (fun e => (e.1, g e.2)) ↔
      ∀ e ∈ members, ∀ leaf ∈ e.2.leaves, leaf.Native := by
  rw [List.map_inj_left]
  constructor
  · intro hsame e he
    cases hnull : e.2.isNull with
    | true =>
      rw [eq_null_of_isNull hnull]
      exact fun leaf hleaf => List.mem_singleton.1 hleaf ▸ trivial
    | false =>
      exact (h e he).1 (Prod.mk_right_inj.1 (hsame e (List.mem_filter.2 ⟨he, by simp [hnull]⟩)))
  · intro hnative e hmem
    have he := List.mem_of_mem_filter hmem
    exact Prod.mk_right_inj.2 ((h e he).2 (hnative e he))

/-- **Where the routes agree.** What the line of a record reads as, without the members that are null
    because a field is, is what the body of an update by it reads as, exactly if no part of the
    record is a date, octets or a number outside the number line. -/
theorem withoutUnset_lineData_eq_iff {v : Value} (hv : Proper v) (hline : Writable (stored true v)) :
    v.withoutUnset (lineData v) = bodyData v ↔ ∀ leaf ∈ v.leaves, leaf.Native := by
  -- dates and octets read as texts on one side alone, whatever is around them
  induction hv with
  | float x =>
    show _ ↔ ∀ leaf ∈ [Value.float x], leaf.Native
    rw [withoutUnset_float, List.forall_mem_singleton]
    rfl
  | date d =>
    exact iff_of_false (fun h => nomatch h) fun h => h _ (List.mem_singleton_self _)
  | dateTime t =>
    exact iff_of_false (fun h => nomatch h) fun h => h _ (List.mem_singleton_self _)
  | octets bs =>
    obtain ⟨s, hs⟩ := exists_text_of_octets hline
    refine iff_of_false ?_ fun h => h _ (List.mem_singleton_self _)
    rw [lineData, hs]
    exact fun h => nomatch h
  | list hitems ih =>
    rw [stored_list] at hline
    have hall := List.forall_mem_map.1 (writable_list_iff.1 hline)
    rw [lineData_list, bodyData_list, withoutUnset, items, itemsWithoutUnset_map, leaves,
      forall_itemLeaves_iff, Value.list.injEq, List.map_inj_left]
    exact forall₂_congr fun v hv => ih v hv (hall v hv)
  | @map entries hnames hentries ih =>
    rw [stored_map] at hline
    have hall := List.forall_mem_map.1 (writable_map_iff.1 hline)
    have hget : ∀ e ∈ entries, (Value.map entries).namedMembers.get? e.1 = some e.2 :=
      fun e he => Entries.get?_of_mem hnames he
    have hset : entries.filter (fun e => !(Value.map entries).isUnset e.1) = entries :=
      List.filter_eq_self.2 fun _ _ => rfl
    rw [lineData_map hnames, bodyData_map hnames, withoutUnset, membersWithoutUnset_map lineData hget,
      hset, leaves, forall_memberLeaves_iff, Value.map.injEq, List.map_inj_left]
    exact forall₂_congr fun e he => Prod.mk_right_inj.trans (ih e he (hall e he))
  | @record model fields extra given hnames hmembers ih =>
    rw [stored_members] at hline
    have hall := List.forall_mem_map.1 (writable_map_iff.1 hline)
    have hget : ∀ e ∈ (Value.record model fields extra given).namedMembers,
        (Value.record model fields extra given).namedMembers.get? e.1 = some e.2 :=
      fun e he => Entries.get?_of_mem hnames he
    have hset : (Value.record model fields extra given).namedMembers.filter
          (fun e => !(Value.record model fields extra given).isUnset e.1) =
        (Value.record model fields extra given).namedMembers.filter fun e => !e.2.isNull :=
      List.filter_congr fun e he => by rw [isUnset, hget e he, Option.any_some]
    -- the members left out on the one side are those that are not sent on the other
    rw [lineData_record hnames, bodyData_record hnames, withoutUnset,
      membersWithoutUnset_map lineData hget, hset, forall_leaves_record_iff, Value.map.injEq]
    exact present_map_eq_iff (fun v => v.withoutUnset (lineData v)) bodyData
      fun e he => ih e he (hall e he)
  | _ => exact iff_of_true rfl fun leaf hleaf => List.mem_singleton.1 hleaf ▸ trivial

end Record

/-! ## Both operations -/

namespace Client

open Http Json Record

/-- The text of the line of a record is its stored data in compact style. -/
theorem Document.write?_of_line {model : Model} {fields extra : Entries Value} {given : List String}
    {text : String} (h : line (.record model fields extra given) = .ok text) :
    write? .compact (stored true (.record model fields extra given)) = some text := by
  have hstored : dumpText? { byWire := true } (.record model fields extra given) =
      write? .compact (stored true (.record model fields extra given)) := rfl
  simp only [line, hstored] at h
  split at h
  · next s hs => rw [hs, Except.ok.inj h]
  · cases h

/-- The line of a proper record reads as its data. -/
theorem Document.readText_of_line {model : Model} {fields extra : Entries Value}
    {given : List String} (hm : Proper (.record model fields extra given)) {text : String}
    (h : line (.record model fields extra given) = .ok text) :
    Writable (stored true (.record model fields extra given)) ∧
      readText text.toList = .ok (lineData (.record model fields extra given)) := by
  have hwrite := write?_of_line h
  have hwritable := (exists_write?_iff .compact _).1 ⟨text, hwrite⟩
  have hprintable := printable_stored_of_writable hm hwritable
  rw [stored_members] at hprintable hwrite
  obtain ⟨cs, hcs, hread, -⟩ := exists_object Style.legible_compact rfl hprintable
  rw [hcs] at hwrite
  obtain rfl := Option.some.inj hwrite
  refine ⟨hwritable, ?_⟩
  rw [String.toList_ofList, hread, lineData, stored_members]
  rfl

/-- The data of a record are those without what is null. -/
theorem Document.data_record {model : Model} {fields extra : Entries Value} {given : List String}
    (hnames : (Value.record model fields extra given).namedMembers.names.Nodup) :
    data (.record model fields extra given) = .ok (dump asSent (.record model fields extra given)) := by
  have hdump := dump_members hnames
  refine bind_eq_ok_iff.2 ⟨_, ?_, bind_eq_ok_iff.2 ⟨_, named_ofNamed _, by rw [hdump]; rfl⟩⟩
  show (dump asSent (.record model fields extra given)).toPairs = _
  rw [hdump]
  rfl

/-- An upload of one document that is sent has the line of the document as its body. -/
theorem Operation.line_of_upload {x : Executor} {index document format primaryKey : Value}
    {outcome : Outcome} {r : Request} (hr : r ∈ (((addDocuments index (.list [document]) format
      primaryKey).plan x).run outcome).requests) : Document.line document = .ok r.body := by
  obtain ⟨c, -, hc, -⟩ := request_of_mem hr
  have hbody := body_of_mem hr hc
  obtain ⟨texts, htexts, hcall⟩ := bind_eq_ok_iff.1 hc
  obtain ⟨docs, hdocs, hlines⟩ := bind_eq_ok_iff.1 (mapError_eq_ok_iff.1 htexts)
  obtain rfl : [document] = docs := Except.ok.inj hdocs
  obtain ⟨text, hline, hrest⟩ := bind_eq_ok_iff.1 hlines
  obtain rfl : [text] = texts := Except.ok.inj hrest
  obtain rfl := Except.ok.inj hcall
  rw [hline, ← Except.ok.inj hbody]
  rfl

open Document Operation

/-- What an update by a record sends is the data of the record. -/
theorem Operation.exists_call_of_update {model : Model} {fields extra : Entries Value}
    {given : List String}
    (hnames : (Value.record model fields extra given).namedMembers.names.Nodup)
    (index document : Value) :
    ∃ c, (updateDocument index document (.record model fields extra given)).call = .ok c ∧
      c.body = .json (dump asSent (.record model fields extra given)) :=
  ⟨_, bind_eq_ok_iff.2 ⟨_, mapError_eq_ok_iff.2 (data_record hnames), rfl⟩, rfl⟩

/-- A record without foreign parts is sent by an update, and its body can be read. -/
theorem Operation.body_of_update {model : Model} {fields extra : Entries Value} {given : List String}
    (hm : Proper (.record model fields extra given))
    (hnative : ∀ leaf ∈ (Value.record model fields extra given).leaves, ¬leaf.Foreign)
    (x : Executor) (index document : Value) (outcome : Outcome) :
    let trace := ((updateDocument index document (.record model fields extra given)).plan x).run
      outcome
    trace.Sent ∧ ∀ r ∈ trace.requests,
      readText r.body.toList = .ok (bodyData (.record model fields extra given)) := by
  intro trace
  have hprintable := printable_dump hm hnative
  cases hm with
  | record hnames hmembers =>
    obtain ⟨c, hc, hbody⟩ := exists_call_of_update hnames index document
    rw [dump_members hnames] at hbody hprintable
    obtain ⟨cs, hwrite, hread, -⟩ := exists_object Style.legible_body rfl hprintable
    have htext : Executor.bodyText c.body = .ok (String.ofList cs) := by
      rw [hbody, Executor.bodyText, content_of_printable hprintable hwrite]
      rfl
    refine ⟨sent_of_bodyText hc htext outcome, fun r hr => ?_⟩
    have hsame := body_of_mem hr hc
    rw [htext] at hsame
    rw [← Except.ok.inj hsame, String.toList_ofList, hread, bodyData, dump_members hnames]
    rfl

/-- A record with a foreign part is not sent by an update. -/
theorem Operation.fails_of_foreign {model : Model} {fields extra : Entries Value}
    {given : List String} (hm : Proper (.record model fields extra given))
    (hforeign : ∃ leaf ∈ (Value.record model fields extra given).leaves, leaf.Foreign)
    (x : Executor) (index document : Value) (outcome : Outcome) :
    (((updateDocument index document (.record model fields extra given)).plan x).run outcome).Fails
      (.misuse .wrongType) := by
  have hnone : write? .body (dump asSent (.record model fields extra given)) = none := by
    rw [Option.eq_none_iff_forall_ne_some]
    intro text htext
    obtain ⟨leaf, hmem, hleaf⟩ := hforeign
    exact not_foreign_of_writable hm ((exists_write?_iff .body _).1 ⟨text, htext⟩) leaf hmem hleaf
  cases hm with
  | record hnames hmembers =>
    obtain ⟨c, hc, hbody⟩ := exists_call_of_update hnames index document
    refine fails_of_bodyText hc ?_ outcome
    rw [hbody, Executor.bodyText, content, hnone]
    rfl

/-- **An update says what the line says**, exactly for records of native parts. Where the line of a
    record is sent, an update by the record without dates, octets and numbers outside the number
    line is sent, and its body reads as what the line reads as, without the members that are null
    because a field is. With a date or octets anywhere in the record nothing is sent, and with a
    number outside the number line, but none of these, something else is. -/
theorem update_of_sent_line {model : Model} {fields extra : Entries Value} {given : List String}
    (hm : Proper (.record model fields extra given)) {x : Executor}
    {index format primaryKey : Value} {outcome : Outcome} {sent : Request}
    (hsent : sent ∈ (((addDocuments index (.list [.record model fields extra given]) format
      primaryKey).plan x).run outcome).requests) (document : Value) :
    let m : Value := .record model fields extra given
    ∃ full, readText sent.body.toList = .ok full ∧ ∀ next,
      let trace := ((updateDocument index document m).plan x).run next
      ((∀ leaf ∈ m.leaves, leaf.Native) →
        trace.Sent ∧ ∀ r ∈ trace.requests, readText r.body.toList = .ok (m.withoutUnset full)) ∧
      ((∃ leaf ∈ m.leaves, leaf.Foreign) → trace.Fails (.misuse .wrongType)) ∧
      ((∀ leaf ∈ m.leaves, ¬leaf.Foreign) → (∃ leaf ∈ m.leaves, ¬leaf.Native) →
        trace.Sent ∧ ∀ r ∈ trace.requests, ∃ other, readText r.body.toList = .ok other ∧
          other ≠ m.withoutUnset full) := by
  intro m
  obtain ⟨hwritable, hread⟩ := readText_of_line hm (line_of_upload hsent)
  have hagree := withoutUnset_lineData_eq_iff hm hwritable
  -- both readings are known as data, so only the data are left to compare
  refine ⟨lineData m, hread, fun next => ⟨fun hnative => ?_, fun hforeign => ?_, ?_⟩⟩
  · obtain ⟨htrace, hbodies⟩ := body_of_update hm (fun leaf hleaf => (hnative leaf hleaf).not_foreign)
      x index document next
    refine ⟨htrace, fun r hr => ?_⟩
    rw [hbodies r hr, ← hagree.2 hnative]
  · exact fails_of_foreign hm hforeign x index document next
  · intro hnone hsome
    obtain ⟨htrace, hbodies⟩ := body_of_update hm hnone x index document next
    refine ⟨htrace, fun r hr => ⟨_, hbodies r hr, fun hsame => ?_⟩⟩
    obtain ⟨leaf, hleaf, hodd⟩ := hsome
    exact hodd (hagree.1 hsame.symm leaf hleaf)

/-- A record in a record, with members that are null in both, beside a map that keeps its null. -/
theorem update_of_sent_line_of_nested :
    let part : Value := .record .weighted
      [("value", .list [.float (.ofDecimal false 15 (-1)), .symbol (.category .notFound)]),
        ("boost", .null)] [] ["value"]
    let m : Value := .record .index [("id", .text "a"), ("primary_key", .null)]
      [("part", part), ("gone", .null), ("kept", .map [("gone", .null)])] ["id", "part", "gone", "kept"]
    ∃ sent ∈ (((addDocuments (.text "books") (.list [m]) .null .null).plan rootExecutor).run
        (.interrupted "" "")).requests,
      ∃ r ∈ (((updateDocument (.text "books") (.text "a") m).plan rootExecutor).run
          (.interrupted "" "")).requests,
        sent.body = "\x7b\"id\":\"a\",\"primaryKey\":null,\"part\":\x7b\"value\":[1.5,\"not_found\"]," ++
          "\"boost\":null\x7d,\"gone\":null,\"kept\":\x7b\"gone\":null\x7d\x7d" ∧
        r.body = "\x7b\"id\": \"a\", \"part\": \x7b\"value\": [1.5, \"not_found\"]\x7d, " ++
          "\"kept\": \x7b\"gone\": null\x7d\x7d" ∧
        ∃ full, readText sent.body.toList = .ok full ∧
          readText r.body.toList = .ok (m.withoutUnset full) := by
  intro part m
  have hvalue : Proper (.list [.float (.ofDecimal false 15 (-1)), .symbol (.category .notFound)]) :=
    .list (by simp [Proper.float, Proper.symbol])
  have hpart : Proper part := by
    have hcheck : check .weighted (.map [("value", .list [.float (.ofDecimal false 15 (-1)),
      .symbol (.category .notFound)])]) = .ok part := rfl
    exact proper_of_check (.map (by decide) (List.forall_mem_singleton.2 hvalue)) hcheck
  have hkept : Proper (.map [("gone", .null)]) :=
    .map (by decide) (List.forall_mem_singleton.2 .null)
  have hm : Proper m := by
    have hcheck : check .index (.map [("id", .text "a"), ("part", part), ("gone", .null),
      ("kept", .map [("gone", .null)])]) = .ok m := rfl
    refine proper_of_check (.map (by decide) ?_) hcheck
    simp [Proper.text, Proper.null, hpart, hkept]
  have hline : (((addDocuments (.text "books") (.list [m]) .null .null).plan rootExecutor).run
      (.interrupted "" "")).requests.map (·.body) =
        ["\x7b\"id\":\"a\",\"primaryKey\":null,\"part\":\x7b\"value\":[1.5,\"not_found\"]," ++
          "\"boost\":null\x7d,\"gone\":null,\"kept\":\x7b\"gone\":null\x7d\x7d"] := by
    decide +kernel
  have hupdate : (((updateDocument (.text "books") (.text "a") m).plan rootExecutor).run
      (.interrupted "" "")).requests.map (·.body) =
        ["\x7b\"id\": \"a\", \"part\": \x7b\"value\": [1.5, \"not_found\"]\x7d, " ++
          "\"kept\": \x7b\"gone\": null\x7d\x7d"] := by
    decide +kernel
  obtain ⟨sent, hsent, hsentBody⟩ := Trace.exists_request hline
  obtain ⟨r, hr, hbody⟩ := Trace.exists_request hupdate
  obtain ⟨full, hfull, hnext⟩ := update_of_sent_line hm hsent (.text "a")
  have hfinite : (Binary64.ofDecimal false 15 (-1)).isFinite = true := by decide +kernel
  have hnative : ∀ leaf ∈ m.leaves, leaf.Native := by
    simp [m, part, Value.leaves, Value.memberLeaves, Value.itemLeaves, Value.Native, hfinite]
  obtain ⟨-, hbodies⟩ := (hnext (.interrupted "" "")).1 hnative
  exact ⟨sent, hsent, r, hr, hsentBody, hbody, full, hfull, hbodies r hr⟩

/-- A date has a line but no update, and the update by a number outside the number line is not what
    its line is. -/
theorem update_differs_from_line :
    let dated : Value := .record .weighted [("value", .date ⟨2024, 1, 2⟩), ("boost", .null)] []
      ["value"]
    let odd : Value := .record .index [("id", .text "a"), ("primary_key", .null)]
      [("score", .float .nan)] ["id", "score"]
    let line (m : Value) := ((addDocuments (.text "books") (.list [m]) .null .null).plan
      rootExecutor).run (.interrupted "" "")
    let update (m : Value) := ((updateDocument (.text "books") (.text "a") m).plan
      rootExecutor).run (.interrupted "" "")
    ((line dated).requests.map (·.body) = ["\x7b\"value\":\"2024-01-02\",\"boost\":null\x7d"] ∧
        (update dated).Fails (.misuse .wrongType)) ∧
      (line odd).requests.map (·.body) =
          ["\x7b\"id\":\"a\",\"primaryKey\":null,\"score\":null\x7d"] ∧
        (update odd).requests.map (·.body) = ["\x7b\"id\": \"a\", \"score\": NaN\x7d"] ∧
        ∃ full other, (∀ r ∈ (line odd).requests, readText r.body.toList = .ok full) ∧
          (∀ r ∈ (update odd).requests, readText r.body.toList = .ok other) ∧
          other ≠ odd.withoutUnset full := by
  intro dated odd line update
  have hdated : Proper dated := by
    have hcheck : check .weighted (.map [("value", .date ⟨2024, 1, 2⟩)]) = .ok dated := rfl
    exact proper_of_check (.map (by decide) (List.forall_mem_singleton.2 (.date _))) hcheck
  have hodd : Proper odd := by
    have hcheck : check .index (.map [("id", .text "a"), ("score", .float .nan)]) = .ok odd := rfl
    exact proper_of_check (.map (by decide) (by simp [Proper.text, Proper.float])) hcheck
  have hdate : ∃ leaf ∈ dated.leaves, leaf.Foreign :=
    ⟨.date ⟨2024, 1, 2⟩, by simp [dated, Value.leaves, Value.memberLeaves], trivial⟩
  have hnan : (.float .nan : Value) ∈ odd.leaves := by
    simp [odd, Value.leaves, Value.memberLeaves]
  have hnone : ∀ leaf ∈ odd.leaves, ¬leaf.Foreign := by
    simp [odd, Value.leaves, Value.memberLeaves, Value.Foreign]
  have hline : (line odd).requests.map (·.body) =
      ["\x7b\"id\":\"a\",\"primaryKey\":null,\"score\":null\x7d"] := by
    decide +kernel
  obtain ⟨sent, hsent, -⟩ := Trace.exists_request hline
  obtain ⟨hwritable, -⟩ := readText_of_line hodd (line_of_upload hsent)
  obtain ⟨-, hbodies⟩ := body_of_update hodd hnone rootExecutor (.text "books") (.text "a")
    (.interrupted "" "")
  refine ⟨⟨by decide +kernel, fails_of_foreign hdated hdate _ _ _ _⟩, hline, by decide +kernel,
    lineData odd, bodyData odd, fun r hr => (readText_of_line hodd (line_of_upload hr)).2, hbodies, ?_⟩
  intro hsame
  exact absurd ((withoutUnset_lineData_eq_iff hodd hwritable).1 hsame.symm _ hnan)
    Bool.false_ne_true

end Client

end SearchClient
