import Mathlib
import SearchClient.Client.Document
import SearchClient.Client.Operation
import SearchClient.Proofs.Except

set_option autoImplicit false

/-! # What can be written

A value has a JSON text exactly if no date, no octets and no record is anywhere in it
(`Json.Writable`, `Json.exists_write?_iff`), whatever the style. The content of a request must not
hold an integer that is too long besides (`Json.IsContent`). A document has a line exactly if it can be
read as entries that have names and can be such content, and a record exactly if its stored data can
be written (`Document.HasLine`); the same goes for the data of a body (`Document.HasData`).
Documents have lines together exactly if each of them has one. -/

namespace SearchClient

/-! ## Values -/

namespace Json

/-- Data that have a JSON text. -/
inductive Writable : Value → Prop
  | null : Writable .null
  | bool (b : Bool) : Writable (.bool b)
  | int (n : Int) : Writable (.int n)
  | float (x : Binary64) : Writable (.float x)
  | text (s : String) : Writable (.text s)
  | symbol (s : Symbol) : Writable (.symbol s)
  | list {items : List Value} (hitems : ∀ v ∈ items, Writable v) : Writable (.list items)
  | map {entries : Entries Value} (hentries : ∀ e ∈ entries, Writable e.2) :
      Writable (.map entries)
  | pair (name : String) {v : Value} (hv : Writable v) : Writable (.pair name v)

section

variable {style : Style}

mutual

theorem writable_of_writeValue {depth : Nat} :
    (v : Value) → ∀ {cs : List Char}, writeValue style depth v = some cs → Writable v
  | .null, _, _ => .null
  | .bool b, _, _ => .bool b
  | .int n, _, _ => .int n
  | .float x, _, _ => .float x
  | .text s, _, _ => .text s
  | .symbol s, _, _ => .symbol s
  | .list items, _, h => by
    obtain ⟨parts, hparts, -⟩ := Option.map_eq_some_iff.1 h
    exact .list (writable_of_writeItems items hparts)
  | .map entries, _, h => by
    obtain ⟨parts, hparts, -⟩ := Option.map_eq_some_iff.1 h
    exact .map (writable_of_writeMembers entries hparts)
  | .pair name v, _, h => by
    obtain ⟨part, hpart, -⟩ := Option.map_eq_some_iff.1 h
    exact .pair name (writable_of_writeValue v hpart)

theorem writable_of_writeItems {depth : Nat} : (items : List Value) →
    ∀ {parts : List (List Char)}, writeItems style depth items = some parts →
      ∀ v ∈ items, Writable v
  | [], _, _ => fun _ hv => absurd hv List.not_mem_nil
  | v :: items, _, h => by
    obtain ⟨part, hpart, h⟩ := Option.bind_eq_some_iff.1 h
    obtain ⟨parts, hparts, -⟩ := Option.bind_eq_some_iff.1 h
    exact List.forall_mem_cons.2
      ⟨writable_of_writeValue v hpart, writable_of_writeItems items hparts⟩

theorem writable_of_writeMembers {depth : Nat} : (entries : List (String × Value)) →
    ∀ {parts : List (List Char)}, writeMembers style depth entries = some parts →
      ∀ e ∈ entries, Writable e.2
  | [], _, _ => fun _ he => absurd he List.not_mem_nil
  | (name, v) :: entries, _, h => by
    obtain ⟨part, hpart, h⟩ := Option.bind_eq_some_iff.1 h
    obtain ⟨parts, hparts, -⟩ := Option.bind_eq_some_iff.1 h
    exact List.forall_mem_cons.2
      ⟨writable_of_writeValue v hpart, writable_of_writeMembers entries hparts⟩

end

theorem exists_itemTexts {depth : Nat} {items : List Value}
    (h : ∀ v ∈ items, ∃ cs, writeValue style depth v = some cs) :
    ∃ parts, writeItems style depth items = some parts := by
  induction items with
  | nil => exact ⟨[], rfl⟩
  | cons v items ih =>
      obtain ⟨⟨part, hpart⟩, hrest⟩ := List.forall_mem_cons.1 h
      obtain ⟨parts, hparts⟩ := ih hrest
      exact ⟨part :: parts, by rw [writeItems, hpart, hparts]; rfl⟩

theorem exists_memberTexts {depth : Nat} {entries : List (String × Value)}
    (h : ∀ e ∈ entries, ∃ cs, writeValue style depth e.2 = some cs) :
    ∃ parts, writeMembers style depth entries = some parts := by
  induction entries with
  | nil => exact ⟨[], rfl⟩
  | cons e entries ih =>
      obtain ⟨⟨part, hpart⟩, hrest⟩ := List.forall_mem_cons.1 h
      obtain ⟨parts, hparts⟩ := ih hrest
      exact ⟨(writeString style e.1 ++ style.colon.toList ++ part) :: parts, by
        rw [writeMembers, hpart, hparts]; rfl⟩

theorem Writable.exists_text (style : Style) {v : Value} (h : Writable v) :
    ∀ depth, ∃ cs, writeValue style depth v = some cs := by
  induction h with
  | bool b => exact fun _ => by cases b <;> exact ⟨_, rfl⟩
  | list _ ih =>
    intro depth
    obtain ⟨parts, hparts⟩ := exists_itemTexts fun v hv => ih v hv (depth + 1)
    exact ⟨_, Option.map_eq_some_iff.2 ⟨parts, hparts, rfl⟩⟩
  | map _ ih =>
    intro depth
    obtain ⟨parts, hparts⟩ := exists_memberTexts fun e he => ih e he (depth + 1)
    exact ⟨_, Option.map_eq_some_iff.2 ⟨parts, hparts, rfl⟩⟩
  | pair name _ ih =>
    intro depth
    obtain ⟨part, hpart⟩ := ih (depth + 1)
    exact ⟨_, Option.map_eq_some_iff.2 ⟨part, hpart, rfl⟩⟩
  | _ => exact fun _ => ⟨_, rfl⟩

/-- **What has a text.** A value can be written exactly if all its parts can, in whatever style. -/
theorem exists_write?_iff (style : Style) (v : Value) :
    (∃ s, write? style v = some s) ↔ Writable v := by
  constructor
  · rintro ⟨s, hs⟩
    obtain ⟨cs, hcs, -⟩ := Option.map_eq_some_iff.1 hs
    exact writable_of_writeValue v hcs
  · intro h
    obtain ⟨cs, hcs⟩ := h.exists_text style 0
    exact ⟨String.ofList cs, by rw [write?, hcs]; rfl⟩

theorem writable_list_iff {items : List Value} :
    Writable (.list items) ↔ ∀ v ∈ items, Writable v := by
  constructor
  · rintro (_ | _ | _ | _ | _ | _ | h)
    exact h
  · exact .list

theorem writable_map_iff {entries : Entries Value} :
    Writable (.map entries) ↔ ∀ e ∈ entries, Writable e.2 := by
  constructor
  · rintro (_ | _ | _ | _ | _ | _ | _ | h)
    exact h
  · exact .map

end

/-! ### Contents of requests -/

/-- Data that can be the content of a request: they have a text, and no integer in them is too long. -/
def IsContent (v : Value) : Prop :=
  Writable v ∧ v.isShort = true

theorem isContent_map_iff {entries : Entries Value} :
    IsContent (.map entries) ↔ ∀ e ∈ entries, IsContent e.2 := by
  simp only [IsContent, writable_map_iff, Value.isShort_map_iff, forall_and]

/-- Data are the content of a request exactly if they can be. -/
theorem exists_content_iff {v : Value} : (∃ s, content v = .ok s) ↔ IsContent v := by
  rw [IsContent, ← exists_write?_iff .body, content]
  cases write? .body v with
  | none => simp
  | some s => cases v.isShort <;> simp

/-- Data are no content for what they are, or for an integer that is too long. -/
theorem eq_of_content_error {v : Value} {m : Misuse} (h : content v = .error m) :
    m = .wrongType ∨ m = .tooLong ∧ v.isShort = false := by
  unfold content at h
  split at h
  · split at h
    · exact nomatch h
    · next hlong => exact Or.inr ⟨(Except.error.inj h).symm, Bool.eq_false_iff.2 hlong⟩
  · exact Or.inl (Except.error.inj h).symm

/-- Of data that have a text only the integers can be at fault. -/
theorem eq_tooLong_of_content {v : Value} (hv : Writable v) {m : Misuse}
    (h : content v = .error m) : m = .tooLong := by
  obtain ⟨s, hs⟩ := (exists_write?_iff .body v).2 hv
  unfold content at h
  rw [hs] at h
  dsimp only at h
  split at h
  · exact nomatch h
  · exact (Except.error.inj h).symm

end Json

open Json

/-! ## Entries -/

namespace Value

/-- A key that goes by a name in a JSON text. -/
def IsName : Value → Prop
  | .null | .bool _ | .float _ | .text _ | .symbol _ => True
  | .int n => Decimal.isShort n = true
  | _ => False

/-- Entries that can be the content of a request. -/
def IsObject (es : List (Value × Value)) : Prop :=
  ∀ e ∈ es, e.1.IsName ∧ IsContent e.2

theorem exists_keyName_iff (k : Value) : (∃ name, k.keyName = .ok name) ↔ k.IsName := by
  cases k with
  | null | bool | float | text | symbol => exact ⟨fun _ => trivial, fun _ => ⟨_, rfl⟩⟩
  | int n =>
    rw [IsName, keyName]
    cases Decimal.isShort n <;> simp
  | _ => exact ⟨fun ⟨_, h⟩ => (nomatch h), False.elim⟩

/-- Entries go by names exactly if their keys do, and keep their values. -/
theorem exists_named_iff {es : List (Value × Value)} :
    (∃ members, named es = .ok members ∧ IsContent (.map members)) ↔ IsObject es := by
  simp only [isContent_map_iff]
  induction es with
  | nil => exact ⟨fun _ _ he => absurd he List.not_mem_nil, fun _ => ⟨[], rfl, nofun⟩⟩
  | cons e es ih =>
      rw [IsObject, List.forall_mem_cons, ← IsObject, ← ih, ← exists_keyName_iff]
      constructor
      · rintro ⟨members, hmembers, hcontent⟩
        obtain ⟨name, hname, hmembers⟩ := bind_eq_ok_iff.1 hmembers
        obtain ⟨rest, hrest, hmembers⟩ := bind_eq_ok_iff.1 hmembers
        obtain rfl := Except.ok.inj hmembers
        obtain ⟨hfirst, hlater⟩ := List.forall_mem_cons.1 hcontent
        exact ⟨⟨⟨name, hname⟩, hfirst⟩, rest, hrest, hlater⟩
      · rintro ⟨⟨⟨name, hname⟩, hfirst⟩, rest, hrest, hlater⟩
        refine ⟨(name, e.2) :: rest, ?_, List.forall_mem_cons.2 ⟨hfirst, hlater⟩⟩
        exact bind_eq_ok_iff.2 ⟨name, hname, bind_eq_ok_iff.2 ⟨rest, hrest, rfl⟩⟩

/-- A map that is made of entries can be written exactly if the entries can. -/
theorem exists_object_iff {x : Except Misuse (List (Value × Value))} :
    (∃ v, (do return Value.map (← named (← x))) = Except.ok v ∧ IsContent v) ↔
      ∃ es, x = .ok es ∧ IsObject es := by
  simp only [← exists_named_iff]
  constructor
  · rintro ⟨v, hv, hcontent⟩
    obtain ⟨es, hes, hv⟩ := bind_eq_ok_iff.1 hv
    obtain ⟨members, hmembers, hv⟩ := bind_eq_ok_iff.1 hv
    obtain rfl := Except.ok.inj hv
    exact ⟨es, hes, members, hmembers, hcontent⟩
  · rintro ⟨es, hes, members, hmembers, hcontent⟩
    exact ⟨.map members, bind_eq_ok_iff.2 ⟨es, hes, bind_eq_ok_iff.2 ⟨members, hmembers, rfl⟩⟩,
      hcontent⟩

end Value

/-! ## Documents -/

namespace Client.Document

/-- A document that can be uploaded. -/
def HasLine (d : Value) : Prop :=
  match d with
  | .record .. => Writable (Record.plain (Record.dump { byWire := true, keepRepeated := true } d))
  | d => ∃ es, d.toPairs = .ok es ∧ Value.IsObject es

/-- Data that can be sent on their own. -/
def HasData (d : Value) : Prop :=
  ∃ es, entries d = .ok es ∧ Value.IsObject es

theorem exists_entriesText_iff {es : List (Value × Value)} :
    (∃ text, entriesText es = .ok text) ↔ Value.IsObject es := by
  rw [← Value.exists_named_iff]
  refine ⟨fun ⟨text, htext⟩ => ?_, fun ⟨members, hmembers, hcontent⟩ => ?_⟩
  · obtain ⟨members, hmembers, htext⟩ := bind_eq_ok_iff.1 htext
    exact ⟨members, hmembers, exists_content_iff.1 ⟨text, htext⟩⟩
  · obtain ⟨s, hs⟩ := exists_content_iff.2 hcontent
    exact ⟨s, bind_eq_ok_iff.2 ⟨members, hmembers, hs⟩⟩

theorem exists_line_iff (d : Value) : (∃ text, line d = .ok text) ↔ HasLine d := by
  have hentries : (∃ text, (d.toPairs >>= entriesText) = .ok text) ↔
      ∃ es, d.toPairs = .ok es ∧ Value.IsObject es := by
    simp only [bind_eq_ok_iff, ← exists_entriesText_iff]
    exact ⟨fun ⟨text, es, hes, h⟩ => ⟨es, hes, text, h⟩, fun ⟨es, hes, text, h⟩ => ⟨text, es, hes, h⟩⟩
  cases d with
  | record model fields extra given =>
    rw [HasLine, ← exists_write?_iff .compact]
    unfold line Record.dumpText?
    cases write? .compact _ <;> simp
  | _ => exact hentries

/-- **All lines or none.** Documents have lines exactly if each of them has one. -/
theorem exists_lines_iff {docs : List Value} :
    (∃ texts, lines docs = .ok texts) ↔ ∀ d ∈ docs, HasLine d := by
  induction docs with
  | nil => exact ⟨fun _ => nofun, fun _ => ⟨[], rfl⟩⟩
  | cons d docs ih =>
      rw [List.forall_mem_cons, ← ih, ← exists_line_iff]
      constructor
      · rintro ⟨texts, htexts⟩
        obtain ⟨first, hfirst, htexts⟩ := bind_eq_ok_iff.1 htexts
        obtain ⟨rest, hrest, -⟩ := bind_eq_ok_iff.1 htexts
        exact ⟨⟨first, hfirst⟩, rest, hrest⟩
      · rintro ⟨⟨first, hfirst⟩, rest, hrest⟩
        exact ⟨first :: rest, bind_eq_ok_iff.2 ⟨first, hfirst, bind_eq_ok_iff.2 ⟨rest, hrest, rfl⟩⟩⟩

/-- The data of a document can be written exactly if it has such. -/
theorem exists_data_iff (d : Value) :
    (∃ v, data d = .ok v ∧ IsContent v) ↔ HasData d :=
  Value.exists_object_iff

end Client.Document

end SearchClient
