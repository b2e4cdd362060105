import Mathlib
import SearchClient.Http.Executor
import SearchClient.Proofs.Entries
import SearchClient.Proofs.Except
import SearchClient.Proofs.NumberText

set_option autoImplicit false

/-! # Data of JSON texts

What a JSON text holds is null, a truth value, a number, a text, a list or a map with distinct names
of such (`IsJson`), and nothing else comes out of the reader: whatever property goes from parts to
the whole, all that is read has it (`Json.of_read`). Such data that count as present have a text that
is not empty. -/

namespace SearchClient

/-! ## Data -/

/-- The data that a JSON text can hold. -/
inductive IsJson : Value → Prop
  | null : IsJson .null
  | bool (b : Bool) : IsJson (.bool b)
  | int (n : Int) : IsJson (.int n)
  | float (x : Binary64) : IsJson (.float x)
  | text (s : String) : IsJson (.text s)
  | list {items : List Value} (hitems : ∀ v ∈ items, IsJson v) : IsJson (.list items)
  | map {entries : Entries Value} (hnames : entries.names.Nodup)
      (hentries : ∀ e ∈ entries, IsJson e.2) : IsJson (.map entries)

theorem IsJson.get? {entries : Entries Value} (h : IsJson (.map entries)) {name : String} {v : Value}
    (hget : entries.get? name = some v) : IsJson v := by
  cases h with
  | map hnames hentries => exact hentries _ (Entries.mem_of_get? hget)

theorem IsJson.eq_text {v : Value} (h : IsJson v) {s : String} (htext : v.asText? = some s) :
    v = .text s := by
  cases h with
  | text t => rw [Option.some.inj htext]
  | _ => exact nomatch htext

/-- **The text of data that count as present is not empty.** -/
theorem IsJson.displayText_ne_empty {v : Value} (h : IsJson v) (htruthy : v.truthy = true) :
    v.displayText ≠ "" := by
  have hdisplay : v.display ≠ [] := by
    cases h with
    | null => exact nomatch htruthy
    | bool b => cases b <;> simp [Value.display, Value.literal]
    | int n => exact Decimal.ofInt_ne_nil n
    | float x => exact Layout.render_plain_ne_nil x
    | text s => simpa [Value.truthy, Value.display] using htruthy
    | list => simp [Value.display, Value.literal]
    | map => simp [Value.display, Value.literal]
  intro hempty
  rw [Value.displayText] at hempty
  exact hdisplay (by simpa using congrArg String.toList hempty)

/-! ## The reader -/

namespace Json

/-- A property that goes from the parts of data to the whole; integers may be assumed not to be too
    long, and names not to occur twice. -/
structure Closed (p : Value → Prop) : Prop where
  null : p .null
  bool : ∀ b, p (.bool b)
  int : ∀ n : Int, Decimal.length n.natAbs ≤ Decimal.digitLimit → p (.int n)
  float : ∀ x, p (.float x)
  text : ∀ s, p (.text s)
  list : ∀ items : List Value, (∀ v ∈ items, p v) → p (.list items)
  map : ∀ entries : Entries Value, entries.names.Nodup → (∀ e ∈ entries, p e.2) → p (.map entries)

theorem closed_isJson : Closed IsJson where
  null := .null
  bool := .bool
  int n _ := .int n
  float := .float
  text := .text
  list _ := .list
  map _ := .map

section

variable {p : Value → Prop} (hp : Closed p)
include hp

theorem of_readMagnitude {negative : Bool} {cs rest : List Char} {v : Value}
    (h : readMagnitude negative cs = .ok (v, rest)) : p v := by
  unfold readMagnitude at h
  split at h
  · exact nomatch h
  · next whole after _ =>
    simp only [] at h
    split at h
    · next hfraction hexponent =>
      split at h
      · exact nomatch h
      · next hshort =>
        obtain ⟨rfl, -⟩ := Prod.mk.inj (Except.ok.inj h)
        refine hp.int _ ?_
        have hlength := Decimal.length_le_of_lt (Decimal.runValue_lt whole)
        simp only [hfraction, Option.map_none, Option.getD_none, List.append_nil]
        rw [Decimal.runValue] at hlength
        have hlimit : 1 ≤ Decimal.digitLimit := by decide
        have habs (n : Nat) : (if negative then -(n : Int) else n).natAbs = n := by
          split <;> simp
        rw [habs]
        omega
    · obtain ⟨rfl, -⟩ := Prod.mk.inj (Except.ok.inj h)
      exact hp.float _

theorem of_readScalar {cs rest : List Char} {v : Value} (h : readScalar cs = .ok (v, rest)) :
    p v := by
  unfold readScalar at h
  split at h
  · next w rest' hname =>
    obtain ⟨rfl, -⟩ := Prod.mk.inj (Except.ok.inj h)
    obtain ⟨entry, hentry, hread⟩ := List.exists_of_findSome?_eq_some hname
    obtain ⟨after, -, hpair⟩ := Option.map_eq_some_iff.1 hread
    obtain ⟨rfl, -⟩ := Prod.mk.inj hpair
    simp only [names, List.mem_cons, List.not_mem_nil, or_false] at hentry
    rcases hentry with rfl | rfl | rfl | rfl | rfl | rfl
    · exact hp.null
    · exact hp.bool true
    · exact hp.bool false
    · exact hp.float _
    · exact hp.float _
    · exact hp.float _
  · have hnumber := mapError_eq_ok_iff.1 h
    unfold readNumber at hnumber
    split at hnumber <;> exact of_readMagnitude hp hnumber

/-- What the readers of values, items and members give has the property. -/
theorem of_readers (fuel : Nat) :
    (∀ cs rest v, readValue fuel cs = .ok (v, rest) → p v) ∧
    (∀ cs rest vs, readItems fuel cs = .ok (vs, rest) → ∀ v ∈ vs, p v) ∧
    (∀ cs rest es, readMembers fuel cs = .ok (es, rest) → ∀ e ∈ es, p e.2) := by
  -- each reader calls the others with less fuel, so one induction carries all three
  induction fuel with
  | zero =>
      refine ⟨fun cs rest v h => ?_, fun cs rest vs h => ?_, fun cs rest es h => ?_⟩
      · exact nomatch h
      · exact nomatch h
      · exact nomatch h
  | succ fuel ih =>
      obtain ⟨hvalue, hitems, hmembers⟩ := ih
      refine ⟨fun cs rest v h => ?_, fun cs rest vs h => ?_, fun cs rest es h => ?_⟩
      · unfold readValue at h
        split at h
        · obtain ⟨⟨s, after⟩, -, hpair⟩ := map_eq_ok_iff.1 h
          obtain ⟨rfl, -⟩ := Prod.mk.inj hpair
          exact hp.text s
        · split at h
          · obtain ⟨rfl, -⟩ := Prod.mk.inj (Except.ok.inj h)
            exact hp.list [] (by simp)
          · obtain ⟨⟨vs, after⟩, hread, hpair⟩ := map_eq_ok_iff.1 h
            obtain ⟨rfl, -⟩ := Prod.mk.inj hpair
            exact hp.list _ (hitems _ _ vs hread)
        · split at h
          · obtain ⟨rfl, -⟩ := Prod.mk.inj (Except.ok.inj h)
            exact hp.map [] List.nodup_nil (by simp)
          · obtain ⟨⟨es, after⟩, hread, hpair⟩ := map_eq_ok_iff.1 h
            obtain ⟨rfl, -⟩ := Prod.mk.inj hpair
            exact hp.map _ (Entries.nodup_names_ofPairs es)
              fun e he => hmembers _ _ es hread e (Entries.mem_ofPairs he)
        · exact of_readScalar hp h
      · obtain ⟨⟨v, after⟩, hread, h⟩ := bind_eq_ok_iff.1 h
        have hv := hvalue _ _ v hread
        simp only [] at h
        split at h
        · obtain ⟨rfl, -⟩ := Prod.mk.inj (Except.ok.inj h)
          simpa using hv
        · obtain ⟨⟨vs', after'⟩, hmore, hpair⟩ := map_eq_ok_iff.1 h
          obtain ⟨rfl, -⟩ := Prod.mk.inj hpair
          exact List.forall_mem_cons.2 ⟨hv, hitems _ _ vs' hmore⟩
        · exact nomatch h
      · obtain ⟨⟨name, before⟩, -, h⟩ := bind_eq_ok_iff.1 h
        obtain ⟨⟨v, after⟩, hread, h⟩ := bind_eq_ok_iff.1 h
        have hv := hvalue _ _ v hread
        simp only [] at h
        split at h
        · obtain ⟨rfl, -⟩ := Prod.mk.inj (Except.ok.inj h)
          simpa using hv
        · obtain ⟨⟨es', after'⟩, hmore, hpair⟩ := map_eq_ok_iff.1 h
          obtain ⟨rfl, -⟩ := Prod.mk.inj hpair
          exact List.forall_mem_cons.2 ⟨hv, hmembers _ _ es' hmore⟩
        · exact nomatch h

/-- **What is read** has every property that goes from parts to the whole. -/
theorem of_read {cs : List Char} {v : Value} (h : read cs = .ok v) : p v := by
  obtain ⟨⟨w, rest⟩, hread, h⟩ := bind_eq_ok_iff.1 (mapError_eq_ok_iff.1 h)
  simp only [] at h
  split at h
  · obtain rfl := Except.ok.inj h
    exact (of_readers hp _).1 _ _ _ hread
  · exact nomatch h

end

end Json

theorem Http.Executor.of_decodeBody {p : Value → Prop} (hp : Json.Closed p) {body : List UInt8}
    {v : Value} (h : decodeBody body = .ok v) : p v := by
  obtain ⟨cs, -, h⟩ := bind_eq_ok_iff.1 h
  exact Json.of_read hp (mapError_eq_ok_iff.1 h)

theorem Http.Executor.isJson_of_decodeBody {body : List UInt8} {v : Value}
    (h : decodeBody body = .ok v) : IsJson v :=
  of_decodeBody Json.closed_isJson h

end SearchClient
