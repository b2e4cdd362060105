import Mathlib
import SearchClient.Proofs.JsonText
import SearchClient.Proofs.Surfaces
import SearchClient.Proofs.Writing

set_option autoImplicit false

/-! # Documents that are blamed

A document without a line is refused for a pair that is none, for an integer that is too long, or for
what it is. Documents are refused as the first one that has no line: for a pair exactly if that one is
blamed (`Client.Document.exists_notPair_lines_iff`), and never for an integer if they were read from a
text (`Client.Document.lines_ne_tooLong`). -/

namespace SearchClient

open Json Client.Document

/-! ## The first failure -/

/-- One of some values fails, and those before it pass. -/
inductive FailsFirst (passes fails : Value → Prop) : List Value → Prop
  | here {v : Value} (vs : List Value) (hv : fails v) : FailsFirst passes fails (v :: vs)
  | later {v : Value} {vs : List Value} (hv : passes v) (hvs : FailsFirst passes fails vs) :
      FailsFirst passes fails (v :: vs)

theorem failsFirst_cons_iff {passes fails : Value → Prop} {v : Value} {vs : List Value} :
    FailsFirst passes fails (v :: vs) ↔ fails v ∨ passes v ∧ FailsFirst passes fails vs := by
  constructor
  · rintro (⟨_, hv⟩ | ⟨hv, hvs⟩)
    · exact Or.inl hv
    · exact Or.inr ⟨hv, hvs⟩
  · rintro (hv | ⟨hv, hvs⟩)
    · exact .here vs hv
    · exact .later hv hvs

namespace Value

/-! ## Pairs -/

/-- A value that is read as a pair. -/
def IsPair (v : Value) : Prop :=
  ∃ key value, v.elements = .ok [key, value] ∧ key.isKey = true

/-- A value that can be gone through, but not as two values. -/
def IsOdd (v : Value) : Prop :=
  ∃ parts, v.elements = .ok parts ∧ parts.length ≠ 2

/-- A pair is blamed exactly if the first value that is none can be gone through, but has not two
    parts. -/
theorem exists_notPair_addPairs_iff {vs : List Value} {place : Nat} {es : List (Value × Value)} :
    (∃ n length, addPairs place es vs = .error (.notPair n length)) ↔
      FailsFirst IsPair IsOdd vs := by
  induction vs generalizing place es with
  | nil => exact iff_of_false (fun ⟨_, _, h⟩ => nomatch h) nofun
  | cons v vs ih =>
      rw [failsFirst_cons_iff, addPairs, IsPair, IsOdd]
      cases helements : v.elements with
      | error e =>
        obtain rfl := Client.eq_wrongType_of_elements helements
        simp [bind, Except.bind]
      | ok parts =>
        simp only [bind, Except.bind]
        split
        · next key value =>
          split
          · next hkey => simp [ih, hkey]
          · next hkey => simp [hkey, throw, throwThe, MonadExceptOf.throw]
        · next hother =>
          have hlength : parts.length ≠ 2 := by
            intro htwo
            obtain ⟨key, value, rfl⟩ := List.length_eq_two.1 htwo
            exact hother key value rfl
          simp [hlength, throw, throwThe, MonadExceptOf.throw]

/-! ### What pairs are made of -/

/-- What can be written can be written item by item. -/
theorem printable_elements {v : Value} (hv : Printable v) {items : List Value}
    (h : v.elements = .ok items) : ∀ w ∈ items, Printable w := by
  have htexts (s : String) : ∀ w ∈ characters s, Printable w :=
    List.forall_mem_map.2 fun c _ => .text _
  cases hv with
  | list hitems =>
    obtain rfl := Except.ok.inj h
    exact hitems
  | map hentries =>
    obtain rfl := Except.ok.inj h
    exact List.forall_mem_map.2 fun e _ => .text e.1
  | text s =>
    obtain rfl := Except.ok.inj h
    exact htexts s
  | symbol s =>
    obtain rfl := Except.ok.inj h
    exact htexts s.wire
  | _ => exact nomatch h

theorem forall_mem_putKey {p q : Value → Prop} {k v : Value} {es : List (Value × Value)}
    (hk : p k) (hv : q v) (hes : ∀ e ∈ es, p e.1 ∧ q e.2) :
    ∀ e ∈ putKey k v es, p e.1 ∧ q e.2 := by
  induction es with
  | nil => exact List.forall_mem_singleton.2 ⟨hk, hv⟩
  | cons e es ih =>
      obtain ⟨hfirst, hrest⟩ := List.forall_mem_cons.1 hes
      rw [putKey]
      split
      · exact List.forall_mem_cons.2 ⟨⟨hfirst.1, hv⟩, hrest⟩
      · exact List.forall_mem_cons.2 ⟨hfirst, ih hrest⟩

theorem printable_addPairs {vs : List Value} {place : Nat} {es es' : List (Value × Value)}
    (hes : ∀ e ∈ es, Printable e.1 ∧ Printable e.2) (hvs : ∀ v ∈ vs, Printable v)
    (h : addPairs place es vs = .ok es') : ∀ e ∈ es', Printable e.1 ∧ Printable e.2 := by
  induction vs generalizing place es with
  | nil =>
    obtain rfl := Except.ok.inj h
    exact hes
  | cons v vs ih =>
      obtain ⟨hv, hrest⟩ := List.forall_mem_cons.1 hvs
      obtain ⟨parts, hparts, h⟩ := bind_eq_ok_iff.1 h
      have hall := printable_elements hv hparts
      split at h
      · next key value =>
        simp only [List.forall_mem_cons] at hall
        split at h
        · exact ih (forall_mem_putKey hall.1 hall.2.1 hes) hrest h
        · exact nomatch h
      · exact nomatch h

theorem addPairs_ne_tooLong {vs : List Value} {place : Nat} {es : List (Value × Value)} :
    addPairs place es vs ≠ .error .tooLong := by
  induction vs generalizing place es with
  | nil => exact nofun
  | cons v vs ih =>
      intro h
      rcases bind_eq_error_iff.1 h with helements | ⟨parts, -, h⟩
      · exact nomatch Client.eq_wrongType_of_elements helements
      · split at h
        · split at h
          · exact ih h
          · exact nomatch h
        · exact nomatch h

/-! ### Names -/

/-- A key has no name for what it is, or for its length. -/
theorem eq_of_keyName_error {k : Value} {m : Misuse} (h : k.keyName = .error m) :
    m = .wrongType ∨ m = .tooLong ∧ k.isShort = false := by
  cases k with
  | int n =>
    rw [keyName] at h
    split at h
    · cases h
    · next hlong => exact Or.inr ⟨(Except.error.inj h).symm, Bool.eq_false_iff.2 hlong⟩
  | null | bool | float | text | symbol => cases h
  | _ => exact Or.inl (Except.error.inj h).symm

theorem exists_key_of_named {es : List (Value × Value)} {m : Misuse} (h : named es = .error m) :
    ∃ e ∈ es, e.1.keyName = .error m := by
  induction es with
  | nil => exact nomatch h
  | cons e es ih =>
      rcases bind_eq_error_iff.1 h with hname | ⟨_, -, h⟩
      · exact ⟨e, List.mem_cons_self, hname⟩
      · rcases bind_eq_error_iff.1 h with hrest | ⟨_, -, h⟩
        · obtain ⟨d, hd, hkey⟩ := ih hrest
          exact ⟨d, List.mem_cons_of_mem _ hd, hkey⟩
        · exact nomatch h

theorem exists_entry_of_named {es : List (Value × Value)} {members : Entries Value}
    (h : named es = .ok members) : ∀ e ∈ members, ∃ d ∈ es, d.2 = e.2 := by
  induction es generalizing members with
  | nil =>
    obtain rfl := Except.ok.inj h
    exact List.forall_mem_nil _
  | cons e es ih =>
      obtain ⟨name, -, h⟩ := bind_eq_ok_iff.1 h
      obtain ⟨rest, hnamed, h⟩ := bind_eq_ok_iff.1 h
      obtain rfl := Except.ok.inj h
      refine List.forall_mem_cons.2 ⟨⟨e, List.mem_cons_self, rfl⟩, fun d hd => ?_⟩
      obtain ⟨c, hc, hsame⟩ := ih hnamed d hd
      exact ⟨c, List.mem_cons_of_mem _ hc, hsame⟩

end Value

namespace Client.Document

/-! ## Lines -/

/-- Entries have no text for what is in them, or for an integer that is too long. -/
theorem eq_of_entriesText {es : List (Value × Value)} {m : Misuse} (h : entriesText es = .error m) :
    m = .wrongType ∨ m = .tooLong ∧ ∃ e ∈ es, e.1.isShort = false ∨ e.2.isShort = false := by
  rcases bind_eq_error_iff.1 h with hnamed | ⟨members, hnamed, h⟩
  · obtain ⟨e, he, hname⟩ := Value.exists_key_of_named hnamed
    exact (Value.eq_of_keyName_error hname).imp_right fun hlong => ⟨hlong.1, e, he, Or.inl hlong.2⟩
  · refine (eq_of_content_error h).imp_right fun ⟨hkind, hlong⟩ => ⟨hkind, ?_⟩
    rw [← Bool.not_eq_true, Value.isShort_map_iff] at hlong
    push Not at hlong
    obtain ⟨e, he, hshort⟩ := hlong
    obtain ⟨d, hd, hsame⟩ := Value.exists_entry_of_named hnamed e he
    exact ⟨d, hd, Or.inr (by rwa [hsame, ← Bool.not_eq_true])⟩

theorem entriesText_ne_notPair {es : List (Value × Value)} {place length : Nat} :
    entriesText es ≠ .error (.notPair place length) := by
  intro h
  rcases eq_of_entriesText h with hkind | ⟨hkind, -⟩ <;> exact nomatch hkind

theorem entriesText_ne_tooLong {es : List (Value × Value)}
    (hes : ∀ e ∈ es, Printable e.1 ∧ Printable e.2) : entriesText es ≠ .error .tooLong := by
  intro h
  rcases eq_of_entriesText h with hkind | ⟨-, e, he, hlong⟩
  · exact nomatch hkind
  · obtain ⟨hkey, hvalue⟩ := hes e he
    rw [hkey.isShort, hvalue.isShort] at hlong
    simp at hlong

/-- A document that is blamed: no object, but a sequence in which something stands for a pair that
    is none. -/
def IsBlamed (d : Value) : Prop :=
  (∀ es, d ≠ .map es) ∧ ∃ items, d.elements = .ok items ∧ FailsFirst Value.IsPair Value.IsOdd items

/-- Going on to the text of entries blames no pair. -/
theorem exists_notPair_bind_iff {pairs : Except Misuse (List (Value × Value))} :
    (∃ place length, (pairs >>= entriesText) = .error (.notPair place length)) ↔
      ∃ place length, pairs = .error (.notPair place length) := by
  constructor
  · rintro ⟨place, length, h⟩
    rcases bind_eq_error_iff.1 h with hpairs | ⟨es, -, htext⟩
    · exact ⟨place, length, hpairs⟩
    · exact absurd htext entriesText_ne_notPair
  · rintro ⟨place, length, h⟩
    exact ⟨place, length, bind_eq_error_iff.2 (Or.inl h)⟩

theorem exists_notPair_line_iff {d : Value} (hd : IsJson d) :
    (∃ place length, line d = .error (.notPair place length)) ↔ IsBlamed d := by
  have hsequence (hmap : ∀ es, d ≠ .map es)
      (hline : line d = d.elements >>= Value.addPairs 0 [] >>= entriesText) :
      (∃ place length, line d = .error (.notPair place length)) ↔ IsBlamed d := by
    rw [hline, exists_notPair_bind_iff, IsBlamed, and_iff_right hmap]
    cases helements : d.elements with
    | error m =>
      obtain rfl := eq_wrongType_of_elements helements
      simp [bind, Except.bind]
    | ok items => simpa [bind, Except.bind] using Value.exists_notPair_addPairs_iff
  cases hd with
  | @map es _ _ =>
    exact iff_of_false (fun ⟨_, _, h⟩ => entriesText_ne_notPair h) fun h => h.1 es rfl
  | _ => exact hsequence nofun rfl

/-- Data whose integers can all be written are not refused for one. -/
theorem line_ne_tooLong {d : Value} (hd : Printable d) : line d ≠ .error .tooLong := by
  intro h
  have hsequence (hline : line d = d.elements >>= Value.addPairs 0 [] >>= entriesText) : False := by
    rw [hline] at h
    rcases bind_eq_error_iff.1 h with hpairs | ⟨es, hpairs, htext⟩
    · rcases bind_eq_error_iff.1 hpairs with helements | ⟨items, -, hadd⟩
      · exact nomatch eq_wrongType_of_elements helements
      · exact Value.addPairs_ne_tooLong hadd
    · obtain ⟨items, helements, hadd⟩ := bind_eq_ok_iff.1 hpairs
      exact entriesText_ne_tooLong
        (Value.printable_addPairs (List.forall_mem_nil _)
          (Value.printable_elements hd helements) hadd) htext
  cases hd with
  | @map es hentries =>
    have hnamed : ∀ e ∈ Value.ofNamed es, Printable e.1 ∧ Printable e.2 :=
      List.forall_mem_map.2 fun e he => ⟨.text e.1, hentries e he⟩
    exact entriesText_ne_tooLong hnamed h
  | _ => exact hsequence rfl

theorem exists_line_of_lines {docs : List Value} {m : Misuse} (h : lines docs = .error m) :
    ∃ d ∈ docs, line d = .error m := by
  induction docs with
  | nil => exact nomatch h
  | cons d docs ih =>
      rcases bind_eq_error_iff.1 h with hfirst | ⟨_, -, h⟩
      · exact ⟨d, List.mem_cons_self, hfirst⟩
      · rcases bind_eq_error_iff.1 h with hrest | ⟨_, -, h⟩
        · obtain ⟨d', hd', hline⟩ := ih hrest
          exact ⟨d', List.mem_cons_of_mem _ hd', hline⟩
        · exact nomatch h

theorem lines_ne_tooLong {docs : List Value} (hdocs : ∀ d ∈ docs, Printable d) :
    lines docs ≠ .error .tooLong := by
  intro h
  obtain ⟨d, hd, hline⟩ := exists_line_of_lines h
  exact line_ne_tooLong (hdocs d hd) hline

/-- **Blame.** Documents are blamed for a pair exactly if the first one that has no line is. -/
theorem exists_notPair_lines_iff {docs : List Value} (hdocs : ∀ d ∈ docs, IsJson d) :
    (∃ place length, lines docs = .error (.notPair place length)) ↔
      FailsFirst HasLine IsBlamed docs := by
  induction docs with
  | nil => exact iff_of_false (fun ⟨_, _, h⟩ => nomatch h) nofun
  | cons d docs ih =>
      obtain ⟨hd, hrest⟩ := List.forall_mem_cons.1 hdocs
      rw [failsFirst_cons_iff, ← ih hrest, ← exists_notPair_line_iff hd, ← exists_line_iff, lines]
      cases hline : line d with
      | error m => simp [bind, Except.bind]
      | ok text =>
        cases hlines : lines docs with
        | error m => simp [bind, Except.bind]
        | ok texts => simp [bind, Except.bind, pure, Except.pure]

end Client.Document

end SearchClient
