import Mathlib
import SearchClient.Proofs.Leaves
import SearchClient.Yaml.Document

set_option autoImplicit false

/-! # Keywords of a configuration file

Mappings in a configuration file name nothing twice once they are read, and no value of one is a
record. So its keywords are as callers have them (`Settings.made_of_configKeywords`). -/

namespace SearchClient

namespace Yaml.Node

/-- A value that names nothing twice, and is no record. -/
structure Neat (v : Value) : Prop where
  nodup : ∀ es, v = .map es → (Entries.names es).Nodup
  noRecord : ∀ model fields extra given, v ≠ .record model fields extra given

/-- A build that keeps to neat values, and gives what is asked for. -/
def Keeps {α : Type} (p : α → Prop) (x : Building α) : Prop :=
  ∀ known a known', (∀ e ∈ known, Neat e.2) → x.run known = .ok (a, known') →
    p a ∧ ∀ e ∈ known', Neat e.2

section

variable {α β : Type} {p : α → Prop} {q : β → Prop}

theorem keeps_pure {a : α} (ha : p a) : Keeps p (pure a : Building α) := by
  intro known b known' hknown h
  obtain ⟨rfl, rfl⟩ := Prod.mk.inj (Except.ok.inj h)
  exact ⟨ha, hknown⟩

theorem keeps_throw (e : Fault) : Keeps p (throw e : Building α) :=
  fun _ _ _ _ h => nomatch h

theorem keeps_bind {x : Building α} {f : α → Building β} (hx : Keeps p x)
    (hf : ∀ a, p a → Keeps q (f a)) : Keeps q (x >>= f) := by
  intro known b known'' hknown h
  obtain ⟨⟨a, known'⟩, ha, hb⟩ := bind_eq_ok_iff.1 h
  obtain ⟨hpa, hknown'⟩ := hx _ _ _ hknown ha
  exact hf a hpa _ _ _ hknown' hb

theorem keeps_lift {x : Except Fault α} (hx : ∀ a, x = .ok a → p a) :
    Keeps p (liftM x : Building α) := by
  intro known a known' hknown h
  obtain ⟨b, hb, h⟩ := bind_eq_ok_iff.1 h
  obtain ⟨rfl, rfl⟩ := Prod.mk.inj (Except.ok.inj h)
  exact ⟨hx _ hb, hknown⟩

end

theorem keeps_get : Keeps (fun known => ∀ e ∈ known, Neat e.2) (get : Building _) := by
  intro known a known' hknown h
  obtain ⟨rfl, rfl⟩ := Prod.mk.inj (Except.ok.inj h)
  exact ⟨hknown, hknown⟩

theorem keeps_modify {number : Nat} {v : Value} (hv : Neat v) :
    Keeps (fun _ => True) (modify ((number, v) :: ·) : Building PUnit) := by
  intro known a known' hknown h
  obtain ⟨-, rfl⟩ := Prod.mk.inj (Except.ok.inj h)
  exact ⟨trivial, List.forall_mem_cons.2 ⟨hv, hknown⟩⟩

theorem mem_of_lookup {known : List (Nat × Value)} {number : Nat} {v : Value}
    (h : known.lookup number = some v) : ∃ e ∈ known, e.2 = v := by
  induction known with
  | nil => exact nomatch h
  | cons e known ih =>
      rw [List.lookup_cons] at h
      split at h
      · exact ⟨e, List.mem_cons_self, Option.some.inj h⟩
      · obtain ⟨d, hd, hv⟩ := ih h
        exact ⟨d, List.mem_cons_of_mem e hd, hv⟩

theorem keeps_once {number : Nat} {build : Building Value} (h : Keeps Neat build) :
    Keeps Neat (once number build) := by
  unfold once
  refine keeps_bind keeps_get fun known hknown => ?_
  split
  · next v hv =>
    obtain ⟨e, he, rfl⟩ := mem_of_lookup hv
    exact keeps_pure (hknown e he)
  · exact keeps_bind h fun v hv => keeps_bind (keeps_modify hv) fun _ _ => keeps_pure hv

theorem neat_of_time {s : String} {v : Value} (h : Scalar.time s = .ok v) : Neat v := by
  unfold Scalar.time at h
  split at h
  · exact nomatch h
  · obtain ⟨_, -, h⟩ := bind_eq_ok_iff.1 h
    obtain ⟨_, -, h⟩ := bind_eq_ok_iff.1 h
    obtain ⟨_, -, h⟩ := bind_eq_ok_iff.1 h
    obtain ⟨_, -, h⟩ := bind_eq_ok_iff.1 h
    split at h
    · rw [← Except.ok.inj h]
      exact ⟨by simp, by simp⟩
    · obtain ⟨_, -, h⟩ := bind_eq_ok_iff.1 h
      obtain ⟨_, -, h⟩ := bind_eq_ok_iff.1 h
      obtain ⟨_, -, h⟩ := bind_eq_ok_iff.1 h
      rw [← Except.ok.inj h]
      exact ⟨by simp, by simp⟩

theorem neat_of_scalar {tag : Tag} {s : String} {v : Value} (h : Scalar.value tag s = .ok v) :
    Neat v := by
  unfold Scalar.value at h
  split at h
  · rw [← Except.ok.inj h]
    exact ⟨by simp, by simp⟩
  · obtain ⟨b, -, rfl⟩ := map_eq_ok_iff.1 h
    exact ⟨by simp, by simp⟩
  · obtain ⟨n, -, rfl⟩ := map_eq_ok_iff.1 h
    exact ⟨by simp, by simp⟩
  · obtain ⟨x, -, rfl⟩ := map_eq_ok_iff.1 h
    exact ⟨by simp, by simp⟩
  · exact neat_of_time h
  · rw [← Except.ok.inj h]
    exact ⟨by simp, by simp⟩
  · rw [← Except.ok.inj h]
    exact ⟨by simp, by simp⟩
  · obtain ⟨bs, -, rfl⟩ := map_eq_ok_iff.1 h
    exact ⟨by simp, by simp⟩
  all_goals exact nomatch h

theorem neat_mappingOf (pairs : List (Value × Value)) : Neat (mappingOf pairs) where
  nodup es h := by
    rw [← Value.map.inj h]
    exact Entries.nodup_names_ofPairs _
  noRecord := by simp [mappingOf]

theorem neat_list (vs : List Value) : Neat (.list vs) where
  nodup := by simp
  noRecord := by simp

/-- Entries with neat values. -/
def NeatPairs (es : List (Value × Value)) : Prop :=
  ∀ e ∈ es, Neat e.2

mutual

theorem keeps_value : ∀ n : Node, Keeps Neat n.value
  | .scalar _ tag s => by
    unfold value
    exact keeps_lift fun v hv => neat_of_scalar hv
  | .sequence number tag items => by
    unfold value
    split
    · exact keeps_once (keeps_bind (keeps_values items) fun vs _ => keeps_pure (neat_list vs))
    · exact keeps_once (keeps_bind (keeps_singles items) fun vs _ => keeps_pure (neat_list vs))
    · exact keeps_once (keeps_bind (keeps_singles items) fun vs _ => keeps_pure (neat_list vs))
    · exact keeps_throw _
  | .mapping number tag entries => by
    unfold value
    split
    · exact keeps_once (keeps_bind (keeps_pairs entries) fun es _ => keeps_pure (neat_mappingOf _))
    · exact keeps_once (keeps_bind (keeps_pairs entries) fun es _ => keeps_pure (neat_list _))
    · exact keeps_bind (keeps_lift (p := fun _ => True) fun _ _ => trivial) fun s _ =>
        keeps_lift fun v hv => neat_of_scalar hv

theorem keeps_values : ∀ ns : List Node, Keeps (fun _ => True) (values ns)
  | [] => by
    unfold values
    exact keeps_pure trivial
  | n :: ns => by
    unfold values
    exact keeps_bind (keeps_value n) fun v _ => keeps_bind (keeps_values ns) fun vs _ =>
      keeps_pure trivial

theorem keeps_singles : ∀ ns : List Node, Keeps (fun _ => True) (singles ns)
  | [] => by
    unfold singles
    exact keeps_pure trivial
  | .mapping _ _ [(k, v)] :: ns => by
    unfold singles
    exact keeps_bind (keeps_value k) fun _ _ => keeps_bind (keeps_value v) fun _ _ =>
      keeps_bind (keeps_singles ns) fun _ _ => keeps_pure trivial
  | .scalar .. :: _ => by
    unfold singles
    exact keeps_throw _
  | .sequence .. :: _ => by
    unfold singles
    exact keeps_throw _
  | .mapping _ _ [] :: _ => by
    unfold singles
    exact keeps_throw _
  | .mapping _ _ (_ :: _ :: _) :: _ => by
    unfold singles
    exact keeps_throw _

theorem keeps_pairs : ∀ es : List (Node × Node),
    Keeps (fun p => NeatPairs p.1 ∧ NeatPairs p.2) (pairs es)
  | [] => by
    unfold pairs
    exact keeps_pure ⟨by simp [NeatPairs], by simp [NeatPairs]⟩
  | (k, v) :: es => by
    unfold pairs
    split
    · exact keeps_bind (keeps_mergedIn v) fun here hhere =>
        keeps_bind (keeps_pairs es) fun rest hrest =>
          keeps_pure ⟨List.forall_mem_append.2 ⟨hhere, hrest.1⟩, hrest.2⟩
    · exact keeps_bind (keeps_value k) fun _ _ => keeps_bind (keeps_value v) fun w hw =>
        keeps_bind (keeps_pairs es) fun rest hrest =>
          keeps_pure ⟨hrest.1, List.forall_mem_cons.2 ⟨hw, hrest.2⟩⟩

theorem keeps_mergedIn : ∀ n : Node, Keeps NeatPairs (mergedIn n)
  | .mapping _ _ entries => by
    unfold mergedIn
    exact keeps_bind (keeps_pairs entries) fun es hes =>
      keeps_pure (List.forall_mem_append.2 hes)
  | .sequence _ _ items => by
    unfold mergedIn
    exact keeps_mergedAll items
  | .scalar .. => by
    unfold mergedIn
    exact keeps_throw _

theorem keeps_mergedAll : ∀ ns : List Node, Keeps NeatPairs (mergedAll ns)
  | [] => by
    unfold mergedAll
    exact keeps_pure (by simp [NeatPairs])
  | .mapping _ _ entries :: ns => by
    unfold mergedAll
    exact keeps_bind (keeps_pairs entries) fun es hes =>
      keeps_bind (keeps_mergedAll ns) fun later hlater =>
        keeps_pure (List.forall_mem_append.2 ⟨hlater, List.forall_mem_append.2 hes⟩)
  | .scalar .. :: _ => by
    unfold mergedAll
    exact keeps_throw _
  | .sequence .. :: _ => by
    unfold mergedAll
    exact keeps_throw _

end

end Yaml.Node

open Yaml.Node in
/-- The values of a document that is a mapping are neat. -/
theorem Yaml.Document.neatPairs_of_read {cs : List Char} {es : List (Value × Value)}
    (h : Yaml.Document.read cs = .ok (.mapping es)) : NeatPairs es := by
  unfold Yaml.Document.read at h
  split at h
  · obtain ⟨n, -, h⟩ := bind_eq_ok_iff.1 h
    split at h
    · next n =>
      obtain ⟨_, -, h⟩ := bind_eq_ok_iff.1 h
      split at h
      · obtain ⟨⟨⟨merged, own⟩, known⟩, hpairs, h⟩ := bind_eq_ok_iff.1 h
        obtain rfl := Yaml.Document.mapping.inj (Except.ok.inj h)
        exact List.forall_mem_append.2
          (keeps_pairs _ _ _ _ (fun _ he => absurd he List.not_mem_nil) hpairs).1
      · obtain ⟨_, -, h⟩ := bind_eq_ok_iff.1 h
        exact nomatch h
    · exact nomatch h
  · exact nomatch h

namespace Settings

open Yaml.Node (Neat)

theorem mem_of_keywordsOfEntries {es : List (Value × Value)} {keywords : List (String × Value)}
    (h : keywordsOfEntries es = .ok keywords) {e : String × Value} (he : e ∈ keywords) :
    ∃ d ∈ es, d.2 = e.2 := by
  induction es generalizing keywords with
  | nil =>
      obtain rfl := Except.ok.inj h
      exact absurd he List.not_mem_nil
  | cons d es ih =>
      obtain ⟨k, v⟩ := d
      cases k with
      | text name =>
        obtain ⟨rest, hrest, rfl⟩ := map_eq_ok_iff.1 h
        rcases List.mem_cons.1 he with rfl | hmem
        · exact ⟨_, List.mem_cons_self, rfl⟩
        · obtain ⟨d, hd, hvalue⟩ := ih hrest hmem
          exact ⟨d, List.mem_cons_of_mem _ hd, hvalue⟩
      | _ => exact nomatch h

/-- The value of a keyword of a configuration file is neat. -/
theorem neat_of_configKeywords {h : Host} {path : String} {keywords : Entries Value}
    (hkeywords : configKeywords h path = .ok keywords) : ∀ e ∈ keywords, Neat e.2 := by
  unfold configKeywords at hkeywords
  split at hkeywords
  · obtain ⟨cs, -, hkeywords⟩ := bind_eq_ok_iff.1 hkeywords
    obtain ⟨document, hread, hkeywords⟩ := bind_eq_ok_iff.1 hkeywords
    rw [mapError_eq_ok_iff] at hread hkeywords
    cases document with
    | value v =>
      unfold keywordsOf at hkeywords
      dsimp only at hkeywords
      split at hkeywords
      · exact nomatch hkeywords
      · obtain rfl := Except.ok.inj hkeywords
        simp
    | mapping es =>
      obtain ⟨pairs, hpairs, rfl⟩ := map_eq_ok_iff.1 hkeywords
      intro e he
      obtain ⟨d, hd, hvalue⟩ := mem_of_keywordsOfEntries hpairs (Entries.mem_ofPairs he)
      exact hvalue ▸ Yaml.Document.neatPairs_of_read hread d hd
  all_goals exact nomatch hkeywords

/-- **Keywords of a configuration file** are as callers have them. -/
theorem made_of_configKeywords {h : Host} {path : String} {keywords : Entries Value}
    (hkeywords : configKeywords h path = .ok keywords) : Made keywords := by
  have hneat : ∀ v, keyword? keywords groupField.name = some v → Neat v := by
    intro v hv
    obtain ⟨e, he, rfl⟩ := Option.map_eq_some_iff.1 hv
    exact neat_of_configKeywords hkeywords e (List.mem_of_find?_eq_some he)
  exact ⟨fun es hes => (hneat _ hes).nodup es rfl,
    fun model fields extra given hrecord => absurd rfl ((hneat _ hrecord).noRecord _ _ _ _)⟩

end Settings

end SearchClient
