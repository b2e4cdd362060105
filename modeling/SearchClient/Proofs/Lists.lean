import Mathlib

set_option autoImplicit false

/-! # Lists

What singles an item out, lists that go along with each other item by item, and names without
their repetitions. -/

namespace SearchClient

variable {α β : Type}

/-! ## The item that counts -/

theorem findSome?_eq_of_only {f : α → Option β} {a : α} {b : β} {as : List α}
    (ha : a ∈ as) (hb : f a = some b) (hrest : ∀ c ∈ as, c ≠ a → f c = none) :
    as.findSome? f = some b := by
  induction as with
  | nil => exact absurd ha List.not_mem_nil
  | cons c as ih =>
      obtain ⟨hfirst, hmore⟩ := List.forall_mem_cons.1 hrest
      by_cases hc : c = a
      · rw [hc, List.findSome?_cons, hb]
      · rw [List.findSome?_cons, hfirst hc]
        exact ih ((List.mem_cons.1 ha).resolve_left (Ne.symm hc)) hmore

theorem head?_eq_of_mem_iff {as : List α} {x : Option α} (h : ∀ a, a ∈ as ↔ x = some a) :
    as.head? = x := by
  cases as with
  | nil =>
    cases x with
    | none => rfl
    | some a => exact absurd ((h a).2 rfl) List.not_mem_nil
  | cons a as => exact ((h a).1 List.mem_cons_self).symm

/-! ## Lists side by side -/

theorem exists_forall₂ {p : α → β → Prop} {as : List α} (h : ∀ a ∈ as, ∃ b, p a b) :
    ∃ bs, List.Forall₂ p as bs := by
  induction as with
  | nil => exact ⟨[], .nil⟩
  | cons a as ih =>
      obtain ⟨hfirst, hrest⟩ := List.forall_mem_cons.1 h
      obtain ⟨b, hb⟩ := hfirst
      obtain ⟨bs, hbs⟩ := ih hrest
      exact ⟨b :: bs, .cons hb hbs⟩

theorem exists_mem_of_forall₂ {p : α → β → Prop} {as : List α} {bs : List β}
    (h : List.Forall₂ p as bs) {a : α} (ha : a ∈ as) : ∃ b ∈ bs, p a b := by
  induction h with
  | nil => exact absurd ha List.not_mem_nil
  | cons hfirst _ ih =>
      rcases List.mem_cons.1 ha with rfl | hrest
      · exact ⟨_, List.mem_cons_self, hfirst⟩
      · obtain ⟨b, hb, hp⟩ := ih hrest
        exact ⟨b, List.mem_cons_of_mem _ hb, hp⟩

theorem forall₂_of_mapM_eq_some {f : α → Option β} {as : List α} {bs : List β}
    (h : as.mapM f = some bs) : List.Forall₂ (fun a b => f a = some b) as bs := by
  induction as generalizing bs with
  | nil =>
    obtain rfl := Option.some.inj h
    exact .nil
  | cons a as ih =>
      rw [List.mapM_cons] at h
      obtain ⟨b, hb, h⟩ := Option.bind_eq_some_iff.1 h
      obtain ⟨rest, hrest, h⟩ := Option.bind_eq_some_iff.1 h
      obtain rfl := Option.some.inj h
      exact .cons hb (ih hrest)

/-! ## Names without repetitions -/

theorem eraseDups_concat (names : List String) (name : String) :
    (names ++ [name]).eraseDups =
      if name ∈ names then names.eraseDups else names.eraseDups ++ [name] := by
  rw [List.eraseDups_append]
  by_cases hmem : name ∈ names
  · simp [List.removeAll, hmem]
  · simp [List.removeAll, hmem, List.eraseDups_cons]

theorem nodup_eraseDups (names : List String) : names.eraseDups.Nodup := by
  induction names using List.reverseRecOn with
  | nil => exact List.nodup_nil
  | append_singleton names name ih =>
      rw [eraseDups_concat]
      split
      · exact ih
      · next hnew =>
        rw [← List.concat_eq_append, List.nodup_concat]
        exact ⟨fun hmem => hnew (List.mem_eraseDups.1 hmem), ih⟩

end SearchClient
