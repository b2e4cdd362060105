import Mathlib
import SearchClient.Proofs.Lists
import SearchClient.Value.Entries

set_option autoImplicit false

/-! # Entries written one after the other

Writing pairs one after the other keeps every entry one of the pairs, and no name occurs twice. -/

namespace SearchClient

namespace Entries

variable {α β : Type}

theorem mem_put {es : Entries α} {name : String} {value : α} {e : String × α}
    (h : e ∈ es.put name value) : e ∈ es ∨ e = (name, value) := by
  induction es with
  | nil => exact Or.inr (List.mem_singleton.1 h)
  | cons first es ih =>
      unfold put at h
      split at h
      · next hname =>
        rw [hname] at h
        exact (List.mem_cons.1 h).elim Or.inr fun hrest => Or.inl (List.mem_cons_of_mem _ hrest)
      · rcases List.mem_cons.1 h with rfl | hrest
        · exact Or.inl List.mem_cons_self
        · exact (ih hrest).imp_left (List.mem_cons_of_mem _)

theorem nodup_names_put {es : Entries α} {name : String} {value : α} (h : es.names.Nodup) :
    (es.put name value).names.Nodup := by
  rw [names_put]
  split
  · exact h
  · next hnew => exact h.append (List.nodup_singleton name) (List.disjoint_singleton.2 hnew)

theorem mem_merge {es upper : Entries α} {e : String × α} (h : e ∈ es.merge upper) :
    e ∈ es ∨ e ∈ upper := by
  induction upper generalizing es with
  | nil => exact Or.inl h
  | cons first upper ih =>
      rcases ih h with hput | hrest
      · exact (mem_put hput).imp_right fun heq => List.mem_cons.2 (Or.inl heq)
      · exact Or.inr (List.mem_cons_of_mem first hrest)

theorem nodup_names_merge {es upper : Entries α} (h : es.names.Nodup) :
    (es.merge upper).names.Nodup := by
  induction upper generalizing es with
  | nil => exact h
  | cons first upper ih => exact ih (nodup_names_put h)

theorem has_put (es : Entries α) (name other : String) (value : α) :
    (es.put name value).has other = (decide (name = other) || es.has other) := by
  rw [has, get?_put]
  by_cases h : name = other <;> simp [h, has]

theorem has_cons (e : String × α) (es : Entries α) (name : String) :
    has (e :: es) name = (decide (e.1 = name) || es.has name) := by
  rw [has, get?]
  by_cases h : e.1 = name <;> simp [h, has]

/-- A name is there after writing exactly if it was there before or is written. -/
theorem has_merge (es upper : Entries α) (name : String) :
    (es.merge upper).has name = (es.has name || upper.has name) := by
  induction upper generalizing es with
  | nil => simp [merge, has, get?]
  | cons e upper ih =>
      have hstep : es.merge (e :: upper) = (es.put e.1 e.2).merge upper := rfl
      rw [hstep, ih, has_put, has_cons, Bool.or_comm (decide _), Bool.or_assoc]

theorem get?_eq_none_iff {es : Entries α} {name : String} :
    es.get? name = none ↔ name ∉ es.names := by
  rw [mem_names_iff, has, Bool.not_eq_true, Option.isSome_eq_false_iff, Option.isNone_iff_eq_none]

theorem get?_append (es later : Entries α) (name : String) :
    get? (es ++ later) name = (es.get? name).or (later.get? name) := by
  induction es with
  | nil => rfl
  | cons e es ih =>
      rw [List.cons_append, get?, get?, ih]
      split <;> rfl

theorem has_append (es later : Entries α) (name : String) :
    has (es ++ later) name = (es.has name || later.has name) := by
  rw [has, get?_append, Option.isSome_or, has, has]

theorem exists_name_iff {es : Entries α} {p : String → Prop} :
    (∃ name ∈ es.names, p name) ↔ ∃ e ∈ es, p e.1 := by
  simp only [names, List.mem_map, exists_exists_and_eq_and]

theorem any_name_eq_has (es : Entries α) (name : String) :
    (es.any fun e => decide (e.1 = name)) = es.has name := by
  induction es with
  | nil => rfl
  | cons e es ih => rw [List.any_cons, ih, has_cons]

theorem put_eq_append {es : Entries α} {name : String} {value : α} (h : name ∉ es.names) :
    es.put name value = es ++ [(name, value)] := by
  induction es with
  | nil => rfl
  | cons e es ih =>
      rw [names, List.map_cons, List.mem_cons, not_or] at h
      rw [put, if_neg (Ne.symm h.1), ih h.2, List.cons_append]

theorem put_concat {es : Entries α} {name : String} (h : name ∉ es.names) (u w : α) :
    put (es ++ [(name, u)]) name w = es ++ [(name, w)] := by
  induction es with
  | nil => simp [put]
  | cons e es ih =>
      rw [names, List.map_cons, List.mem_cons, not_or] at h
      rw [List.cons_append, put, if_neg (Ne.symm h.1), ih h.2, List.cons_append]

/-- Writing the same again changes nothing. -/
theorem put_put (es : Entries α) (name : String) (value : α) :
    (es.put name value).put name value = es.put name value := by
  induction es with
  | nil => simp [put]
  | cons e es ih =>
      by_cases h : e.1 = name
      · simp [put, h]
      · simp [put, h, ih]

/-- A name has the last value that is written under it, or else the one it had. -/
theorem get?_merge (es upper : Entries α) (name : String) :
    (es.merge upper).get? name = ((ofPairs upper).get? name).or (es.get? name) := by
  induction upper generalizing es with
  | nil => rfl
  | cons e upper ih =>
      have hstep : es.merge (e :: upper) = (es.put e.1 e.2).merge upper := rfl
      have hpairs : ofPairs (e :: upper) = merge [e] upper := rfl
      rw [hstep, hpairs, ih, ih, get?_put, Option.or_assoc]
      by_cases hname : e.1 = name <;> simp [get?, hname]

theorem mem_ofPairs {pairs : List (String × α)} {e : String × α} (h : e ∈ ofPairs pairs) :
    e ∈ pairs :=
  (mem_merge h).resolve_left List.not_mem_nil

theorem nodup_names_ofPairs (pairs : List (String × α)) : (ofPairs pairs).names.Nodup :=
  nodup_names_merge List.nodup_nil

theorem mem_of_get? {es : Entries α} {name : String} {v : α} (h : es.get? name = some v) :
    (name, v) ∈ es := by
  induction es with
  | nil => exact nomatch h
  | cons e es ih =>
      unfold get? at h
      split at h
      · next hname =>
        rw [← hname, ← Option.some.inj h]
        exact List.mem_cons_self
      · exact List.mem_cons_of_mem e (ih h)

theorem get?_of_mem {es : Entries α} (hnodup : es.names.Nodup) {name : String} {v : α}
    (h : (name, v) ∈ es) : es.get? name = some v := by
  induction es with
  | nil => exact absurd h List.not_mem_nil
  | cons e es ih =>
      obtain ⟨hnew, hrest⟩ := List.nodup_cons.1 hnodup
      rcases List.mem_cons.1 h with rfl | hmem
      · simp only [get?, if_true]
      · have hne : e.1 ≠ name := by
          rintro rfl
          exact hnew (List.mem_map.2 ⟨_, hmem, rfl⟩)
        rw [get?, if_neg hne, ih hrest hmem]

/-- The order of entries with distinct names does not count for what stands under a name. -/
theorem get?_of_perm {es other : Entries α} (h : es.Perm other)
    (hnodup : other.names.Nodup) (name : String) : es.get? name = other.get? name := by
  have hnames : es.names.Nodup := (h.map Prod.fst).nodup_iff.2 hnodup
  cases hget : other.get? name with
  | some v => exact get?_of_mem hnames (h.mem_iff.2 (mem_of_get? hget))
  | none =>
    cases hother : es.get? name with
    | none => rfl
    | some v =>
      rw [get?_of_mem hnodup (h.mem_iff.1 (mem_of_get? hother))] at hget
      exact nomatch hget

/-- A name that is not written keeps its value. -/
theorem get?_merge_of_notMem {es upper : Entries α} {name : String} (h : name ∉ upper.names) :
    (es.merge upper).get? name = es.get? name := by
  induction upper generalizing es with
  | nil => rfl
  | cons e upper ih =>
      rw [names, List.map_cons, List.mem_cons, not_or] at h
      have hstep : es.merge (e :: upper) = (es.put e.1 e.2).merge upper := rfl
      rw [hstep, ih h.2, get?_put, if_neg (Ne.symm h.1)]

/-- A name that is written once has the value that is written. -/
theorem get?_merge_of_mem {es upper : Entries α} (hnodup : upper.names.Nodup) {name : String} {v : α}
    (h : (name, v) ∈ upper) : (es.merge upper).get? name = some v := by
  induction upper generalizing es with
  | nil => exact absurd h List.not_mem_nil
  | cons e upper ih =>
      obtain ⟨hnew, hrest⟩ := List.nodup_cons.1 hnodup
      have hstep : es.merge (e :: upper) = (es.put e.1 e.2).merge upper := rfl
      rcases List.mem_cons.1 h with rfl | hmem
      · rw [hstep, get?_merge_of_notMem hnew, get?_put_self]
      · rw [hstep, ih hrest hmem]

theorem names_map_snd (f : α → β) (es : Entries α) :
    names (es.map fun e => (e.1, f e.2)) = es.names := by
  rw [names, List.map_map]
  rfl

theorem get?_map_snd (f : α → β) (es : Entries α) (name : String) :
    get? (es.map fun e => (e.1, f e.2)) name = (es.get? name).map f := by
  induction es with
  | nil => rfl
  | cons e es ih =>
      simp only [List.map_cons, get?]
      split
      · rfl
      · exact ih

/-! ## Leaving out and putting together -/

theorem get?_erase_of_ne {es : Entries α} {name other : String} (h : name ≠ other) :
    (es.erase name).get? other = es.get? other := by
  induction es with
  | nil => rfl
  | cons e es ih =>
      unfold erase at ih ⊢
      rw [List.filter_cons]
      split
      · rw [get?, get?, ih]
      · next hname =>
        have heq : e.1 = name := by simpa using hname
        rw [ih, get?, if_neg (heq ▸ h)]

theorem has_erase_of_ne {es : Entries α} {name other : String} (h : name ≠ other) :
    (es.erase name).has other = es.has other := by
  rw [has, get?_erase_of_ne h, has]

theorem notMem_names_erase (es : Entries α) (name : String) : name ∉ (es.erase name).names := by
  intro h
  obtain ⟨e, he, rfl⟩ := List.mem_map.1 h
  simpa using (List.mem_filter.1 he).2

/-- Entries with new names, none of them twice, are put behind the others. -/
theorem merge_eq_append {es upper : Entries α} (hnew : ∀ name ∈ upper.names, name ∉ es.names)
    (hnodup : upper.names.Nodup) : es.merge upper = es ++ upper := by
  induction upper generalizing es with
  | nil => exact (List.append_nil es).symm
  | cons e upper ih =>
      have hput : es.put e.1 e.2 = es ++ [e] := put_eq_append (hnew e.1 List.mem_cons_self)
      rw [names, List.map_cons, List.nodup_cons] at hnodup
      have hrest : ∀ name ∈ names upper, name ∉ names (es ++ [e]) := by
        intro name hname
        rw [names, List.map_append, List.mem_append, List.map_singleton, List.mem_singleton, not_or]
        refine ⟨hnew name (List.mem_cons_of_mem _ hname), ?_⟩
        rintro rfl
        exact hnodup.1 hname
      show merge (es.put e.1 e.2) upper = es ++ e :: upper
      rw [hput, ih hrest hnodup.2, List.append_assoc, List.singleton_append]

theorem put_map_snd (f : α → β) (es : Entries α) (name : String) (value : α) :
    (es.put name value).map (fun e => (e.1, f e.2)) =
      put (es.map fun e => (e.1, f e.2)) name (f value) := by
  induction es with
  | nil => rfl
  | cons e es ih =>
      simp only [put, List.map_cons]
      split
      · rfl
      · rw [List.map_cons, ih]

theorem merge_map_snd (f : α → β) (es upper : Entries α) :
    (es.merge upper).map (fun e => (e.1, f e.2)) =
      merge (es.map fun e => (e.1, f e.2)) (upper.map fun e => (e.1, f e.2)) := by
  induction upper generalizing es with
  | nil => rfl
  | cons e upper ih =>
      show (merge (es.put e.1 e.2) upper).map _ = merge (put _ e.1 (f e.2)) _
      rw [ih, put_map_snd]

theorem ofPairs_append (es upper : Entries α) :
    ofPairs (es ++ upper) = (ofPairs es).merge upper :=
  List.foldl_append

theorem ofPairs_eq_self {es : Entries α} (h : es.names.Nodup) : ofPairs es = es :=
  merge_eq_append (fun _ _ => List.not_mem_nil) h

/-! ## Pairs in which names occur more than once -/

theorem names_ofPairs (pairs : List (String × α)) :
    (ofPairs pairs).names = (pairs.map (·.1)).eraseDups := by
  induction pairs using List.reverseRecOn with
  | nil => rfl
  | append_singleton pairs p ih =>
      have hput : ofPairs (pairs ++ [p]) = (ofPairs pairs).put p.1 p.2 := ofPairs_append pairs [p]
      rw [hput, names_put, ih, List.map_append, List.map_singleton, eraseDups_concat]
      simp only [List.mem_eraseDups]

/-- Entries with distinct names are gone through name by name. -/
theorem filterMap_eq {es : Entries α} (hnodup : es.names.Nodup) (f : String × α → Option β) :
    es.filterMap f = es.names.filterMap fun name => (es.get? name).bind fun v => f (name, v) := by
  rw [names, List.filterMap_map]
  refine List.filterMap_congr fun e he => ?_
  rw [Function.comp_apply, get?_of_mem hnodup he, Option.bind_some]

theorem flatMap_eq {es : Entries α} (hnodup : es.names.Nodup) (f : String × α → List β) :
    es.flatMap f = es.names.flatMap fun name =>
      (es.get? name).elim [] fun v => f (name, v) := by
  rw [names, List.flatMap_map]
  refine List.flatMap_congr fun e he => ?_
  rw [get?_of_mem hnodup he, Option.elim_some]

/-! ## Names of a kind -/

section
variable (p : String → Bool)

theorem get?_filter (es : Entries α) (name : String) :
    get? (es.filter fun e => p e.1) name = if p name then es.get? name else none := by
  induction es with
  | nil => simp [get?]
  | cons e es ih =>
      by_cases hname : e.1 = name
      · subst hname
        by_cases hp : p e.1 <;> simp [hp, get?, ih]
      · by_cases hp : p e.1 <;> simp [hp, get?, hname, ih]

theorem filter_put (es : Entries α) (name : String) (value : α) :
    (es.put name value).filter (fun e => p e.1) =
      if p name then put (es.filter fun e => p e.1) name value else es.filter fun e => p e.1 := by
  induction es with
  | nil => by_cases hp : p name <;> simp [put, hp]
  | cons e es ih =>
      by_cases hname : e.1 = name
      · by_cases hp : p name <;> simp [put, hname, hp]
      · have hput : put (e :: es) name value = e :: put es name value := by simp [put, hname]
        rw [hput, List.filter_cons, List.filter_cons, ih]
        by_cases he : p e.1
        · by_cases hp : p name <;> simp [he, hp, put, hname]
        · simp [he]

/-- What is written under names of a kind is written over what was there under such names. -/
theorem filter_merge (es upper : Entries α) :
    (es.merge upper).filter (fun e => p e.1) =
      merge (es.filter fun e => p e.1) (upper.filter fun e => p e.1) := by
  induction upper generalizing es with
  | nil => rfl
  | cons e upper ih =>
      show (merge (es.put e.1 e.2) upper).filter _ = _
      rw [ih, filter_put, List.filter_cons]
      by_cases hp : p e.1
      · simp only [hp, if_true]
        rfl
      · simp only [hp, Bool.false_eq_true, if_false]

end

/-- Of entries with distinct names at most one has a given name. -/
theorem filter_name_eq {es : Entries α} (hnodup : es.names.Nodup) (name : String) :
    es.filter (fun e => decide (e.1 = name)) = ((es.get? name).map (name, ·)).toList := by
  induction es with
  | nil => rfl
  | cons e es ih =>
      obtain ⟨hnew, hrest⟩ := List.nodup_cons.1 hnodup
      by_cases hname : e.1 = name
      · subst hname
        have hnone : get? es e.1 = none := get?_eq_none_iff.2 hnew
        rw [List.filter_cons, ih hrest, hnone]
        simp [get?]
      · rw [List.filter_cons, ih hrest]
        simp [get?, hname]

end Entries

end SearchClient
