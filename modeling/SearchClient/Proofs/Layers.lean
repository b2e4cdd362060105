import Mathlib
import SearchClient.Proofs.Entries
import SearchClient.Settings.Layer

set_option autoImplicit false

/-! # Layers of settings, name by name

Where one layer lies over another, each name has what the upper layer says over what the lower one
says (`get?_overlay`): the upper layer counts, and where it says nothing the lower one, up to what
maps hold (`map_hollow_stacked`). -/

namespace SearchClient.Settings

/-! ## What lies over what -/

/-- What stands in a place where one layer lies over another one. -/
def stacked (low high : Option Value) : Option Value :=
  match high with
  | some v => some (written low v)
  | none => low

/-- A value up to what a map holds. -/
def hollow : Value → Value
  | .map _ => .map []
  | v => v

theorem hollow_cases (v : Value) : (∃ es, v = .map es) ∨ hollow v = v := by
  cases v with
  | map es => exact Or.inl ⟨es, rfl⟩
  | _ => exact Or.inr rfl

theorem hollow_written (low : Option Value) (v : Value) : hollow (written low v) = hollow v := by
  cases v with
  | map high =>
      unfold written
      split <;> rfl
  | _ => rfl

theorem map_hollow_map_hollow (v : Option Value) : (v.map hollow).map hollow = v.map hollow := by
  rcases v with _ | v
  · rfl
  · cases v <;> rfl

/-- Up to what maps hold, the upper layer counts, and else the lower one. -/
theorem map_hollow_stacked (low high : Option Value) :
    (stacked low high).map hollow = (high.map hollow).or (low.map hollow) := by
  cases high with
  | none => rfl
  | some v => simp [stacked, hollow_written]

theorem written_none (v : Value) : written none v = v := by
  cases v <;> rfl

theorem overlay_cons (low : Entries Value) (e : String × Value) (high : Entries Value) :
    overlay low (e :: high) = overlay (low.put e.1 (written (low.get? e.1) e.2)) high := rfl

/-- **A layer over another one** says of each name what it does by itself over what the other says. -/
theorem get?_overlay {low high : Entries Value} (hnodup : high.names.Nodup) (name : String) :
    (overlay low high).get? name = stacked (low.get? name) (high.get? name) := by
  induction high generalizing low with
  | nil => rfl
  | cons e high ih =>
      obtain ⟨hnew, hrest⟩ := List.nodup_cons.1 hnodup
      rw [overlay_cons, ih hrest, Entries.get?_put, Entries.get?]
      by_cases hname : e.1 = name
      · have hnone : Entries.get? high name = none :=
          Entries.get?_eq_none_iff.2 (hname ▸ hnew)
        simp [hname, hnone, stacked]
      · simp [hname]

theorem has_overlay (low high : Entries Value) (name : String) :
    (overlay low high).has name = (low.has name || high.has name) := by
  induction high generalizing low with
  | nil => simp [overlay, Entries.has, Entries.get?]
  | cons e high ih =>
      rw [overlay_cons, ih, Entries.has_put, Entries.has_cons, Bool.or_comm (decide _), Bool.or_assoc]

/-- What is said under names of a kind lies over what was said under such names. -/
theorem filter_overlay (p : String → Bool) (low high : Entries Value) :
    (overlay low high).filter (fun e => p e.1) =
      overlay (low.filter fun e => p e.1) (high.filter fun e => p e.1) := by
  induction high generalizing low with
  | nil => rfl
  | cons e high ih =>
      rw [overlay_cons, ih, Entries.filter_put, List.filter_cons]
      by_cases hp : p e.1
      · simp only [overlay_cons, Entries.get?_filter, hp, if_true]
      · simp only [hp, Bool.false_eq_true, if_false]

theorem overlay_eq_append {low high : Entries Value} (hnew : ∀ name ∈ high.names, name ∉ low.names)
    (hnodup : high.names.Nodup) : overlay low high = low ++ high := by
  induction high generalizing low with
  | nil => exact (List.append_nil low).symm
  | cons e high ih =>
      have hfirst : e.1 ∉ low.names := hnew e.1 List.mem_cons_self
      have hput : low.put e.1 e.2 = low ++ [e] := Entries.put_eq_append hfirst
      obtain ⟨hlater, hmore⟩ := List.nodup_cons.1 hnodup
      have hrest : ∀ name ∈ Entries.names high, name ∉ Entries.names (low ++ [e]) := by
        intro name hname
        rw [Entries.names, List.map_append, List.mem_append, List.map_singleton, List.mem_singleton,
          not_or]
        refine ⟨hnew name (List.mem_cons_of_mem _ hname), ?_⟩
        rintro rfl
        exact hlater hname
      rw [overlay_cons, Entries.get?_eq_none_iff.2 hfirst, written_none, hput, ih hrest hmore,
        List.append_assoc, List.singleton_append]

theorem overlay_nil {high : Entries Value} (h : high.names.Nodup) : overlay [] high = high :=
  overlay_eq_append (fun _ _ => List.not_mem_nil) h

theorem nodup_names_overlay {low : Entries Value} (high : Entries Value) (h : low.names.Nodup) :
    (overlay low high).names.Nodup := by
  induction high generalizing low with
  | nil => exact h
  | cons e high ih =>
      rw [overlay_cons]
      exact ih (Entries.nodup_names_put h)

end SearchClient.Settings
