import Mathlib
import SearchClient.Schema.Shape

set_option autoImplicit false

/-! # Refusals tell issues

Whatever a shape refuses, it tells at least one issue of it (`Shape.tells_check`). So the fields of a
record have no issues exactly if each of them has been made. -/

namespace SearchClient.Schema

variable {α β : Type}

/-- A verdict that tells an issue if it refuses. -/
def Tells (verdict : Except (List Issue) α) : Prop :=
  verdict ≠ .error []

theorem tells_ok (a : α) : Tells (.ok a : Except (List Issue) α) := by
  simp [Tells]

theorem tells_refuse (input : Value) (fault : Fault) :
    Tells (refuse input fault : Except (List Issue) α) := by
  simp [Tells, refuse]

theorem tells_error {issues : List Issue} (h : issues ≠ []) :
    Tells (.error issues : Except (List Issue) α) := by
  simpa [Tells] using h

theorem ne_nil_of_tells {verdict : Except (List Issue) α} (h : Tells verdict) {issues : List Issue}
    (herror : verdict = .error issues) : issues ≠ [] := by
  rintro rfl
  exact h herror

theorem tells_map {verdict : Except (List Issue) α} (h : Tells verdict) (f : α → β) :
    Tells (verdict.map f) := by
  cases verdict with
  | ok a => exact tells_ok _
  | error issues => exact tells_error (ne_nil_of_tells h rfl)

theorem tells_bind {verdict : Except (List Issue) α} (h : Tells verdict)
    {f : α → Except (List Issue) β} (hf : ∀ a, Tells (f a)) : Tells (verdict >>= f) := by
  cases verdict with
  | ok a => exact hf a
  | error issues => exact tells_error (ne_nil_of_tells h rfl)

/-! ## Single values -/

theorem tells_readable (v : Value) (otherwise broken : Fault) :
    Tells (readable v otherwise broken) := by
  unfold readable
  split
  · exact tells_ok _
  · split
    · exact tells_ok _
    · exact tells_refuse _ _
  · exact tells_refuse _ _

theorem tells_checkText (v : Value) : Tells (checkText v) :=
  tells_map (tells_readable v _ _) _

theorem tells_checkWhole (v : Value) (x : Binary64) : Tells (checkWhole v x) := by
  unfold checkWhole
  split
  · exact tells_refuse _ _
  · split
    · exact tells_refuse _ _
    · split
      · exact tells_ok _
      · exact tells_refuse _ _

theorem tells_checkInteger (v : Value) : Tells (checkInteger v) := by
  unfold checkInteger
  split
  · exact tells_ok _
  · exact tells_ok _
  · exact tells_checkWhole _ _
  · refine tells_bind (tells_readable _ _ _) fun s => ?_
    split
    · exact tells_ok _
    · exact tells_refuse _ _
    · exact tells_refuse _ _

theorem tells_checkFloat (v : Value) : Tells (checkFloat v) := by
  unfold checkFloat
  split
  · exact tells_ok _
  · exact tells_ok _
  · dsimp only
    split
    · exact tells_ok _
    · exact tells_refuse _ _
  · refine tells_bind (tells_readable _ _ _) fun s => ?_
    split
    · exact tells_ok _
    · exact tells_refuse _ _

theorem tells_checkNumber (v : Value) : Tells (checkNumber v) := by
  unfold checkNumber
  split
  · exact tells_ok _
  · exact tells_ok _
  · split
    · exact tells_ok _
    · next asInteger hinteger =>
      split
      · exact tells_ok _
      · have hne := ne_nil_of_tells (tells_checkInteger _) hinteger
        exact tells_error (by simp [hne])

theorem tells_checkBoolean (v : Value) : Tells (checkBoolean v) := by
  unfold checkBoolean
  split
  · exact tells_ok _
  · exact tells_ok _
  · exact tells_ok _
  · exact tells_refuse _ _
  · split
    · exact tells_ok _
    · exact tells_ok _
    · exact tells_refuse _ _
  · refine tells_bind (tells_readable _ _ _) fun s => ?_
    split
    · exact tells_ok _
    · exact tells_refuse _ _

theorem tells_checkOneOf (options : List String) (v : Value) : Tells (checkOneOf options v) := by
  unfold checkOneOf
  split
  · split
    · exact tells_ok _
    · exact tells_refuse _ _
  · exact tells_refuse _ _

theorem tells_checkOneOfOrText (options : List String) (v : Value) :
    Tells (checkOneOfOrText options v) := by
  unfold checkOneOfOrText
  split
  · exact tells_ok _
  · exact tells_error (by simp)

/-! ## Collections and records -/

theorem tells_checkItems {check : Value → Verdict} (h : ∀ v, Tells (check v)) (n : Nat)
    (vs : List Value) : Tells (checkItems check n vs) := by
  induction vs generalizing n with
  | nil => exact tells_ok _
  | cons v vs ih =>
      have hhere := h v
      have hlater := ih (n + 1)
      unfold checkItems
      split
      · exact tells_ok _
      · next heq => exact tells_error (ne_nil_of_tells hlater heq)
      · next heq _ => exact tells_error (by simp [ne_nil_of_tells hhere heq])
      · next heq _ => exact tells_error (by simp [ne_nil_of_tells hhere heq])

theorem tells_checkEntries {check : Value → Verdict} (h : ∀ v, Tells (check v))
    (es : List (String × Value)) : Tells (checkEntries check es) := by
  induction es with
  | nil => exact tells_ok _
  | cons e es ih =>
      have hhere := h e.2
      unfold checkEntries
      split
      · exact tells_ok _
      · next heq => exact tells_error (ne_nil_of_tells ih heq)
      · next heq _ => exact tells_error (by simp [ne_nil_of_tells hhere heq])
      · next heq _ => exact tells_error (by simp [ne_nil_of_tells hhere heq])

theorem Filled.tells_finish (filled : Filled) (model : Model) (extras : Extras) (data : Value)
    (rest : Entries Value) : Tells (filled.finish model extras data rest) := by
  simp only [Filled.finish]
  split
  · split
    · exact tells_refuse _ _
    · exact tells_ok _
  · next hne => exact tells_error hne

/-- **A shape that refuses a value tells an issue.** -/
theorem Shape.tells_check : ∀ (s : Shape) (v : Value), Tells (s.check v)
  | .anything, v => tells_ok v
  | .text, v => tells_checkText v
  | .address, v => by
    have htext := tells_checkText v
    unfold Shape.check
    split
    · exact tells_ok _
    · exact htext
  | .integer least, v => by
    have hinteger := tells_checkInteger v
    unfold Shape.check
    split
    · split
      · exact tells_ok _
      · exact tells_refuse _ _
    · exact hinteger
  | .positive, v => by
    have hfloat := tells_checkFloat v
    unfold Shape.check
    split
    · split
      · exact tells_ok _
      · exact tells_refuse _ _
    · exact hfloat
  | .boolean, v => tells_checkBoolean v
  | .number, v => tells_checkNumber v
  | .oneOf options, v => tells_checkOneOf options v
  | .oneOfOrText options, v => tells_checkOneOfOrText options v
  | .list item, v => by
    unfold Shape.check
    split
    · exact tells_map (tells_checkItems item.tells_check _ _) _
    · exact tells_refuse _ _
  | .map item, v => by
    unfold Shape.check
    split
    · exact tells_map (tells_checkEntries item.tells_check _) _
    · exact tells_refuse _ _
  | .optional inner, v => by
    unfold Shape.check
    split
    · exact tells_ok _
    · exact inner.tells_check _
  | .record model extras fields, v => by
    unfold Shape.check
    split
    · split
      · exact tells_ok _
      · exact tells_refuse _ _
    · exact Filled.tells_finish _ _ _ _ _
    · exact tells_refuse _ _

end SearchClient.Schema
