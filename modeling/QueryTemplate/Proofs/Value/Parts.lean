import Mathlib.Data.List.Basic
import QueryTemplate.Value.Basic

/-!
# The values inside a value

The items of a container are its parts; those of a map are its values, while its keys are no parts,
and a progression has none, since it holds none of its integers.
What holds of a value whenever it holds of its parts holds of every value (`parts_induction`), and
a property may hold of a value everywhere, that is of it and of every value inside it.
-/

namespace QueryTemplate.Value

/-- The items that a container holds. -/
def parts : Value → List Value
  | .range _ => []
  | v => v.items?.getD []

lemma sizeOf_lt_of_mem_parts {v w : Value} (h : w ∈ v.parts) : sizeOf w < sizeOf v := by
  cases v with
  | list xs | tuple xs | set frozen xs =>
    have := List.sizeOf_lt_of_mem (show w ∈ xs from h)
    simp
    omega
  | map readOnly es =>
    obtain ⟨e, he, rfl⟩ := List.mem_map.mp (show w ∈ es.map (·.2) from h)
    obtain ⟨k, v⟩ := e
    have := List.sizeOf_lt_of_mem he
    simp at this ⊢
    omega
  | _ => cases h

/-- What holds of a value whenever it holds of its items holds of every value. -/
theorem parts_induction {motive : Value → Prop}
    (step : ∀ v, (∀ w ∈ v.parts, motive w) → motive v) (v : Value) : motive v :=
  step v fun w _ => parts_induction step w
termination_by sizeOf v
decreasing_by exact sizeOf_lt_of_mem_parts ‹_›

/-- The property holds of a value and of every value inside it. -/
inductive Everywhere (p : Value → Prop) : Value → Prop where
  | intro {v : Value} (here : p v) (inside : ∀ w ∈ v.parts, Everywhere p w) : Everywhere p v

section Everywhere

variable {p : Value → Prop} {v : Value}

lemma everywhere_iff : v.Everywhere p ↔ p v ∧ ∀ w ∈ v.parts, w.Everywhere p :=
  ⟨fun ⟨here, inside⟩ => ⟨here, inside⟩, fun ⟨here, inside⟩ => .intro here inside⟩

/-- Of a value without items only the value itself counts. -/
lemma everywhere_single (h : v.parts = []) : v.Everywhere p ↔ p v := by
  rw [everywhere_iff, h]
  simp

end Everywhere

end QueryTemplate.Value
