import Mathlib.Tactic.Common
import QueryTemplate.Notice

/-!
# Computations with notices

A step that reports something after another: what comes out, what is reported, and in which order
such steps may be grouped.
-/

namespace QueryTemplate.Traced

variable {ε ε' α β γ : Type} {x : Traced ε α} {f : α → Traced ε β}

lemma ext {x y : Traced ε α} (outcome : x.outcome = y.outcome) (notices : x.notices = y.notices) :
    x = y := by
  cases x
  cases y
  exact congr (congrArg mk outcome) notices

lemma bind_eq_ok {b : β} :
    (x.bind f).outcome = .ok b ↔ ∃ a, x.outcome = .ok a ∧ (f a).outcome = .ok b := by
  rw [Traced.bind]
  cases x.outcome <;> simp

lemma bind_eq_error {e : ε} :
    (x.bind f).outcome = .error e ↔
      x.outcome = .error e ∨ ∃ a, x.outcome = .ok a ∧ (f a).outcome = .error e := by
  rw [Traced.bind]
  cases x.outcome <;> simp

lemma outcome_bind (x : Traced ε α) (f : α → Traced ε β) :
    (x.bind f).outcome = x.outcome >>= fun a => (f a).outcome := by
  rw [Traced.bind]
  rcases x.outcome with e | a <;> rfl

/-- What two steps report is what the first reports and, if it comes to it, the second. -/
lemma mem_notices_bind {n : Notice} :
    n ∈ (x.bind f).notices ↔ n ∈ x.notices ∨ ∃ a, x.outcome = .ok a ∧ n ∈ (f a).notices := by
  rw [Traced.bind]
  cases x.outcome <;> simp

lemma mapError_bind (x : Traced ε α) (f : α → Traced ε β) (g : ε → ε') :
    (x.bind f).mapError g = (x.mapError g).bind fun a => (f a).mapError g := by
  obtain ⟨_ | _, _⟩ := x <;> rfl

lemma mapError_mapError {ε'' : Type} (x : Traced ε α) (f : ε → ε') (g : ε' → ε'') :
    (x.mapError f).mapError g = x.mapError (g ∘ f) := by
  obtain ⟨_ | _, _⟩ := x <;> rfl

@[simp] lemma ok_bind (a : α) (f : α → Traced ε β) : (ok a).bind f = f a := rfl

@[simp] lemma bind_ok (x : Traced ε α) : x.bind ok = x := by
  obtain ⟨e | a, ns⟩ := x
  · rfl
  · simp [Traced.bind, ok]

lemma bind_assoc (x : Traced ε α) (f : α → Traced ε β) (g : β → Traced ε γ) :
    (x.bind f).bind g = x.bind fun a => (f a).bind g := by
  obtain ⟨e | a, ns⟩ := x
  · rfl
  · rcases hf : f a with ⟨e | b, ms⟩
    · simp [Traced.bind, hf]
    · simp [Traced.bind, hf]

end QueryTemplate.Traced
