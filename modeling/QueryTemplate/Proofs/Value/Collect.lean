import QueryTemplate.Proofs.Outcome
import QueryTemplate.Value.Collect

/-!
# Sets and maps made of different elements and keys

A set made of elements of which no two count as one holds them all, in the order in which they
came.  So does a map made of entries with different keys.
-/

namespace QueryTemplate.Value

/-- Steps that each put a new item behind those that are there put all of them there in order. -/
lemma foldlM_eq_append {α ε : Type} {f : List α → α → Except ε (List α)} {r : α → α → Prop}
    {xs : List α} (acc : List α)
    (hstep : ∀ as, ∀ x ∈ xs, (∀ a ∈ as, r a x) → f as x = .ok (as ++ [x]))
    (hapart : (acc ++ xs).Pairwise r) : xs.foldlM f acc = .ok (acc ++ xs) := by
  induction xs generalizing acc with
  | nil =>
    rw [List.append_nil]
    rfl
  | cons x xs ih =>
    have hnew : ∀ a ∈ acc, r a x := fun a ha =>
      (List.pairwise_append.mp hapart).2.2 a ha x List.mem_cons_self
    have hrest := ih (acc ++ [x]) (fun as y hy => hstep as y (List.mem_cons_of_mem x hy))
      (by simpa using hapart)
    rw [List.foldlM_cons, hstep acc x List.mem_cons_self hnew, Outcome.ok_bind, hrest]
    simp

/-- Elements of which no two count as one are the elements of their set. -/
theorem setOf_eq {xs : List Value} (hkey : ∀ x ∈ xs, x.keyError? = none)
    (hapart : xs.Pairwise fun x y => x.isSameKey y = false) (frozen : Bool) :
    setOf frozen xs = .ok (.set frozen xs) := by
  have hstep : ∀ as, ∀ x ∈ xs, (∀ a ∈ as, a.isSameKey x = false) →
      addElement as x = .ok (as ++ [x]) := by
    intro as x hx hnew
    have hany : as.any (·.isSameKey x) = false :=
      List.any_eq_false.mpr fun a ha => by simp [hnew a ha]
    simp only [addElement, hkey x hx, hany, Bool.false_eq_true, if_false]
  rw [setOf, foldlM_eq_append [] hstep hapart]
  rfl

/-- An entry with a new key is written behind the others. -/
lemma putEntry_of_new {key value : Value} {es : List (Value × Value)}
    (h : ∀ e ∈ es, e.1.isSameKey key = false) : putEntry key value es = es ++ [(key, value)] := by
  induction es with
  | nil => rfl
  | cons e es ih =>
    obtain ⟨he, hes⟩ := List.forall_mem_cons.mp h
    rw [putEntry, he, if_neg Bool.false_ne_true, ih hes]
    rfl

/-- Entries with different keys are the entries of their map. -/
theorem mapOf_eq {es : List (Value × Value)} (hkey : ∀ e ∈ es, e.1.keyError? = none)
    (hapart : es.Pairwise fun e f => e.1.isSameKey f.1 = false) (readOnly : Bool) :
    mapOf readOnly es = .ok (.map readOnly es) := by
  have hstep : ∀ as, ∀ e ∈ es, (∀ a ∈ as, a.1.isSameKey e.1 = false) →
      addEntry as e.1 e.2 = .ok (as ++ [e]) := by
    intro as e he hnew
    simp only [addEntry, hkey e he, putEntry_of_new hnew]
  rw [mapOf, foldlM_eq_append [] hstep hapart]
  rfl

end QueryTemplate.Value
