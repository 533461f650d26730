import Mathlib.Data.List.Basic

/-!
# Joined items can be told apart

A container is written as its items, with a separator between them and a closing character behind
the last.  If the characters of each item tell it, whatever follows it there, then those of all
items tell them and what follows the closing character (`closed_append_inj`).
-/

namespace QueryTemplate.Text

/-- Joined texts are the first of them and each other one behind a separator. -/
lemma toList_intercalate_cons (separator t : String) (ts : List String) :
    (separator.intercalate (t :: ts)).toList =
      t.toList ++ ts.flatMap fun u => separator.toList ++ u.toList := by
  induction ts generalizing t with
  | nil => simp
  | cons u ts ih =>
    rw [String.intercalate_cons_cons, String.toList_append, String.toList_append, ih u,
      List.flatMap_cons]
    simp

variable {α β : Type}

/-- Items, each behind a separator, and the closing character. -/
def closed (separator : List Char) (close : Char) (chars : α → List Char) (xs : List α) :
    List Char :=
  (xs.flatMap fun x => separator ++ chars x) ++ [close]

section Closed

variable {separator : List Char} {close : Char} {chars : α → List Char}

@[simp] lemma closed_nil : closed separator close chars [] = [close] := rfl

@[simp] lemma closed_cons (x : α) (xs : List α) : closed separator close chars (x :: xs) =
    separator ++ (chars x ++ closed separator close chars xs) := by
  simp [closed]

/-- **Joined items are told**, and so is what follows the closing character: the separator begins
with another one, and each item is told from those of the other container. -/
theorem closed_append_inj {shows : α → β} {follows : List Char → Prop}
    (hseparator : ∀ c ∈ separator.head?, c ≠ close) (hne : separator ≠ [])
    (hfollows : ∀ xs r, follows (closed separator close chars xs ++ r)) {xs ys : List α}
    (htold : ∀ x ∈ xs, ∀ y ∈ ys, ∀ r s, follows r → follows s →
      chars x ++ r = chars y ++ s → shows x = shows y ∧ r = s)
    {r s : List Char}
    (h : closed separator close chars xs ++ r = closed separator close chars ys ++ s) :
    xs.map shows = ys.map shows ∧ r = s := by
  obtain ⟨c, cs, rfl⟩ := List.exists_cons_of_ne_nil hne
  have hc : c ≠ close := hseparator c rfl
  induction xs generalizing ys with
  | nil =>
    cases ys with
    | nil => exact ⟨rfl, (List.cons.inj h).2⟩
    | cons y ys =>
      rw [closed_nil, closed_cons] at h
      exact absurd (List.cons.inj h).1.symm hc
  | cons x xs ih =>
    cases ys with
    | nil =>
      rw [closed_nil, closed_cons] at h
      exact absurd (List.cons.inj h).1 hc
    | cons y ys =>
      rw [closed_cons, closed_cons, List.append_assoc, List.append_assoc, List.append_assoc,
        List.append_assoc] at h
      obtain ⟨hxy, hrest⟩ := htold x List.mem_cons_self y List.mem_cons_self _ _
        (hfollows xs r) (hfollows ys s) (List.append_cancel_left h)
      obtain ⟨hxys, hrs⟩ := ih (fun a ha b hb =>
        htold a (List.mem_cons_of_mem x ha) b (List.mem_cons_of_mem y hb)) hrest
      exact ⟨by rw [List.map_cons, List.map_cons, hxy, hxys], hrs⟩

end Closed

end QueryTemplate.Text
