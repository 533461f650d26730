import QueryTemplate.Proofs.Comparison.Order
import QueryTemplate.Proofs.Value.Symmetry

/-!
# Operators with their operands exchanged

Whatever two values are, `>` says of them what `<` says of them exchanged, and `>=` what `<=` says,
failures included: the order of two values exchanged is the opposite order (`Value.order?_swap`),
and null is treated alike from either side.  Equality says the same of them exchanged unless one of
the two fails: of two maps the entries of the left one are asked, so it depends on their places
which pair of values is met first.
-/

namespace QueryTemplate

namespace Value

open Std.OrientedCmp in
/-- Exchanged, two values have the opposite order, or fail to be ordered alike. -/
theorem order?_swap (a b : Value) : b.order? a = (a.order? b).map (Option.map Ordering.swap) := by
  fun_cases order? a b with
  | case1 m n => exact Number.order_swap m n
  | case2 s t => exact congrArg (Except.ok ∘ some) (@eq_swap _ compare _ t s)
  | case3 growable a growable' b =>
    rw [order?]
    by_cases hgrowable : growable = growable'
    · rw [if_pos hgrowable, if_pos hgrowable.symm, @eq_swap _ (List.compareLex compare) _ b a]
      rfl
    · rw [if_neg hgrowable, if_neg (Ne.symm hgrowable)]
      rfl
  | case4 a b => exact congrArg (Except.ok ∘ some) (Date.order_swap a b)
  | case5 a b => exact congrArg Except.ok (Time.order?_swap a b)
  | case6 a b => exact congrArg Except.ok (Moment.order?_swap a b)
  | case7 a b hnumbers htexts hbytes hdates htimes hmoments =>
    rw [order?]
    · rfl
    · exact fun m n hb ha => hnumbers n m ha hb
    · exact fun s t hb ha => htexts t s ha hb
    · exact fun _ _ _ _ hb ha => hbytes _ _ _ _ ha hb
    · exact fun x y hb ha => hdates y x ha hb
    · exact fun x y hb ha => htimes y x ha hb
    · exact fun x y hb ha => hmoments y x ha hb

/-- Membership is answered in containers, between values that are not null. -/
lemma isSome_of_memberOf {a b : Value} {found : Option Bool} (h : a.memberOf b = .ok found) :
    found.isSome = true ↔ a ≠ .null ∧ b ≠ .null ∧ b.shape.isContainer = true := by
  rw [← isNull_eq_false_iff, ← isNull_eq_false_iff, ← isSome_items?]
  rw [memberOf] at h
  by_cases hnull : (a.isNull || b.isNull) = true
  · rw [if_pos hnull] at h
    obtain rfl := Except.ok.inj h
    rcases (Bool.or_eq_true _ _).mp hnull with hnull | hnull <;> simp [hnull]
  · rw [if_neg hnull] at h
    rw [Bool.not_eq_true, Bool.or_eq_false_iff] at hnull
    cases hitems : b.items? with
    | none =>
      rw [hitems] at h
      obtain rfl := Except.ok.inj h
      simp
    | some items =>
      simp only [hitems] at h
      split_ifs at h
      obtain ⟨answer, -, rfl⟩ := Outcome.map_eq_ok.mp (Outcome.mapError_eq_ok.mp h)
      simp [hnull]

end Value

namespace Operator

/-- The operator that says of two values exchanged what this one says of them. -/
def converse : Operator → Operator
  | .gt => .lt
  | .ge => .le
  | .lt => .gt
  | .le => .ge
  | op => op

lemma accepts_converse {op : Operator} (o : Ordering) :
    op.converse.accepts o.swap = op.accepts o := by
  cases op <;> cases o <;> rfl

lemma holdsOrdered_converse (op : Operator) (a b : Value) :
    op.converse.holdsOrdered b a = op.holdsOrdered a b := by
  rw [holdsOrdered, holdsOrdered, Value.order?_swap]
  rcases a.order? b with u | _ | o
  · rfl
  · rfl
  · exact congrArg Except.ok (accepts_converse o)

/-- An ordering operator says of two values what its converse says of them exchanged. -/
theorem holds_converse {op : Operator} (h : op.isOrdering) (a b : Value) :
    op.converse.holds b a = op.holds a b := by
  have hordered := holdsOrdered_converse op a b
  cases op with
  | gt | lt =>
    rw [converse, holds, holds, holdsWith, holdsWith, Bool.or_comm]
    exact congrArg _ hordered
  | ge | le =>
    rw [converse, holds, holds, holdsWith, holdsWith]
    exact congrArg _ (congrArg _ hordered)
  | _ => simp [isOrdering] at h

/-- Values of which `>` or `<` holds have an order that it accepts. -/
lemma exists_order? {op : Operator} {a b : Value} (hop : op = .gt ∨ op = .lt)
    (h : op.Holds a b) : ∃ o, a.order? b = .ok (some o) ∧ op.accepts o = true := by
  have hordered : op.holdsOrdered a b = .ok true := by
    rcases hop with rfl | rfl
    all_goals
      rw [Holds, holds, holdsWith] at h
      split_ifs at h
      · cases h
      · exact h
  obtain ⟨o, ho, haccepts⟩ := Outcome.map_eq_ok.mp (Outcome.mapError_eq_ok.mp hordered)
  obtain ⟨o, rfl, haccepts⟩ := (Option.any_eq_true _ _).mp haccepts
  exact ⟨o, ho, haccepts⟩

/-- **Duality of operators.** Of two values of whatever kinds, `>` and `>=` say what `<` and `<=`
say of them exchanged, failures included.  `==` says the same exchanged wherever it does not fail, and
`!=` is its negation.  No two values are both greater and less, and where membership does not fail
they are exactly one of in and not in, if neither is null and the second is a container, and
otherwise neither. -/
theorem operators_dual {a b : Value} (ha : a.WellKeyed) (hb : b.WellKeyed) :
    gt.holds a b = lt.holds b a ∧ ge.holds a b = le.holds b a ∧
    (∀ p q, eq.holds a b = .ok p → eq.holds b a = .ok q → p = q) ∧
    ne.holds a b = (eq.holds a b).map not ∧
    ¬ (Holds .gt a b ∧ Holds .lt a b) ∧
    ∀ found, a.memberOf b = .ok found → ∃ p q, isIn.holds a b = .ok p ∧ notIn.holds a b = .ok q ∧
      (p && q) = false ∧
      ((p ^^ q) = true ↔ a ≠ .null ∧ b ≠ .null ∧ b.shape.isContainer = true) := by
  refine ⟨(holds_converse rfl a b).symm, (holds_converse rfl a b).symm, fun p q => ?_,
    Outcome.mapError_map _ _ _, ?_, fun found h => ?_⟩
  · intro hp hq
    have hsame : a.same b = .ok true ↔ b.same a = .ok true := Value.same_comm (ha.comparable hb)
    rw [show a.same b = .ok p from Outcome.mapError_eq_ok.mp hp,
      show b.same a = .ok q from Outcome.mapError_eq_ok.mp hq] at hsame
    exact Bool.eq_iff_iff.mpr (by simpa using hsame)
  · rintro ⟨hgt, hlt⟩
    obtain ⟨o, ho, haccepts⟩ := exists_order? (.inl rfl) hgt
    obtain ⟨o', ho', haccepts'⟩ := exists_order? (.inr rfl) hlt
    obtain rfl : o = o' := by simpa [ho] using ho'
    cases o <;> simp [accepts] at haccepts haccepts'
  · refine ⟨found == some true, found == some false, ?_, ?_, ?_, ?_⟩
    · exact congrArg (Except.map (· == some true)) h
    · exact congrArg (Except.map (· == some false)) h
    · rcases found with _ | _ | _ <;> rfl
    · rw [← Value.isSome_of_memberOf h]
      rcases found with _ | _ | _ <;> decide

/-- A text and a map that holds it. -/
theorem text_against_map :
    let a : Value := .text "x"
    let b : Value := .map true [(.text "k", .text "x")]
    a.WellKeyed ∧ b.WellKeyed ∧ gt.holds a b = lt.holds b a ∧
      ∃ p q, isIn.holds a b = .ok p ∧ notIn.holds a b = .ok q ∧ (p ^^ q) = true := by
  intro a b
  have ha : a.WellKeyed := Value.wellKeyed_iff.mpr ⟨trivial, trivial, nofun⟩
  have hkey : (Value.text "k").WellFormed := (Value.everywhere_single rfl).mpr trivial
  have hb : b.WellKeyed := Value.wellKeyed_iff.mpr ⟨List.pairwise_singleton _ _,
    List.forall_mem_singleton.mpr hkey, List.forall_mem_singleton.mpr ha⟩
  have hfound : a.memberOf b = .ok (some true) := by decide +kernel
  obtain ⟨hgt, -, -, -, -, hmember⟩ := operators_dual ha hb
  obtain ⟨p, q, hp, hq, -, hone⟩ := hmember _ hfound
  exact ⟨ha, hb, hgt, p, q, hp, hq, hone.mpr ⟨nofun, nofun, rfl⟩⟩

end Operator

end QueryTemplate
