import QueryTemplate.Expression.Eval
import QueryTemplate.Proofs.Value.Clash

/-!
# Where an expression has no value

An expression has no value exactly where one of its comparisons has no answer and the evaluation
gets there.  `Tree.Fails` says so part by part and with which error: the parts before the failing
one let the evaluation go on, and those behind it play no role.

Items of lists that were read from one parameter are not compared, so a list may agree with itself
where its items do not.
-/

namespace QueryTemplate

namespace Operand

/-- Comparing the operands inside lists meets a pair of numbers that clash before the first
difference. -/
inductive ClashWithin : Operand → Operand → Prop where
  | values {v : Value} {s : Option String} {y : Operand} (apart : isShared (.value v s) y = false)
      (clash : v.ClashWithin y.toValue) : ClashWithin (.value v s) y
  | listValue {xs : List Operand} {v : Value} {s : Option String}
      (clash : (Value.list (toValues xs)).ClashWithin v) : ClashWithin (.list xs) (.value v s)
  | lists {xs xs' ys ys' : List Operand} {x y : Operand}
      (before : xs.Forall₂ (fun x y => x.equalWithin y = .ok true) ys) (clash : ClashWithin x y)
      (length : xs'.length = ys'.length) :
      ClashWithin (.list (xs ++ x :: xs')) (.list (ys ++ y :: ys'))

lemma equalItems_eq_error {u : Number.Undefined} (xs ys : List Operand) :
    equalItems xs ys = .error u ↔
      ∃ xs₁ x xs₂ ys₁ y ys₂, xs = xs₁ ++ x :: xs₂ ∧ ys = ys₁ ++ y :: ys₂ ∧
        xs₁.Forall₂ (fun x y => x.equalWithin y = .ok true) ys₁ ∧ x.equalWithin y = .error u := by
  refine Outcome.reaches_pair_iff (w := fun xs ys => equalItems xs ys = .error u) ?_ ?_ ?_ xs ys
  · intro ys
    cases ys <;> simp [equalItems]
  · intro xs
    cases xs <;> simp [equalItems]
  · intro x xs y ys
    rw [equalItems]
    rcases x.equalWithin y with u' | _ | _ <;> simp

theorem clash_of_equalWithin {u : Number.Undefined} :
    ∀ (x y : Operand), x.equalWithin y = .error u → x.ClashWithin y
  | .list xs, .list ys, h => by
      rw [equalWithin] at h
      split_ifs at h with hl
      obtain ⟨xs₁, x, xs₂, ys₁, y, ys₂, rfl, rfl, hb, hx⟩ := (equalItems_eq_error _ _).mp h
      exact .lists hb (clash_of_equalWithin x y hx) (by simpa [hb.length_eq] using hl)
  | .list xs, .value v s, h => .listValue (Value.equalWithin_eq_error.mp h)
  | .value v s, y, h => by
      rw [equalWithin] at h
      split_ifs at h with hs
      exact .values (by simpa using hs) (Value.equalWithin_eq_error.mp h)
termination_by x => sizeOf x
decreasing_by
  subst_vars
  exact Nat.lt_trans (Outcome.sizeOf_reached_lt xs₁ x xs₂) (by simp)

theorem equalWithin_of_clash {u : Number.Undefined} {x y : Operand} (h : x.ClashWithin y) :
    x.equalWithin y = .error u := by
  induction h with
  | values ha hv =>
    rw [equalWithin, if_neg (by simp [ha])]
    exact Value.equalWithin_eq_error.mpr hv
  | listValue hv => exact Value.equalWithin_eq_error.mpr hv
  | lists hb _ hl ih =>
    rw [equalWithin, if_pos (by simp [hb.length_eq, hl])]
    exact (equalItems_eq_error _ _).mpr ⟨_, _, _, _, _, _, rfl, rfl, hb, ih⟩

/-- Inside lists equality of operands has no answer exactly where they clash. -/
theorem equalWithin_eq_error {u : Number.Undefined} {x y : Operand} :
    x.equalWithin y = .error u ↔ x.ClashWithin y :=
  ⟨clash_of_equalWithin x y, equalWithin_of_clash⟩

/-- The operands of a comparison clash.  At the top even a parameter is compared with itself. -/
inductive Clash : Operand → Operand → Prop where
  | itself {n : Number} {s : Option String} {y : Operand}
      (shared : isShared (.value (.number n) s) y) (clash : n.Clash n) :
      Clash (.value (.number n) s) y
  | values {v : Value} {s : Option String} {y : Operand} (apart : isShared (.value v s) y = false)
      (clash : v.Clash y.toValue) : Clash (.value v s) y
  | list {xs : List Operand} {y : Operand} (clash : ClashWithin (.list xs) y) : Clash (.list xs) y

lemma equalItself_eq_error {v : Value} {u : Number.Undefined} :
    v.equalItself = .error u ↔ ∃ n, v = .number n ∧ n.Clash n := by
  cases v <;> simp [Value.equalItself, Number.equal_eq_error]

/-- Equality of operands has no answer exactly where they clash. -/
theorem equal_eq_error {u : Number.Undefined} {x y : Operand} :
    x.equal y = .error u ↔ x.Clash y := by
  cases x with
  | list xs =>
    refine equalWithin_eq_error.trans ⟨.list, fun h => ?_⟩
    cases h with
    | list h => exact h
  | value v s =>
    rw [equal]
    split_ifs with hs
    · rw [equalItself_eq_error]
      constructor
      · rintro ⟨n, rfl, hn⟩
        exact .itself hs hn
      · intro h
        cases h with
        | itself _ hn => exact ⟨_, rfl, hn⟩
        | values ha _ => simp [ha] at hs
    · rw [Value.equal_eq_error]
      refine ⟨.values (by simpa using hs), fun h => ?_⟩
      cases h with
      | itself hs' _ => exact absurd hs' hs
      | values _ hv => exact hv

/-- The operands clash, and a truth value among them does not tell them apart at once. -/
def SameClash (x y : Operand) : Prop :=
  x.toValue.isBool = y.toValue.isBool ∧ x.Clash y

lemma same_eq_error {u : Number.Undefined} {x y : Operand} :
    x.same y = .error u ↔ x.SameClash y := by
  rw [same, SameClash]
  split_ifs with h <;> simp [h, equal_eq_error]

/-- A search for the first operand among the items of the second ends with the error: it clashes
before it finds it, or there are too many items to begin. -/
inductive MemberFailure (x y : Operand) : ComparisonError → Prop where
  | clash {before after : List Operand} {z : Operand} {u : Number.Undefined}
      (left : x.toValue.isNull = false) (items : y.items? = some (before ++ z :: after))
      (countable : y.toValue.hasTooManyItems = false) (unequal : ∀ w ∈ before, x.same w = .ok false)
      (clash : x.SameClash z) : MemberFailure x y (.undefined u)
  | tooMany (left : x.toValue.isNull = false) (many : y.toValue.hasTooManyItems = true) :
      MemberFailure x y .tooMany

lemma isNull_of_items? {y : Operand} {xs : List Operand} (h : y.items? = some xs) :
    y.toValue.isNull = false := by
  cases y with
  | list ys => rfl
  | value v s =>
    obtain ⟨vs, hvs, -⟩ := Option.map_eq_some_iff.mp h
    exact Value.isNull_of_items? hvs

lemma exists_items?_of_hasTooManyItems {y : Operand} (h : y.toValue.hasTooManyItems = true) :
    ∃ xs, y.items? = some xs := by
  cases y with
  | list ys => exact ⟨ys, rfl⟩
  | value v s =>
    obtain ⟨vs, hvs⟩ := Value.exists_items?_of_hasTooManyItems h
    exact ⟨_, Option.map_eq_some_iff.mpr ⟨vs, hvs, rfl⟩⟩

lemma memberOf_eq_search (x y : Operand) : x.memberOf y =
    Value.search x.toValue.isNull y.toValue.isNull y.toValue.hasTooManyItems y.items? x.same := by
  rw [memberOf, Value.search]
  cases y.items? <;> rfl

lemma memberOf_eq_error {e : ComparisonError} {x y : Operand} :
    x.memberOf y = .error e ↔ x.MemberFailure y e := by
  rw [memberOf_eq_search, Value.search_eq_error (fun _ => isNull_of_items?)
    exists_items?_of_hasTooManyItems]
  constructor
  · rintro ⟨left, ⟨many, rfl⟩ | ⟨countable, before, z, after, u, items, unequal, clash, rfl⟩⟩
    · exact .tooMany left many
    · exact .clash left items countable unequal (same_eq_error.mp clash)
  · rintro (⟨left, items, countable, unequal, clash⟩ | ⟨left, many⟩)
    · exact ⟨left, .inr ⟨countable, _, _, _, _, items, unequal, same_eq_error.mpr clash, rfl⟩⟩
    · exact ⟨left, .inl ⟨many, rfl⟩⟩

theorem holds_eq_error {op : Operator} {x y : Operand} {e : ComparisonError} :
    Operand.holds op x y = .error e ↔
      op.Fails x.toValue y.toValue (x.SameClash y) (x.MemberFailure y) e :=
  Operator.holdsWith_eq_error (fun _ => same_eq_error) memberOf_eq_error

end Operand

namespace Tree

variable {b : Binding} {e : ComparisonError}

/-- Evaluating the tree gets to a comparison that fails with the error. -/
inductive Fails (b : Binding) (e : ComparisonError) : Tree → Prop where
  | list {ts ts' : List Tree} {t : Tree} (before : ∀ s ∈ ts, ∃ x, s.operand b = .ok x)
      (here : Fails b e t) : Fails b e (.list (ts ++ t :: ts'))
  | not {t : Tree} (here : Fails b e t) : Fails b e (.not t)
  | and {ts ts' : List Tree} {t : Tree}
      (before : ∀ s ∈ ts, ∃ x, s.operand b = .ok x ∧ x.toValue.isTrue = true)
      (here : Fails b e t) : Fails b e (.and (ts ++ t :: ts'))
  | or {ts ts' : List Tree} {t : Tree}
      (before : ∀ s ∈ ts, ∃ x, s.operand b = .ok x ∧ x.toValue.isTrue = false)
      (here : Fails b e t) : Fails b e (.or (ts ++ t :: ts'))
  | left {op : Operator} {l r : Tree} (here : Fails b e l) : Fails b e (.compare op l r)
  | right {op : Operator} {l r : Tree} {x : Operand} (before : l.operand b = .ok x)
      (here : Fails b e r) : Fails b e (.compare op l r)
  | compare {op : Operator} {l r : Tree} {x y : Operand} (left : l.operand b = .ok x)
      (right : r.operand b = .ok y)
      (fails : op.Fails x.toValue y.toValue (x.SameClash y) (x.MemberFailure y) e) :
      Fails b e (.compare op l r)

lemma operands_eq_error (ts : List Tree) : operands b ts = .error e ↔
    ∃ before t after, ts = before ++ t :: after ∧ (∀ s ∈ before, ∃ x, s.operand b = .ok x) ∧
      t.operand b = .error e := by
  refine Outcome.reaches_iff (w := fun ts => operands b ts = .error e) (by simp [operands]) ?_ ts
  intro t ts
  simp only [operands]
  rcases t.operand b with e' | x
  · simp
  · rcases operands b ts with e' | xs <;> simp

lemma allTrue_eq_error (ts : List Tree) : allTrue b ts = .error e ↔
    ∃ before t after, ts = before ++ t :: after ∧
      (∀ s ∈ before, ∃ x, s.operand b = .ok x ∧ x.toValue.isTrue = true) ∧
      t.operand b = .error e := by
  refine Outcome.reaches_iff (w := fun ts => allTrue b ts = .error e) (by simp [allTrue]) ?_ ts
  intro t ts
  simp only [allTrue]
  rcases t.operand b with e' | x
  · simp
  · rw [Outcome.ok_bind]
    split_ifs with hx <;> simp [hx]

lemma anyTrue_eq_error (ts : List Tree) : anyTrue b ts = .error e ↔
    ∃ before t after, ts = before ++ t :: after ∧
      (∀ s ∈ before, ∃ x, s.operand b = .ok x ∧ x.toValue.isTrue = false) ∧
      t.operand b = .error e := by
  refine Outcome.reaches_iff (w := fun ts => anyTrue b ts = .error e) (by simp [anyTrue]) ?_ ts
  intro t ts
  simp only [anyTrue]
  rcases t.operand b with e' | x
  · simp
  · rw [Outcome.ok_bind]
    split_ifs with hx <;> simp [hx]

theorem fails_of_operand : ∀ t : Tree, t.operand b = .error e → t.Fails b e
  | .param name, h => by simp [operand] at h
  | .const c, h => by simp [operand] at h
  | .list ts, h => by
      rcases Outcome.bind_eq_error.mp (by simpa [operand] using h) with h | ⟨_, _, h⟩
      · obtain ⟨before, t, after, rfl, hb, ht⟩ := (operands_eq_error ts).mp h
        exact .list hb (fails_of_operand t ht)
      · simp at h
  | .not t, h => by
      rcases Outcome.bind_eq_error.mp (by simpa [operand] using h) with h | ⟨_, _, h⟩
      · exact .not (fails_of_operand t h)
      · simp at h
  | .and ts, h => by
      rcases Outcome.bind_eq_error.mp (by simpa [operand] using h) with h | ⟨_, _, h⟩
      · obtain ⟨before, t, after, rfl, hb, ht⟩ := (allTrue_eq_error ts).mp h
        exact .and hb (fails_of_operand t ht)
      · simp at h
  | .or ts, h => by
      rcases Outcome.bind_eq_error.mp (by simpa [operand] using h) with h | ⟨_, _, h⟩
      · obtain ⟨before, t, after, rfl, hb, ht⟩ := (anyTrue_eq_error ts).mp h
        exact .or hb (fails_of_operand t ht)
      · simp at h
  | .compare op l r, h => by
      rcases Outcome.bind_eq_error.mp (by simpa [operand] using h) with h | ⟨x, hl, h⟩
      · exact .left (fails_of_operand l h)
      rcases Outcome.bind_eq_error.mp h with h | ⟨y, hr, h⟩
      · exact .right hl (fails_of_operand r h)
      rcases Outcome.bind_eq_error.mp h with h | ⟨_, _, h⟩
      · exact .compare hl hr (Operand.holds_eq_error.mp h)
      · simp at h
termination_by t => sizeOf t
decreasing_by
  all_goals subst_vars
  all_goals simp_wf
  · exact Nat.lt_of_lt_of_le (Outcome.sizeOf_reached_lt before t after) (Nat.le_add_left _ _)
  · exact Nat.lt_of_lt_of_le (Outcome.sizeOf_reached_lt before t after) (Nat.le_add_left _ _)
  · exact Nat.lt_of_lt_of_le (Outcome.sizeOf_reached_lt before t after) (Nat.le_add_left _ _)
  all_goals omega

theorem operand_of_fails {t : Tree} (h : t.Fails b e) : t.operand b = .error e := by
  induction h with
  | list hb _ ih =>
    rw [operand, (operands_eq_error _).mpr ⟨_, _, _, rfl, hb, ih⟩, Outcome.error_bind]
  | not _ ih => rw [operand, ih, Outcome.error_bind]
  | and hb _ ih =>
    rw [operand, (allTrue_eq_error _).mpr ⟨_, _, _, rfl, hb, ih⟩, Outcome.error_bind]
  | or hb _ ih =>
    rw [operand, (anyTrue_eq_error _).mpr ⟨_, _, _, rfl, hb, ih⟩, Outcome.error_bind]
  | left _ ih => rw [operand, ih, Outcome.error_bind]
  | right hl _ ih => rw [operand, hl, Outcome.ok_bind, ih, Outcome.error_bind]
  | compare hl hr hu =>
    rw [operand, hl, Outcome.ok_bind, hr, Outcome.ok_bind, Operand.holds_eq_error.mpr hu,
      Outcome.error_bind]

/-- A tree has no value exactly where it fails. -/
theorem eval_eq_error {t : Tree} : t.eval b = .error e ↔ t.Fails b e := by
  rw [eval, Outcome.map_eq_error]
  exact ⟨fails_of_operand t, operand_of_fails⟩

end Tree

end QueryTemplate
