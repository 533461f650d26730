import QueryTemplate.Proofs.Evaluation.Undefined
import QueryTemplate.Proofs.Traced
import QueryTemplate.Template.Eval

/-!
# Where a template has no text

A condition fails where it compares a parameter that is not bound, where a comparison has no answer
and where it asks for items that are too many to count; a template fails where the first of its
decisions does whose conditions do.  `Fails` says which error this is, condition by condition and
segment by segment.  Conditions that no longer matter play no role: those of a chain behind the one
that holds, those denied together behind the first that holds, and all of an incomplete chain.  Of
an incomplete chain only the condition without a text is reported, and it has to have a form.
-/

namespace QueryTemplate

variable {b : Binding} {e : EvalError}

lemma liftComparison_eq_error {α : Type} {x : Except ComparisonError α} :
    liftComparison x = .error e ↔ ∃ e', x = .error e' ∧ .ofComparison e' = e :=
  Outcome.mapError_eq_error

/-- The question asks for items. -/
def Emptiness.ofItems : Emptiness → Bool
  | .empty | .notEmpty => true
  | .null | .notNull => false

namespace Binding

/-- The parameter is bound to a container with too many items to count. -/
def HasTooManyItems (b : Binding) (name : String) : Prop :=
  ∃ v, b.get? name = some v ∧ v.hasTooManyItems = true

lemma items?_eq_error {name : String} :
    b.items? name = .error e ↔ b.HasTooManyItems name ∧ e = .tooManyItems := by
  rw [items?, HasTooManyItems]
  cases b.get? name with
  | none => simp
  | some v =>
    simp only [Option.some.injEq, exists_eq_left']
    split_ifs with h <;> simp [h, eq_comm]

lemma hasEmptiness_eq_error {name : String} {status : Emptiness} :
    b.hasEmptiness name status = .error e ↔
      status.ofItems = true ∧ b.HasTooManyItems name ∧ e = .tooManyItems := by
  cases status <;> simp [hasEmptiness, Emptiness.ofItems, Outcome.map_eq_error, items?_eq_error]

end Binding

namespace Condition

/-- Deciding the condition under the binding ends with the error. -/
inductive Fails (b : Binding) : EvalError → Condition → Prop where
  | isTrue {x : Expression} {e : ComparisonError} (fails : x.tree.Fails b e) :
      Fails b (.ofComparison e) (.isTrue x)
  | isFalse {x : Expression} {e : ComparisonError} (fails : x.tree.Fails b e) :
      Fails b (.ofComparison e) (.isFalse x)
  | missing {name : String} {op : Operator} {w : Value} (unbound : b.get? name = none) :
      Fails b (.missingParameter name) (.compare name op w)
  | compare {name : String} {op : Operator} {v w : Value} {e : ComparisonError}
      (bound : b.get? name = some v) (fails : op.Fails v w (v.SameClash w) (v.MemberFailure w) e) :
      Fails b (.ofComparison e) (.compare name op w)
  | nullOrEmpty {name : String} {status : Emptiness} (asked : status.ofItems = true)
      (many : b.HasTooManyItems name) : Fails b .tooManyItems (.nullOrEmpty name status)
  | noneOf {e : EvalError} {cs cs' : List Condition} {c : Condition}
      (before : ∀ d ∈ cs, d.eval b = .ok false) (here : Fails b e c) :
      Fails b e (.noneOf (cs ++ c :: cs'))

lemma anyHolds_eq_error (cs : List Condition) : anyHolds b cs = .error e ↔
    ∃ before c after, cs = before ++ c :: after ∧ (∀ d ∈ before, d.eval b = .ok false) ∧
      c.eval b = .error e := by
  refine Outcome.reaches_iff (w := fun cs => anyHolds b cs = .error e) (by simp [anyHolds]) ?_ cs
  intro c cs
  simp only [anyHolds]
  rcases c.eval b with e' | _ | _ <;> simp

theorem fails_of_eval : ∀ c : Condition, c.eval b = .error e → c.Fails b e
  | .hasParam _, h | .hasNoParam _, h | .isNull _, h | .isNotNull _, h | .contains _ .one, h
  | .contains _ .all, h | .literal _, h => by simp [eval] at h
  | .isTrue x, h => by
      obtain ⟨e', hx, rfl⟩ := liftComparison_eq_error.mp (Outcome.map_eq_error.mp h)
      exact .isTrue (Tree.eval_eq_error.mp hx)
  | .isFalse x, h => by
      obtain ⟨e', hx, rfl⟩ := liftComparison_eq_error.mp (Outcome.map_eq_error.mp h)
      exact .isFalse (Tree.eval_eq_error.mp hx)
  | .nullOrEmpty name status, h => by
      obtain ⟨asked, many, rfl⟩ := Binding.hasEmptiness_eq_error.mp h
      exact .nullOrEmpty asked many
  | .compare name op w, h => by
      rw [eval] at h
      cases hv : b.get? name with
      | none =>
        obtain rfl : .missingParameter name = e := by simpa [hv] using h
        exact .missing hv
      | some v =>
        simp only [hv] at h
        obtain ⟨e', hop, rfl⟩ := liftComparison_eq_error.mp h
        exact .compare hv (Operator.holds_eq_error.mp hop)
  | .noneOf cs, h => by
      rw [eval, Outcome.map_eq_error] at h
      obtain ⟨before, c, after, rfl, hb, hc⟩ := (anyHolds_eq_error cs).mp h
      exact .noneOf hb (fails_of_eval c hc)
termination_by c => sizeOf c
decreasing_by
  subst_vars
  exact Nat.lt_trans (Outcome.sizeOf_reached_lt before c after) (by simp)

theorem eval_of_fails {c : Condition} (h : c.Fails b e) : c.eval b = .error e := by
  induction h with
  | isTrue h | isFalse h =>
    rw [eval, Outcome.map_eq_error]
    exact liftComparison_eq_error.mpr ⟨_, Tree.eval_eq_error.mpr h, rfl⟩
  | missing hv => simp [eval, hv]
  | compare hv h =>
    simp only [eval, hv]
    exact liftComparison_eq_error.mpr ⟨_, Operator.holds_eq_error.mpr h, rfl⟩
  | nullOrEmpty asked many => exact Binding.hasEmptiness_eq_error.mpr ⟨asked, many, rfl⟩
  | noneOf hb _ ih =>
    rw [eval, Outcome.map_eq_error]
    exact (anyHolds_eq_error _).mpr ⟨_, _, _, rfl, hb, ih⟩

/-- Deciding a condition ends with an error exactly where the condition fails with it. -/
theorem eval_eq_error {c : Condition} : c.eval b = .error e ↔ c.Fails b e :=
  ⟨fails_of_eval c, eval_of_fails⟩

end Condition

/-! ## Decisions -/

/-- A complete chain fails at the first alternative that does, if none before it is chosen.  An
incomplete one fails where the condition that it reports has no form. -/
inductive Chain.Fails (b : Binding) : EvalError → Chain → Prop where
  | alternative {e : EvalError} {before after : List Alternative} {a : Alternative}
      {elseText : Option String} (unchosen : ∀ d ∈ before, d.condition.eval b = .ok false)
      (here : a.condition.Fails b e) : Fails b e ⟨before ++ a :: after, elseText, none⟩
  | noForm {c : Chain} {d : Condition} {e : FormError} (dangling : c.dangling = some d)
      (obstacle : d.formError? = some e) : Fails b (.noForm e) c

/-- Choosing the text of the decision ends with the error. -/
def Decision.Fails (b : Binding) (e : EvalError) : Decision → Prop
  | .branch br => br.condition.Fails b e
  | .chain c => c.Fails b e

/-- The conditions of a chain are decided in the order of those denied together. -/
lemma anyHolds_conditions (as : List Alternative) (index : ℕ) :
    Condition.anyHolds b (as.map (·.condition)) = (firstHolding b index as).map Option.isSome := by
  induction as generalizing index with
  | nil => rfl
  | cons a as ih =>
    rw [firstHolding, List.map_cons, Condition.anyHolds]
    rcases a.condition.eval b with e' | _ | _
    · rfl
    · exact ih (index + 1)
    · rfl

lemma firstHolding_eq_error (as : List Alternative) (index : ℕ) :
    firstHolding b index as = .error e ↔
      ∃ before a after, as = before ++ a :: after ∧
        (∀ d ∈ before, d.condition.eval b = .ok false) ∧ a.condition.Fails b e := by
  rw [← Outcome.map_eq_error (f := Option.isSome), ← anyHolds_conditions]
  refine Outcome.reaches_iff
    (w := fun as => Condition.anyHolds b (as.map (·.condition)) = .error e)
    (by simp [Condition.anyHolds]) ?_ as
  intro a as
  rw [List.map_cons, Condition.anyHolds, ← Condition.eval_eq_error]
  rcases a.condition.eval b with e' | _ | _ <;> simp

lemma Chain.choose_eq_error {c : Chain} : c.choose b = .error e ↔ c.Fails b e := by
  obtain ⟨alternatives, elseText, dangling⟩ := c
  cases dangling with
  | some d =>
    rw [Chain.choose]
    cases hform : d.formError? with
    | none =>
      refine iff_of_false (by simp [hform]) fun h => ?_
      cases h with
      | noForm dangling obstacle => simp_all
    | some f =>
      constructor
      · intro h
        obtain rfl : .noForm f = e := by simpa [hform] using h
        exact .noForm rfl hform
      · intro h
        cases h with
        | noForm dangling obstacle => simp_all
  | none =>
    rw [Chain.choose, Outcome.map_eq_error, firstHolding_eq_error]
    constructor
    · rintro ⟨before, a, after, rfl, unchosen, here⟩
      exact .alternative unchosen here
    · intro h
      cases h with
      | alternative unchosen here => exact ⟨_, _, _, rfl, unchosen, here⟩
      | noForm dangling obstacle => cases dangling

/-- Choosing a text ends with an error exactly where the decision fails with it. -/
theorem Decision.resolve_eq_error {d : Decision} :
    (d.resolve b).outcome = .error e ↔ d.Fails b e := by
  cases d with
  | branch br =>
    rw [Decision.resolve, Decision.Fails, ← Condition.eval_eq_error]
    exact Outcome.map_eq_error
  | chain c =>
    rw [Decision.resolve, Decision.Fails, ← Chain.choose_eq_error]
    rcases c.choose b with e' | choice <;> simp [Traced.error]

/-! ## Templates -/

namespace Segment

/-- Choosing the text of a decision ends with the error; the text of a literal is given. -/
def Fails (b : Binding) (e : EvalError) : Segment → Prop
  | .literal _ => False
  | .decision d => d.Fails b e

end Segment

/-- The first segment that fails decides which error it is. -/
theorem Segment.resolveAll_eq_error (ss : List Segment) :
    (Segment.resolveAll b ss).outcome = .error e ↔
      ∃ before s after, ss = before ++ s :: after ∧ (∀ t ∈ before, ∀ e', ¬ t.Fails b e') ∧
        s.Fails b e := by
  refine Outcome.reaches_iff (w := fun ss => (Segment.resolveAll b ss).outcome = .error e) ?_ ?_ ss
  · simp [Segment.resolveAll, Traced.ok]
  · intro s ss
    cases s with
    | literal s => simp [Segment.resolveAll, Traced.bind_eq_error, Segment.Fails, Traced.ok]
    | decision d =>
      simp only [Segment.resolveAll, Traced.bind_eq_error, Segment.Fails, Traced.ok,
        ← Decision.resolve_eq_error]
      rcases (d.resolve b).outcome with e' | v <;> simp

/-- Evaluating the template ends with the error of its first decision that fails. -/
def Template.Fails (b : Binding) (e : EvalError) (t : Template) : Prop :=
  ∃ before s after, t.segments = before ++ s :: after ∧ (∀ r ∈ before, ∀ e', ¬ r.Fails b e') ∧
    s.Fails b e

end QueryTemplate
