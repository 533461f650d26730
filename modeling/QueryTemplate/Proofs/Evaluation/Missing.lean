import QueryTemplate.Proofs.Evaluation.Contract

/-!
# When a parameter is missing

A parameter is missing where it is not bound and the evaluation gets to a comparison of it, which
may stand in a condition, among conditions that are denied, or in a complete chain.

An alternative for the case that a parameter is not bound guards the alternatives behind it: whether
the parameter is missing does not depend on those (`missing_only_where_compared`), since where they
are reached it is bound.
-/

namespace QueryTemplate

/-! ## Comparisons -/

/-- A comparison in the condition is of the parameter. -/
inductive Condition.Compares (name : String) : Condition → Prop where
  | compare {op : Operator} {v : Value} : Compares name (.compare name op v)
  | noneOf {cs : List Condition} {c : Condition} (hc : c ∈ cs) (h : Compares name c) :
      Compares name (.noneOf cs)

/-- The condition holds where the parameter is not bound, and asks for nothing else. -/
def Condition.IsGuard (name : String) (c : Condition) : Prop :=
  c = .hasNoParam ⟨name, []⟩

/-- An alternative of the chain compares the parameter.  No condition of an incomplete chain is ever
decided. -/
def Chain.Compares (name : String) (c : Chain) : Prop :=
  c.isComplete ∧ ∃ a ∈ c.alternatives, a.condition.Compares name

/-- An alternative of the chain compares the parameter, and no guard stands before it. -/
def Chain.Exposes (name : String) (c : Chain) : Prop :=
  c.isComplete ∧ ∃ before a after, c.alternatives = before ++ a :: after ∧
    (∀ d ∈ before, ¬ d.condition.IsGuard name) ∧ a.condition.Compares name

/-- The decision compares the parameter. -/
def Decision.Compares (name : String) : Decision → Prop
  | .branch br => br.condition.Compares name
  | .chain c => c.Compares name

/-- The decision compares the parameter where no guard stands before it. -/
def Decision.Exposes (name : String) : Decision → Prop
  | .branch br => br.condition.Compares name
  | .chain c => c.Exposes name

lemma Decision.Exposes.compares {name : String} {d : Decision} (h : d.Exposes name) :
    d.Compares name := by
  cases d with
  | branch br => exact h
  | chain c =>
    obtain ⟨hc, before, a, after, has, -, ha⟩ := h
    exact ⟨hc, a, has ▸ List.mem_append_cons_self, ha⟩

/-- The template compares the parameter. -/
def Template.Compares (name : String) (t : Template) : Prop :=
  ∃ d ∈ t.decisions, d.Compares name

/-- The template compares the parameter where no guard stands before it. -/
def Template.Exposes (name : String) (t : Template) : Prop :=
  ∃ d ∈ t.decisions, d.Exposes name

/-- Evaluating the template for the map ends because the parameter is missing. -/
def Template.Misses (name : String) (t : Template) (readOnly : Bool) (es : List (Value × Value)) :
    Prop :=
  (t.evalWith (.map readOnly es)).outcome = .error (.eval (.missingParameter name))

/-! ## What is missing is compared -/

section Missing

variable {b : Binding} {name : String}

/-- A comparison ends with an error of its own. -/
lemma ofComparison_ne_missing (e : ComparisonError) (name : String) :
    EvalError.ofComparison e ≠ .missingParameter name := by
  cases e <;> exact nofun

lemma Condition.of_missing {e : EvalError} {c : Condition} (h : c.Fails b e)
    (he : e = .missingParameter name) : b.get? name = none ∧ c.Compares name := by
  induction h with
  | isTrue | isFalse | compare => exact absurd he (ofComparison_ne_missing _ _)
  | nullOrEmpty => cases he
  | missing unbound =>
    obtain rfl := EvalError.missingParameter.inj he
    exact ⟨unbound, .compare⟩
  | noneOf _ _ ih => exact ⟨(ih he).1, .noneOf List.mem_append_cons_self (ih he).2⟩

/-- Where the parameter is not bound its guard holds. -/
lemma Condition.IsGuard.eval {c : Condition} (hc : c.IsGuard name) (h : b.get? name = none) :
    c.eval b = .ok true := by
  obtain rfl := hc
  simp [Condition.eval, Names.toList, Binding.contains, h]

lemma Decision.of_missing {d : Decision} (h : d.Fails b (.missingParameter name)) :
    b.get? name = none ∧ d.Exposes name := by
  cases d with
  | branch br => exact Condition.of_missing h rfl
  | chain c =>
    cases h with
    | alternative unchosen here =>
      obtain ⟨hunbound, hcompares⟩ := Condition.of_missing here rfl
      refine ⟨hunbound, rfl, _, _, _, rfl, ?_, hcompares⟩
      intro d hd hguard
      have hfalse := unchosen d hd
      rw [hguard.eval hunbound] at hfalse
      cases hfalse

lemma Template.of_missing {t : Template} {readOnly : Bool} {es : List (Value × Value)}
    (h : t.Misses name readOnly es) :
    (Binding.mk es).get? name = none ∧ t.Exposes name := by
  obtain ⟨before, s, after, hs, -, hfails⟩ := eval_eq_error.mp h
  cases s with
  | literal => exact hfails.elim
  | decision d =>
    obtain ⟨hunbound, hexposes⟩ := Decision.of_missing hfails
    exact ⟨hunbound, d, by simp [decisions, hs], hexposes⟩

/-! ## What a guard hides -/

/-- Where the parameter is not bound, no alternative behind its guard is tried. -/
lemma firstHolding_guard {guard : Alternative} (hguard : guard.condition.IsGuard name)
    (h : b.get? name = none) (before after after' : List Alternative) (index : ℕ) :
    firstHolding b index (before ++ guard :: after) =
      firstHolding b index (before ++ guard :: after') := by
  induction before generalizing index with
  | nil => simp [firstHolding, hguard.eval h]
  | cons a before ih => rw [List.cons_append, List.cons_append, firstHolding, firstHolding, ih]

lemma Segment.resolveAll_decision {d d' : Decision} (h : d.resolve b = d'.resolve b)
    (before after : List Segment) :
    resolveAll b (before ++ .decision d :: after) =
      resolveAll b (before ++ .decision d' :: after) := by
  induction before with
  | nil => rw [List.nil_append, List.nil_append, resolveAll, resolveAll, h]
  | cons s before ih =>
    cases s with
    | literal s => rw [List.cons_append, List.cons_append, resolveAll, resolveAll, ih]
    | decision d => rw [List.cons_append, List.cons_append, resolveAll, resolveAll, ih]

/-- A template with a complete chain of the alternatives among its segments. -/
def Template.around (pre post : List Segment) (elseText : Option String)
    (alternatives : List Alternative) : Template :=
  ⟨pre ++ .decision (.chain ⟨alternatives, elseText, none⟩) :: post⟩

/-- Where the parameter is not bound, what stands behind its guard plays no role at all. -/
lemma Template.eval_guard {guard : Alternative} (hguard : guard.condition.IsGuard name)
    (h : b.get? name = none) (pre post : List Segment) (elseText : Option String)
    (before after after' : List Alternative) :
    (around pre post elseText (before ++ guard :: after)).eval b =
      (around pre post elseText (before ++ guard :: after')).eval b := by
  have hchoose : (Chain.mk (before ++ guard :: after) elseText none).choose b =
      (Chain.mk (before ++ guard :: after') elseText none).choose b := by
    rw [Chain.choose, Chain.choose, firstHolding_guard hguard h before after after']
  have hresolve : (Decision.chain ⟨before ++ guard :: after, elseText, none⟩).resolve b =
      (Decision.chain ⟨before ++ guard :: after', elseText, none⟩).resolve b := by
    rw [Decision.resolve, Decision.resolve, hchoose]
  rw [eval, eval, around, around, Segment.resolveAll_decision hresolve]

lemma Template.misses_guard {guard : Alternative} (hguard : guard.condition.IsGuard name)
    (readOnly : Bool) (es : List (Value × Value)) (pre post : List Segment)
    (elseText : Option String) (before after after' : List Alternative) :
    (around pre post elseText (before ++ guard :: after)).Misses name readOnly es ↔
      (around pre post elseText (before ++ guard :: after')).Misses name readOnly es := by
  cases h : (Binding.mk es).get? name with
  | none =>
    have heval := eval_guard hguard h pre post elseText before after after'
    exact Eq.congr_left (congrArg Traced.outcome heval)
  | some v =>
    have hbound : ∀ t : Template, ¬ t.Misses name readOnly es := by
      intro t ht
      rw [(of_missing ht).1] at h
      cases h
    exact iff_of_false (hbound _) (hbound _)

end Missing

/-- **Only a real gap is missing.**  Where evaluating a template for a map ends because a parameter
is missing, it is not bound, and the template compares it where no guard stands before the
comparison.  If all parameters that it compares are bound, none is missing.  What stands behind the
guard of a parameter in a complete chain makes no difference to whether the parameter is missing. -/
theorem Template.missing_only_where_compared (t : Template) (readOnly : Bool)
    (es : List (Value × Value)) :
    (∀ name, t.Misses name readOnly es →
      (Binding.mk es).get? name = none ∧ t.Compares name ∧ t.Exposes name) ∧
    ((∀ name, t.Compares name → ∃ v, (Binding.mk es).get? name = some v) →
      ∀ name, ¬ t.Misses name readOnly es) ∧
    ∀ (name : String) (guard : Alternative), guard.condition.IsGuard name →
      ∀ (pre post : List Segment) (elseText : Option String)
        (before after after' : List Alternative),
        (around pre post elseText (before ++ guard :: after)).Misses name readOnly es ↔
          (around pre post elseText (before ++ guard :: after')).Misses name readOnly es := by
  have hmissing : ∀ name, t.Misses name readOnly es →
      (Binding.mk es).get? name = none ∧ t.Compares name ∧ t.Exposes name := by
    intro name h
    obtain ⟨hunbound, d, hd, hexposes⟩ := of_missing h
    exact ⟨hunbound, ⟨d, hd, hexposes.compares⟩, d, hd, hexposes⟩
  refine ⟨hmissing, fun hbound name h => ?_, fun name guard hguard => misses_guard hguard _ _⟩
  obtain ⟨hunbound, hcompares, -⟩ := hmissing name h
  obtain ⟨v, hv⟩ := hbound name hcompares
  rw [hunbound] at hv
  cases hv

/-- A visit, alone or in company, by somebody of an age. -/
def Template.visit : Template :=
  around [] [.decision (.branch ⟨.compare "age" .ge (.int 18), "adult", .null⟩)] none
    ([] ++ ⟨.hasNoParam ⟨"guest", []⟩, "alone"⟩ ::
      [⟨.noneOf [.compare "guest" .eq (.int 0)], "in company"⟩])

lemma Template.visit_compares {name : String} (h : visit.Compares name) :
    name = "guest" ∨ name = "age" := by
  obtain ⟨d, hd, h⟩ := h
  obtain rfl | rfl : d = _ ∨ d = _ := by simpa [visit, around, decisions] using hd
  · obtain ⟨-, a, ha, h⟩ := h
    obtain rfl | rfl : a = _ ∨ a = _ := by simpa using ha
    · cases h
    · cases h with
      | noneOf hc h =>
        obtain rfl := List.mem_singleton.mp hc
        cases h
        exact .inl rfl
  · cases h
    exact .inr rfl

/-- Nobody's age is missing; a guest is not, since a guard stands before the comparison. -/
theorem Template.visit_misses_age :
    visit.Misses "age" false [] ∧ visit.Exposes "age" ∧
    (∀ name, ¬ visit.Misses name true [(.text "guest", .int 1), (.text "age", .int 20)]) ∧
    ¬ visit.Misses "guest" false [] := by
  have hage : visit.Misses "age" false [] := rfl
  obtain ⟨hmissing, -, hguard⟩ := missing_only_where_compared visit false []
  obtain ⟨-, hbound, -⟩ := missing_only_where_compared visit true
    [(.text "guest", .int 1), (.text "age", .int 20)]
  refine ⟨hage, (hmissing "age" hage).2.2, hbound fun name h => ?_, fun h => ?_⟩
  · rcases visit_compares h with rfl | rfl
    · exact ⟨_, rfl⟩
    · exact ⟨_, rfl⟩
  · -- without the alternative behind the guard nothing compares the guest
    have hwithout := (hguard "guest" ⟨.hasNoParam ⟨"guest", []⟩, "alone"⟩ rfl _ _ _ _ _ []).mp h
    exact absurd (Except.error.inj hwithout) (by decide)

end QueryTemplate
