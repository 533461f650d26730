import QueryTemplate.Proofs.Evaluation.Contract

/-!
# What a chain chooses

The alternatives of a chain are tried in order, and so are the conditions denied by the condition
for the other case.  Both walks end at the first condition that holds or has no answer
(`anyHolds_conditions`), so that condition holds exactly where no alternative is chosen, does not
hold exactly where one is, and fails exactly where choosing fails.  An incomplete chain chooses
nothing, provided the condition that it reports has a form.
-/

namespace QueryTemplate

variable {b : Binding}

/-- An alternative is chosen whose condition is the first to hold. -/
lemma firstHolding_eq_some {as : List Alternative} {index i : ℕ} {s : String} :
    firstHolding b index as = .ok (some (i, s)) ↔
      ∃ before a after, as = before ++ a :: after ∧
        (∀ d ∈ before, d.condition.eval b = .ok false) ∧ a.condition.eval b = .ok true ∧
        i = index + before.length ∧ s = a.text := by
  induction as generalizing index with
  | nil => simp [firstHolding]
  | cons a as ih =>
    rw [firstHolding]
    constructor
    · intro h
      rcases ha : a.condition.eval b with e | _ | _ <;> simp only [ha] at h
      · simp at h
      · obtain ⟨before, c, after, rfl, hb, hc, rfl, rfl⟩ := ih.mp h
        refine ⟨a :: before, c, after, rfl, List.forall_mem_cons.mpr ⟨ha, hb⟩, hc, ?_, rfl⟩
        rw [List.length_cons]
        omega
      · obtain ⟨rfl, rfl⟩ : index = i ∧ a.text = s := by simpa using h
        exact ⟨[], a, as, rfl, by simp, ha, rfl, rfl⟩
    · rintro ⟨before, c, after, has, hb, hc, rfl, rfl⟩
      cases before with
      | nil =>
        obtain ⟨rfl, rfl⟩ := List.cons.inj has
        simp [hc]
      | cons d before =>
        obtain ⟨rfl, rfl⟩ := List.cons.inj has
        obtain ⟨hd, hb⟩ := List.forall_mem_cons.mp hb
        simp only [hd]
        refine ih.mpr ⟨before, c, after, rfl, hb, hc, ?_, rfl⟩
        rw [List.length_cons]
        omega

namespace Chain

/-- A complete chain chooses by its alternatives. -/
lemma choose_of_isComplete {c : Chain} (hc : c.isComplete) :
    c.choose b = (firstHolding b 0 c.alternatives).map fun
      | some (index, text) => .alternative index text
      | none => (c.elseText.map .elseText).getD .nothing := by
  obtain ⟨as, elseText, dangling⟩ := c
  obtain rfl : dangling = none := Option.isNone_iff_eq_none.mp hc
  rfl

/-- The condition for the other case asks whether an alternative is chosen. -/
lemma eval_elseCondition (c : Chain) :
    c.elseCondition.eval b = (firstHolding b 0 c.alternatives).map Option.isNone := by
  rw [elseCondition, Condition.eval, anyHolds_conditions c.alternatives 0]
  rcases firstHolding b 0 c.alternatives with e | _ | _ <;> rfl

/-- What a chain chooses is what it stands for. -/
lemma outcome_resolve (c : Chain) :
    ((Decision.chain c).resolve b).outcome = (c.choose b).map fun choice => .text choice.text := by
  rw [Decision.resolve]
  rcases c.choose b with e | choice <;> rfl

end Chain

/-- No alternative is chosen exactly where the search for one ends with none; the text for the other
case is then chosen, if there is one. -/
lemma Chain.choose_eq_ok_of_isComplete {c : Chain} (hc : c.isComplete) {choice : Choice} :
    c.choose b = .ok choice ↔
      (firstHolding b 0 c.alternatives = .ok none ∧
          choice = (c.elseText.map .elseText).getD .nothing) ∨
        ∃ index s, firstHolding b 0 c.alternatives = .ok (some (index, s)) ∧
          choice = .alternative index s := by
  rw [choose_of_isComplete hc, Outcome.map_eq_ok]
  constructor
  · rintro ⟨_ | ⟨index, s⟩, h, rfl⟩
    · exact .inl ⟨h, rfl⟩
    · exact .inr ⟨index, s, h, rfl⟩
  · rintro (⟨h, rfl⟩ | ⟨index, s, h, rfl⟩)
    · exact ⟨none, h, rfl⟩
    · exact ⟨some (index, s), h, rfl⟩

section Complete

variable {c : Chain}

lemma Chain.elseCondition_eq_true (hc : c.isComplete) :
    c.elseCondition.eval b = .ok true ↔
      ∃ choice, c.choose b = .ok choice ∧ ∀ index s, choice ≠ .alternative index s := by
  rw [eval_elseCondition, Outcome.map_eq_ok]
  constructor
  · rintro ⟨_ | found, h, hnone⟩
    · refine ⟨_, (choose_eq_ok_of_isComplete hc).mpr (.inl ⟨h, rfl⟩), ?_⟩
      cases c.elseText <;> simp
    · cases hnone
  · rintro ⟨choice, h, hne⟩
    rcases (choose_eq_ok_of_isComplete hc).mp h with ⟨hnone, -⟩ | ⟨index, s, -, rfl⟩
    · exact ⟨none, hnone, rfl⟩
    · exact absurd rfl (hne index s)

lemma Chain.outcome_of_elseCondition (hc : c.isComplete) (h : c.elseCondition.eval b = .ok true) :
    ((Decision.chain c).resolve b).outcome = .ok (.text (c.elseText.getD "")) := by
  obtain ⟨choice, hchoice, hne⟩ := (elseCondition_eq_true hc).mp h
  rw [outcome_resolve, hchoice]
  rcases (choose_eq_ok_of_isComplete hc).mp hchoice with ⟨-, rfl⟩ | ⟨index, s, -, rfl⟩
  · cases c.elseText <;> rfl
  · exact absurd rfl (hne index s)

lemma Chain.elseCondition_eq_false (hc : c.isComplete) :
    c.elseCondition.eval b = .ok false ↔
      ∃ before a after, c.alternatives = before ++ a :: after ∧
        (∀ d ∈ before, d.condition.eval b = .ok false) ∧ a.condition.eval b = .ok true ∧
        c.choose b = .ok (.alternative before.length a.text) ∧
        ((Decision.chain c).resolve b).outcome = .ok (.text a.text) := by
  rw [eval_elseCondition, Outcome.map_eq_ok]
  constructor
  · rintro ⟨_ | ⟨index, s⟩, h, hsome⟩
    · cases hsome
    · have hchoose := (choose_eq_ok_of_isComplete hc).mpr (.inr ⟨index, s, h, rfl⟩)
      obtain ⟨before, a, after, has, hb, ha, rfl, rfl⟩ := firstHolding_eq_some.mp h
      rw [Nat.zero_add] at hchoose
      exact ⟨before, a, after, has, hb, ha, hchoose, by rw [outcome_resolve, hchoose]; rfl⟩
  · rintro ⟨before, a, after, has, hb, ha, -, -⟩
    exact ⟨_, firstHolding_eq_some.mpr ⟨before, a, after, has, hb, ha, rfl, rfl⟩, rfl⟩

lemma Chain.elseCondition_eq_error (hc : c.isComplete) {e : EvalError} :
    c.elseCondition.eval b = .error e ↔ ((Decision.chain c).resolve b).outcome = .error e := by
  rw [eval_elseCondition, outcome_resolve, choose_of_isComplete hc, Outcome.map_eq_error,
    Outcome.map_eq_error, Outcome.map_eq_error]

end Complete

/-- A branch stands for what the chain of its one alternative stands for. -/
lemma Branch.outcome_resolve (condition : Condition) (text : String) (elseText : Option String) :
    ((Decision.branch ⟨condition, text, (elseText.map Value.text).getD .null⟩).resolve b).outcome =
      ((Decision.chain ⟨[⟨condition, text⟩], elseText, none⟩).resolve b).outcome := by
  rw [Chain.outcome_resolve, Chain.choose_of_isComplete rfl, firstHolding, firstHolding]
  rw [Decision.resolve, Traced.lift, Branch.resolve]
  rcases condition.eval b with e | _ | _
  · rfl
  · -- the empty text for the other case counts as none, but is the same text
    rcases elseText with _ | s
    · rfl
    · by_cases hs : s = "" <;> simp [Except.map, Value.isTruthy, Choice.text, hs]
  · rfl

/-- A chain that is not complete reports its condition without a text, which may have no form. -/
lemma Chain.outcome_of_dangling {c : Chain} {d : Condition} (h : c.dangling = some d) :
    ((Decision.chain c).resolve b).outcome =
      match d.formError? with
      | some e => .error (.noForm e)
      | none => .ok (.text "") := by
  rw [outcome_resolve, choose, h]
  cases hform : d.formError? <;> simp [hform, Except.map, Choice.text]

/-- For a complete chain, the condition for the other case holds exactly where no alternative is
chosen, and the chain then stands for the text for that case; it does not hold exactly where the
chain stands for the text of an alternative whose condition is the first to hold; and it has no
answer exactly where the chain has none, for the same reason.  A branch stands for what the chain of
its one alternative stands for.  An incomplete chain stands for the empty text exactly where its
condition without a text has a form, and otherwise fails for want of one. -/
theorem Chain.choice_agrees_with_elseCondition (b : Binding) :
    (∀ c : Chain, c.isComplete →
      (c.elseCondition.eval b = .ok true ↔
        ∃ choice, c.choose b = .ok choice ∧ ∀ index s, choice ≠ .alternative index s) ∧
      (c.elseCondition.eval b = .ok true →
        ((Decision.chain c).resolve b).outcome = .ok (.text (c.elseText.getD ""))) ∧
      (c.elseCondition.eval b = .ok false ↔
        ∃ before a after, c.alternatives = before ++ a :: after ∧
          (∀ d ∈ before, d.condition.eval b = .ok false) ∧ a.condition.eval b = .ok true ∧
          c.choose b = .ok (.alternative before.length a.text) ∧
          ((Decision.chain c).resolve b).outcome = .ok (.text a.text)) ∧
      (∀ e, c.elseCondition.eval b = .error e ↔
        ((Decision.chain c).resolve b).outcome = .error e)) ∧
    (∀ (condition : Condition) (text : String) (elseText : Option String),
      ((Decision.branch
          ⟨condition, text, (elseText.map Value.text).getD .null⟩).resolve b).outcome =
        ((Decision.chain ⟨[⟨condition, text⟩], elseText, none⟩).resolve b).outcome) ∧
    (∀ c : Chain, ¬ c.isComplete → ∃ d, c.dangling = some d ∧
      (((Decision.chain c).resolve b).outcome = .ok (.text "") ↔ d.formError? = none) ∧
      ∀ e, ((Decision.chain c).resolve b).outcome = .error e ↔
        ∃ f, d.formError? = some f ∧ e = .noForm f) := by
  refine ⟨fun c hc => ?_, Branch.outcome_resolve, fun c hc => ?_⟩
  · exact ⟨elseCondition_eq_true hc, outcome_of_elseCondition hc, elseCondition_eq_false hc,
      fun e => elseCondition_eq_error hc⟩
  · rw [isComplete, Option.isNone_iff_eq_none] at hc
    obtain ⟨d, hd⟩ := Option.ne_none_iff_exists'.mp hc
    refine ⟨d, hd, ?_⟩
    rw [outcome_of_dangling hd]
    cases d.formError? <;> simp [eq_comm]

/-- A chain whose second condition needs a parameter that the first does not. -/
def Chain.admission : Chain :=
  ⟨[⟨.hasParam ⟨"guest", []⟩, "free"⟩, ⟨.compare "age" .ge (.int 18), "full"⟩], some "half", none⟩

/-- A guest hides that the age is missing; without a guest nothing is chosen and nothing denied. -/
theorem Chain.admission_of_guest :
    admission.isComplete ∧
      admission.elseCondition.eval ⟨[(.text "guest", .null)]⟩ = .ok false ∧
      ((Decision.chain admission).resolve ⟨[(.text "guest", .null)]⟩).outcome = .ok (.text "free") ∧
      admission.elseCondition.eval .empty = .error (.missingParameter "age") ∧
      ((Decision.chain admission).resolve .empty).outcome = .error (.missingParameter "age") := by
  obtain ⟨-, -, hfalse, -⟩ :=
    (choice_agrees_with_elseCondition ⟨[(.text "guest", .null)]⟩).1 admission rfl
  obtain ⟨-, -, -, herror⟩ := (choice_agrees_with_elseCondition .empty).1 admission rfl
  have hmissing : admission.elseCondition.eval .empty = .error (.missingParameter "age") := rfl
  exact ⟨rfl, hfalse.mpr ⟨[], _, _, rfl, by simp, rfl, rfl, rfl⟩, rfl, hmissing,
    (herror _).mp hmissing⟩

/-- A chain that is left with a condition on the least number of too many digits. -/
def Chain.countless : Chain :=
  ⟨[], none, some (.compare "a" .eq (.int (Nat.pow 10 maxDigits : ℕ)))⟩

/-- So an incomplete chain may fail where it is only to be reported. -/
theorem Chain.not_every_incomplete_chain_empty :
    ¬ ∀ (b : Binding) (c : Chain), ¬ c.isComplete →
      ((Decision.chain c).resolve b).outcome = .ok (.text "") := by
  intro h
  have hform : (Condition.compare "a" .eq (.int (Nat.pow 10 maxDigits : ℕ))).formError? =
      some .tooLong := by
    rw [Condition.formError?, Value.int, Value.formError?, Number.formError?, Number.hasManyDigits,
      hasManyDigits_natCast.mpr (Nat.le_refl _)]
    rfl
  have hempty := h .empty countless (by decide)
  rw [outcome_of_dangling rfl, hform] at hempty
  cases hempty

end QueryTemplate
