import QueryTemplate.Proofs.Document.RoundTrip
import QueryTemplate.Proofs.Evaluation.RestoredEquality

/-!
# Evaluating what comes back from a document

A condition with its compare values as they come back is decided as the condition that was written,
and a template chooses the same texts.  So a document that is read as the template with its compare
values as they come back says what the template said, to every binding that shares none of the
objects that were replaced.
-/

namespace QueryTemplate

open Outcome

/-- An operator holds of what comes back as it holds of what was written. -/
lemma Operator.agree_holds (op : Operator) {a v : Value} (hv : v.Keyed) (ha : a.WellFormed)
    (h : a.Detached v) : Agree v.Writable (op.holds a v) (op.holds a v.restored) := by
  cases op with
  | eq => exact (Value.agree_same hv ha h).mapError _
  | ne => exact ((Value.agree_same hv ha h).map not).mapError _
  | isIn => exact (Value.agree_memberOf hv ha h).map (· == some true)
  | notIn => exact (Value.agree_memberOf hv ha h).map (· == some false)
  | gt | ge | lt | le => exact .of_eq (by simp [holds, holdsWith, holdsOrdered])

/-! ## Bindings -/

namespace Binding

/-- What the name is bound to is as it is made, and it shares no object with the compare value that
is not a number. -/
def Suits (b : Binding) (v : Value) (name : String) : Prop :=
  ∀ a, b.get? name = some a → a.WellFormed ∧ a.Detached v

/-- Every bound value is as it is made, and it shares no object with the compare value that is not a
number. -/
def SuitsAll (b : Binding) (v : Value) : Prop :=
  ∀ e ∈ b.entries, e.2.WellFormed ∧ e.2.Detached v

lemma SuitsAll.suits {b : Binding} {v : Value} (h : b.SuitsAll v) (name : String) :
    b.Suits v name := by
  intro a ha
  obtain ⟨e, he, hv⟩ := List.exists_of_findSome?_eq_some ha
  split at hv
  · split_ifs at hv
    obtain rfl := Option.some.inj hv
    exact h _ he
  · cases hv

/-- The binding suits the compare value, which is as it is made and can be written. -/
structure Admits (b : Binding) (v : Value) : Prop where
  made : v.WellFormed
  written : ∃ j, v.encode = .ok j
  suits : b.SuitsAll v

lemma Admits.keyed {b : Binding} {v : Value} (h : b.Admits v) : v.Keyed := by
  obtain ⟨j, hj⟩ := h.written
  exact ⟨h.made, Value.hasTextKeys_of_encode hj⟩

end Binding

/-! ## Conditions -/

namespace Condition

variable {b : Binding}

lemma anyHolds_cons (c : Condition) (cs : List Condition) :
    anyHolds b (c :: cs) = c.eval b >>= fun holds => if holds then .ok true else anyHolds b cs := by
  rw [anyHolds]
  rcases c.eval b with e | _ | _ <;> rfl

/-- A comparison with what comes back is decided alike. -/
theorem agree_compare {v : Value} (hv : v.Keyed) {name : String} (hb : b.Suits v name)
    (op : Operator) : Agree v.Writable ((Condition.compare name op v).eval b)
      ((Condition.compare name op v.restored).eval b) := by
  rw [eval, eval]
  cases hget : b.get? name with
  | none => exact .of_eq rfl
  | some a =>
    obtain ⟨hmade, hdetached⟩ := hb a hget
    exact (op.agree_holds hv hmade hdetached).mapError _

mutual

/-- **A condition that comes back is decided alike.** -/
theorem agree_eval : ∀ c : Condition, c.OnValues b.Admits →
    Agree (c.OnValues Value.Writable) (c.eval b) (c.restored.eval b)
  | .compare name op v, h => by
    have hv := h v (List.mem_singleton_self v)
    exact (agree_compare hv.keyed (hv.suits.suits name) op).mono
      fun h => h v (List.mem_singleton_self v)
  | .noneOf cs, h => (agree_anyHolds cs h).map not
  | .hasParam _, _ | .hasNoParam _, _ | .isNull _, _ | .isNotNull _, _ | .isTrue _, _
  | .isFalse _, _ | .contains _ _, _ | .nullOrEmpty _ _, _ | .literal _, _ => .of_eq rfl
termination_by structural x => x

theorem agree_anyHolds : ∀ cs : List Condition, (∀ v ∈ compareValuesOf cs, b.Admits v) →
    Agree (∀ v ∈ compareValuesOf cs, v.Writable) (anyHolds b cs) (anyHolds b (restoredEach cs))
  | [], _ => .of_eq rfl
  | c :: cs, h => by
    rw [compareValuesOf, List.forall_mem_append] at h ⊢
    rw [restoredEach, anyHolds_cons, anyHolds_cons]
    refine ((agree_eval c h.1).mono And.left).bind fun holds => ?_
    cases holds with
    | true => exact .of_eq rfl
    | false => exact (agree_anyHolds cs h.2).mono And.right
termination_by structural x => x

end

mutual

/-- A condition comes back with a form in messages exactly if it had one. -/
lemma formError?_restored : ∀ c : Condition, c.OnValues b.Admits →
    c.restored.formError? = c.formError?
  | .compare _ _ v, h => by
    obtain ⟨j, hj⟩ := (h v (List.mem_singleton_self v)).written
    exact Value.formError?_restored hj
  | .noneOf cs, h => formErrorAmong?_restored cs h
  | .hasParam _, _ | .hasNoParam _, _ | .isNull _, _ | .isNotNull _, _ | .isTrue _, _
  | .isFalse _, _ | .contains _ _, _ | .nullOrEmpty _ _, _ | .literal _, _ => rfl
termination_by structural x => x

lemma formErrorAmong?_restored : ∀ cs : List Condition, (∀ v ∈ compareValuesOf cs, b.Admits v) →
    formErrorAmong? (restoredEach cs) = formErrorAmong? cs
  | [], _ => rfl
  | c :: cs, h => by
    rw [compareValuesOf, List.forall_mem_append] at h
    rw [restoredEach, formErrorAmong?, formErrorAmong?, formError?_restored c h.1,
      formErrorAmong?_restored cs h.2]
termination_by structural x => x

end

end Condition

/-! ## Templates -/

section Templates

variable {b : Binding}

lemma agree_firstHolding {as : List Alternative} (index : ℕ)
    (h : ∀ a ∈ as, a.condition.OnValues b.Admits) :
    Agree (∀ a ∈ as, a.condition.OnValues Value.Writable) (firstHolding b index as)
      (firstHolding b index (as.map Alternative.restored)) := by
  have hcons : ∀ (a : Alternative) (index : ℕ) (rest : List Alternative),
      firstHolding b index (a :: rest) = a.condition.eval b >>= fun holds =>
        if holds then .ok (some (index, a.text)) else firstHolding b (index + 1) rest := by
    intro a index rest
    rw [firstHolding]
    rcases a.condition.eval b with e | _ | _ <;> rfl
  induction as generalizing index with
  | nil => exact .of_eq rfl
  | cons a as ih =>
    rw [List.forall_mem_cons] at h ⊢
    rw [List.map_cons, hcons, hcons]
    refine ((Condition.agree_eval a.condition h.1).mono And.left).bind fun holds => ?_
    cases holds with
    | true => exact .of_eq rfl
    | false => exact (ih (index + 1) h.2).mono And.right

/-- A chain that comes back chooses the same text. -/
lemma Chain.agree_choose {c : Chain}
    (h : ∀ d ∈ c.conditions, d.OnValues b.Admits) :
    Agree (∀ d ∈ c.conditions, d.OnValues Value.Writable) ((c.choose b).map Choice.text)
      ((c.restored.choose b).map Choice.text) := by
  have hmem : ∀ a ∈ c.alternatives, a.condition ∈ c.conditions := fun a ha =>
    List.mem_append_left _ (List.mem_map_of_mem ha)
  have hfirst := (agree_firstHolding 0 fun a ha => h _ (hmem a ha)).mono
    fun h : ∀ d ∈ c.conditions, d.OnValues Value.Writable => fun a ha => h _ (hmem a ha)
  obtain ⟨alternatives, elseText, dangling⟩ := c
  cases dangling with
  | none => exact (hfirst.map _).map _
  | some d =>
    have hform := d.formError?_restored (h d (by simp [conditions]))
    refine .of_eq ?_
    simp only [choose, restored, Option.map_some, hform]
    cases d.formError? <;> rfl

lemma Decision.agree_resolve {d : Decision}
    (h : ∀ c ∈ d.conditions, c.OnValues b.Admits) :
    Agree (∀ c ∈ d.conditions, c.OnValues Value.Writable) (d.resolve b).outcome
      (d.restored.resolve b).outcome := by
  cases d with
  | branch br =>
    rw [conditions, List.forall_mem_singleton] at h ⊢
    exact (Condition.agree_eval br.condition h).map _
  | chain c =>
    have hresolve : ∀ c : Chain, ((Decision.chain c).resolve b).outcome =
        ((c.choose b).map Choice.text).map .text := by
      intro c
      rw [resolve]
      rcases c.choose b with e | choice <;> rfl
    rw [restored, hresolve, hresolve]
    exact (Chain.agree_choose h).map _

lemma Segment.agree_resolveAll {ss : List Segment}
    (h : ∀ c ∈ ss.flatMap Segment.conditions, c.OnValues b.Admits) :
    Agree (∀ c ∈ ss.flatMap Segment.conditions, c.OnValues Value.Writable)
      (resolveAll b ss).outcome (resolveAll b (ss.map restored)).outcome := by
  induction ss with
  | nil => exact .of_eq rfl
  | cons s ss ih =>
    rw [List.flatMap_cons, List.forall_mem_append] at h ⊢
    have hrest := (ih h.2).mono (q := (∀ c ∈ s.conditions, c.OnValues Value.Writable) ∧ _) And.right
    rw [List.map_cons]
    cases s with
    | literal s =>
      rw [restored, resolveAll, resolveAll, Traced.outcome_bind, Traced.outcome_bind]
      exact hrest.bind fun vs => .of_eq rfl
    | decision d =>
      rw [restored, resolveAll, resolveAll, Traced.outcome_bind, Traced.outcome_bind]
      refine ((Decision.agree_resolve h.1).mono And.left).bind fun v => ?_
      rw [Traced.outcome_bind, Traced.outcome_bind]
      exact hrest.bind fun vs => .of_eq rfl

/-- **A template that comes back has the same text.** -/
theorem Template.agree_eval {t : Template} (h : t.OnValues b.Admits) :
    Agree (t.OnValues Value.Writable) (t.eval b).outcome (t.restored.eval b).outcome := by
  rw [eval, eval, Traced.outcome_bind, Traced.outcome_bind]
  exact ((Segment.agree_resolveAll h).mapError _).bind fun vs => .of_eq rfl

end Templates

namespace Template

/-- **Lossless or failing.** A template cannot be written, or it comes back with its compare values
as they come back, exactly where a document keeps them.  Then every comparison with such a value has
the answers it had, and so has the template, under every binding that shares no object with them
that is not a number. -/
theorem document_keeps_comparisons (t : Template) (hmade : t.OnValues Value.WellFormed)
    (htexts : ∀ s ∈ t.segments, s.HasTexts) (layout : Json.Layout) :
    (∃ e, t.document layout = .error e) ∨
    ∃ s, t.document layout = .ok s ∧
      (ofDocument s = .ok t.restored ↔
        t.nesting ≤ maxNesting ∧ t.OnValues Value.Legible ∧ t.OnValues Value.Lossless) ∧
      (t.OnValues fun v => ∀ (name : String) (op : Operator) (b : Binding), b.Suits v name →
        Agree v.Writable ((Condition.compare name op v).eval b)
          ((Condition.compare name op v.restored).eval b)) ∧
      ∀ b : Binding, t.OnValues b.SuitsAll →
        Agree (t.OnValues Value.Writable) (t.eval b).outcome (t.restored.eval b).outcome := by
  cases hj : t.toJson with
  | error e => exact .inl ⟨e, by rw [document, hj]; rfl⟩
  | ok j =>
    have hwritten := (comesBack hmade htexts hj).written
    refine .inr ⟨j.render layout, document_eq_ok.mpr ⟨j, hj, rfl⟩,
      ofDocument_render hmade htexts hj layout, ?_, ?_⟩
    · intro c hc v hv name op b hb
      obtain ⟨i, hi⟩ := hwritten c hc v hv
      exact Condition.agree_compare ⟨hmade c hc v hv, Value.hasTextKeys_of_encode hi⟩ hb op
    · intro b hb
      exact agree_eval fun c hc v hv => ⟨hmade c hc v hv, hwritten c hc v hv, hb c hc v hv⟩

theorem offers_keeps_comparisons :
    (∃ e, (comparing offers).document .compact = .error e) ∨
    ∃ s, (comparing offers).document .compact = .ok s ∧
      (ofDocument s = .ok (comparing offers).restored ↔
        (comparing offers).nesting ≤ maxNesting ∧ (comparing offers).OnValues Value.Legible ∧
          (comparing offers).OnValues Value.Lossless) ∧
      ((comparing offers).OnValues fun v =>
        ∀ (name : String) (op : Operator) (b : Binding), b.Suits v name →
          Agree v.Writable ((Condition.compare name op v).eval b)
            ((Condition.compare name op v.restored).eval b)) ∧
      ∀ b : Binding, (comparing offers).OnValues b.SuitsAll →
        Agree ((comparing offers).OnValues Value.Writable) ((comparing offers).eval b).outcome
          ((comparing offers).restored.eval b).outcome :=
  document_keeps_comparisons (comparing offers) (comparing_onValues.mpr wellFormed_offers)
    comparing_hasTexts .compact

/-- A comparison with infinity is written and comes back as one with null. -/
theorem not_lossless_or_failing :
    ¬ ∀ t : Template, t.OnValues Value.WellFormed → (∀ s ∈ t.segments, s.HasTexts) →
      ∀ layout s, t.document layout = .ok s →
        ∃ t', ofDocument s = .ok t' ∧
          ∀ b : Binding, t.OnValues b.SuitsAll → (t'.eval b).outcome = (t.eval b).outcome := by
  intro h
  have hmade : ∀ v : Value, v.parts = [] → v.Proper → (comparing v).OnValues Value.WellFormed :=
    fun v hparts hv => comparing_onValues.mpr ((Value.everywhere_single hparts).mpr hv)
  have hwritten : (comparing (.number (.float (.infinite false)))).document .compact =
      .ok ((comparingJson (.float (.infinite false))).render .compact) :=
    document_eq_ok.mpr ⟨_, comparing_toJson rfl (by decide), rfl⟩
  obtain ⟨t', hread, heval⟩ := h _ (hmade (.number (.float (.infinite false))) rfl trivial)
    comparing_hasTexts .compact _ hwritten
  have hsame : Json.read .document ((comparingJson (.float (.infinite false))).render .compact) =
      Json.read .document ((comparingJson .null).render .compact) := by
    rw [Json.read_render (namesOnce_comparingJson (j := .float (.infinite false)) trivial),
      Json.read_render (namesOnce_comparingJson (j := .null) trivial)]
    rfl
  have hnull : ofDocument ((comparingJson .null).render .compact) = .ok (comparing .null) :=
    (ofDocument_render (hmade .null rfl trivial) comparing_hasTexts
      (comparing_toJson rfl (by decide)) .compact).mpr ⟨by decide,
        comparing_onValues.mpr ((Value.everywhere_single rfl).mpr trivial),
        comparing_onValues.mpr ((Value.everywhere_single rfl).mpr trivial)⟩
  rw [ofDocument, hsame, ← ofDocument, hnull] at hread
  obtain rfl := Except.ok.inj hread
  have hb : (comparing (.number (.float (.infinite false)))).OnValues
      (Binding.SuitsAll ⟨[(.text "a", .null)]⟩) := by
    refine comparing_onValues.mpr (List.forall_mem_singleton.mpr ⟨?_, ?_⟩)
    · exact (Value.everywhere_single rfl).mpr trivial
    · intro n hn
      cases hn with
      | inside hw => cases hw
  have hx : ((comparing .null).eval ⟨[(.text "a", .null)]⟩).outcome = .ok "x" := rfl
  have hempty : ((comparing (.number (.float (.infinite false)))).eval
      ⟨[(.text "a", .null)]⟩).outcome = .ok "" := rfl
  have heq := heval _ hb
  rw [hx, hempty] at heq
  exact absurd (Except.ok.inj heq) (by decide)

end Template

end QueryTemplate
