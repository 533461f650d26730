import Mathlib.Tactic.Common
import QueryTemplate.Condition.Eval
import QueryTemplate.Engine.Predicate
import QueryTemplate.Proofs.Engine.Grammar

/-!
# What the engine makes of a condition

A plain condition asks whether parameters are bound or null, or is a constant, or denies plain
conditions.  It always has an answer, and its predicate is a phrase, of a rank that may stand in a
conjunction, whose value is that answer.
-/

namespace QueryTemplate

namespace Engine

variable {b : Binding}

/-- The text is a phrase of the rank and has the truth value. -/
def Decides (b : Binding) (r : Rank) (s : String) (v : Bool) : Prop :=
  ∃ t, Phrase r s t ∧ t.value b = some (.bool v)

namespace Decides

variable {q r : Rank} {s l : String} {v x y : Bool}

lemma looser (h : Decides b r s v) : Decides b r.looser s v := by
  obtain ⟨t, ht, hv⟩ := h
  exact ⟨t, ht.looser, hv⟩

lemma congr {p : Prop} [Decidable p] (h : Decides b r s v) (hp : p ↔ v = true) :
    Decides b r s (decide p) := by
  simpa [hp] using h

lemma group (h : Decides b r s v) : Decides b .operand ("(" ++ s ++ ")") v := by
  obtain ⟨t, ht, hv⟩ := h
  exact ⟨t, .group ht.toChoice, hv⟩

lemma denial (h : Decides b r s v) : Decides b .negation ("!(" ++ s ++ ")") !v := by
  obtain ⟨t, ht, hv⟩ := h.group
  refine ⟨.not t, ?_, by rw [Term.value, hv]⟩
  have hsplit : "!(" ++ s ++ ")" = "!" ++ ("(" ++ s ++ ")") := by
    rw [← String.append_assoc, ← String.append_assoc]
    rfl
  exact hsplit ▸ .not ht.looser

lemma connect (op : Connective) (hl : Decides b op.rank.tighter l x) (hr : Decides b op.right s y)
    (hv : op.holds? (.bool x) (.bool y) = some v) : Decides b op.rank (l ++ op.sign ++ s) v := by
  obtain ⟨t, ht, hx⟩ := hl
  obtain ⟨u, hu, hy⟩ := hr
  refine ⟨_, .connect op ht hu, ?_⟩
  simp [Term.value, hx, hy, hv]

/-- Predicates joined by a sign that may be followed by others of its kind. -/
lemma joined (op : Connective) (fold : List Bool → Bool) (hright : op.right = op.rank)
    (hlooser : op.rank.tighter.looser = op.rank) (hone : ∀ x, fold [x] = x)
    (hcons : ∀ x vs, op.holds? (.bool x) (.bool (fold vs)) = some (fold (x :: vs)))
    {α : Type} {f : α → String} {p : α → Bool} {xs : List α}
    (h : ∀ x ∈ xs, Decides b op.rank.tighter (f x) (p x)) (hne : xs ≠ []) :
    Decides b op.rank (op.sign.intercalate (xs.map f)) (fold (xs.map p)) := by
  induction xs with
  | nil => exact absurd rfl hne
  | cons x xs ih =>
    obtain ⟨hx, hxs⟩ := List.forall_mem_cons.mp h
    cases xs with
    | nil =>
      rw [List.map_singleton, List.map_singleton, String.intercalate_singleton, hone, ← hlooser]
      exact hx.looser
    | cons x' xs =>
      rw [List.map_cons, List.map_cons, String.intercalate_cons_cons]
      exact connect op hx (hright ▸ ih hxs (List.cons_ne_nil _ _)) (hcons _ _)

lemma conjunction {α : Type} {f : α → String} {p : α → Bool} {xs : List α}
    (h : ∀ x ∈ xs, Decides b .comparison (f x) (p x)) (hne : xs ≠ []) :
    Decides b .conjunction (" and ".intercalate (xs.map f)) (xs.all p) := by
  have hall := joined .and (fun vs => vs.all id) rfl rfl (by simp) (fun _ _ => rfl) h hne
  rwa [List.all_map] at hall

lemma disjunction {α : Type} {f : α → String} {p : α → Bool} {xs : List α}
    (h : ∀ x ∈ xs, Decides b .conjunction (f x) (p x)) (hne : xs ≠ []) :
    Decides b .disjunction (" or ".intercalate (xs.map f)) (xs.any p) := by
  have hany := joined .or (fun vs => vs.any id) rfl rfl (by simp) (fun _ _ => rfl) h hne
  rwa [List.any_map] at hany

end Decides

section Parameters

variable {name : String}

lemma decides_containsKey (h : '\'' ∉ name.toList) :
    Decides b .operand (containsKey name) (b.contains name) :=
  ⟨.isBound name, .isBound h, rfl⟩

lemma decides_containsKey_false (h : '\'' ∉ name.toList) :
    Decides b .comparison (containsKey name ++ " == false") !b.contains name := by
  have hfalse : Decides b .operand "false" false := ⟨.truth false, .false, rfl⟩
  have hv : Connective.equal.holds? (.bool (b.contains name)) (.bool false) =
      some !b.contains name := by
    cases b.contains name <;> rfl
  have h := Decides.connect .equal (decides_containsKey h).looser hfalse.looser hv
  rwa [String.append_assoc] at h

lemma phrase_reference (h : '\'' ∉ name.toList) : Phrase .operand (reference name) (.param name) :=
  .param h

lemma decides_null (h : '\'' ∉ name.toList) :
    Decides b .comparison (reference name ++ " == null") (b.getD name).isNull := by
  have hp := Phrase.connect .equal (phrase_reference h).looser Phrase.null.looser
  rw [String.append_assoc] at hp
  refine ⟨_, hp, ?_⟩
  cases hv : b.getD name <;> simp [Term.value, hv, Connective.holds?, Value.isNull]

lemma decides_not_null (h : '\'' ∉ name.toList) :
    Decides b .comparison (reference name ++ " != null") !(b.getD name).isNull := by
  have hp := Phrase.connect .differ (phrase_reference h).looser Phrase.null.looser
  rw [String.append_assoc] at hp
  refine ⟨_, hp, ?_⟩
  cases hv : b.getD name <;> simp [Term.value, hv, Connective.holds?, Value.isNull]

end Parameters

/-- No name holds an apostrophe. -/
def Unmarked (ns : Names) : Prop :=
  ∀ n ∈ ns.toList, '\'' ∉ n.toList

lemma negations_eq (cs : List Condition) :
    negations cs = cs.map fun c => "!(" ++ predicate c ++ ")" := by
  induction cs with
  | nil => rfl
  | cons c cs ih => rw [negations, ih, List.map_cons]

end Engine

namespace Condition

open Engine

variable {b : Binding}

/-- The condition asks only whether parameters are bound or null, under names that need no quoting,
or denies such conditions. -/
inductive Plain : Condition → Prop where
  | hasParam {ns : Names} (h : Unmarked ns) : Plain (.hasParam ns)
  | hasNoParam {ns : Names} (h : Unmarked ns) : Plain (.hasNoParam ns)
  | isNull {ns : Names} (h : Unmarked ns) : Plain (.isNull ns)
  | isNotNull {ns : Names} (h : Unmarked ns) : Plain (.isNotNull ns)
  | contains {ns : Names} {mode : Quantity} (h : Unmarked ns) : Plain (.contains ns mode)
  | literal {value : Bool} : Plain (.literal value)
  | noneOf {cs : List Condition} (h : ∀ c ∈ cs, Plain c) : Plain (.noneOf cs)

/-- Does the condition hold?  One without an answer does not. -/
def holds (b : Binding) (c : Condition) : Bool :=
  match c.eval b with
  | .ok v => v
  | .error _ => false

lemma anyHolds_eq {cs : List Condition} (h : ∀ c ∈ cs, c.eval b = .ok (c.holds b)) :
    anyHolds b cs = .ok (cs.any (holds b)) := by
  induction cs with
  | nil => rfl
  | cons c cs ih =>
    obtain ⟨hc, hcs⟩ := List.forall_mem_cons.mp h
    rw [anyHolds, hc, List.any_cons]
    cases c.holds b
    · exact ih hcs
    · rfl

/-- A plain condition has an answer. -/
theorem Plain.eval_eq {c : Condition} (h : c.Plain) : c.eval b = .ok (c.holds b) := by
  induction h with
  | hasParam | hasNoParam | isNull | isNotNull | literal => rfl
  | @contains _ mode => cases mode <;> rfl
  | noneOf _ ih => rw [holds, eval, anyHolds_eq ih]; rfl

lemma predicateErrorAmong?_eq_none {cs : List Condition} :
    predicateErrorAmong? cs = none ↔ ∀ c ∈ cs, predicateError? c = none := by
  induction cs with
  | nil => simp [predicateErrorAmong?]
  | cons c cs ih => rw [predicateErrorAmong?, Option.or_eq_none_iff, ih, List.forall_mem_cons]

/-- A plain condition has a predicate: it holds no value that would have to be written. -/
theorem Plain.predicateError? {c : Condition} (h : c.Plain) : predicateError? c = none := by
  induction h with
  | hasParam | hasNoParam | isNull | isNotNull | contains | literal => rfl
  | noneOf _ ih => exact predicateErrorAmong?_eq_none.mpr ih

/-- The predicate of a plain condition is a phrase that may stand in a conjunction, and its value is
the answer of the condition. -/
theorem Plain.decides {c : Condition} (h : c.Plain) :
    Decides b .conjunction (predicate c) (c.holds b) := by
  induction h with
  | @hasParam ns h =>
    exact Decides.conjunction (fun n hn => (decides_containsKey (h n hn)).looser.looser)
      (List.cons_ne_nil _ _)
  | @hasNoParam ns h =>
    have hall := Decides.conjunction (b := b) (fun n hn => decides_containsKey_false (h n hn))
      (List.cons_ne_nil _ _)
    rwa [← List.not_any_eq_all_not] at hall
  | isNull h =>
    exact Decides.conjunction (fun n hn => decides_null (h n hn)) (List.cons_ne_nil _ _)
  | isNotNull h =>
    exact Decides.conjunction (fun n hn => decides_not_null (h n hn)) (List.cons_ne_nil _ _)
  | @contains ns mode h =>
    cases mode with
    | one =>
      have hany := Decides.disjunction (b := b)
        (fun n hn => (decides_containsKey (h n hn)).looser.looser.looser) (List.cons_ne_nil _ _)
      exact hany.group.looser.looser.looser
    | all =>
      have hall := Decides.conjunction (b := b)
        (fun n hn => (decides_containsKey (h n hn)).looser.looser) (List.cons_ne_nil _ _)
      exact hall.group.looser.looser.looser
  | @literal value =>
    cases value
    · exact ⟨.truth false, Phrase.false.looser.looser.looser, rfl⟩
    · exact ⟨.truth true, Phrase.true.looser.looser.looser, rfl⟩
  | @noneOf cs h ih =>
    have hholds : Condition.holds b (.noneOf cs) = cs.all fun c => !c.holds b := by
      rw [holds, eval, anyHolds_eq fun c hc => (h c hc).eval_eq, ← List.not_any_eq_all_not]
      rfl
    rw [hholds, predicate, negations_eq]
    cases cs with
    | nil => exact ⟨.truth true, Phrase.true.looser.looser.looser, rfl⟩
    | cons c cs =>
      exact Decides.conjunction (fun d hd => (ih d hd).denial.looser) (List.cons_ne_nil _ _)

end Condition

end QueryTemplate
