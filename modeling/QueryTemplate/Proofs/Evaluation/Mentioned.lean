import QueryTemplate.Proofs.Expression.References
import QueryTemplate.Template.Eval

/-!
# The parameters that a template mentions

Two bindings that agree on the names a template mentions give it the same text, the same error and
the same notices.  What an expression mentions is read off its text; that this covers the parameters
of its tree, which its evaluation asks for, is `Expression.mem_referencedParams`.
-/

namespace QueryTemplate

/-! ## Bindings that agree -/

/-- Each name is bound to the same value in both bindings, or in neither. -/
def Binding.AgreeOn (names : List String) (b b' : Binding) : Prop :=
  ∀ name ∈ names, b.get? name = b'.get? name

namespace Binding.AgreeOn

variable {names more : List String} {b b' : Binding}

lemma mono (h : AgreeOn more b b') (hsub : ∀ name ∈ names, name ∈ more) : AgreeOn names b b' :=
  fun name hname => h name (hsub name hname)

lemma left (h : AgreeOn (names ++ more) b b') : AgreeOn names b b' :=
  h.mono fun _ => List.mem_append_left more

lemma right (h : AgreeOn (names ++ more) b b') : AgreeOn more b b' :=
  h.mono fun _ => List.mem_append_right names

lemma getD_eq (h : AgreeOn names b b') {name : String} (hname : name ∈ names) :
    b.getD name = b'.getD name := by
  rw [Binding.getD, Binding.getD, h name hname]

/-- A test of what is bound to the names gives the same in both bindings. -/
lemma all_get? (h : AgreeOn names b b') (p : Option Value → Bool) :
    (names.all fun name => p (b.get? name)) = names.all fun name => p (b'.get? name) := by
  have hmap : (names.map b.get?).all p = (names.map b'.get?).all p :=
    congrArg (List.all · p) (List.map_congr_left h)
  rw [List.all_map, List.all_map] at hmap
  exact hmap

lemma any_get? (h : AgreeOn names b b') (p : Option Value → Bool) :
    (names.any fun name => p (b.get? name)) = names.any fun name => p (b'.get? name) := by
  have hmap : (names.map b.get?).any p = (names.map b'.get?).any p :=
    congrArg (List.any · p) (List.map_congr_left h)
  rw [List.any_map, List.any_map] at hmap
  exact hmap

end Binding.AgreeOn

section Agree

open Binding (AgreeOn)

variable {b b' : Binding}

/-! ## Expressions -/

namespace Tree

mutual

/-- A tree has one outcome under bindings that agree on its parameters. -/
theorem operand_congr : ∀ t : Tree, AgreeOn t.params b b' → t.operand b = t.operand b'
  | .param name, h => by
      rw [operand, operand, h.getD_eq (List.mem_singleton_self name)]
  | .const _, _ => rfl
  | .list ts, h => by rw [operand, operand, operands_congr ts h]
  | .not t, h => by rw [operand, operand, operand_congr t h]
  | .and ts, h => by rw [operand, operand, allTrue_congr ts h]
  | .or ts, h => by rw [operand, operand, anyTrue_congr ts h]
  | .compare op l r, h => by
      rw [operand, operand, operand_congr l h.left, operand_congr r h.right]
termination_by structural t => t

theorem operands_congr : ∀ ts : List Tree, AgreeOn (paramsOfAll ts) b b' →
    operands b ts = operands b' ts
  | [], _ => rfl
  | t :: ts, h => by
      rw [operands, operands, operand_congr t h.left, operands_congr ts h.right]
termination_by structural ts => ts

theorem allTrue_congr : ∀ ts : List Tree, AgreeOn (paramsOfAll ts) b b' →
    allTrue b ts = allTrue b' ts
  | [], _ => rfl
  | t :: ts, h => by
      rw [allTrue, allTrue, operand_congr t h.left, allTrue_congr ts h.right]
termination_by structural ts => ts

theorem anyTrue_congr : ∀ ts : List Tree, AgreeOn (paramsOfAll ts) b b' →
    anyTrue b ts = anyTrue b' ts
  | [], _ => rfl
  | t :: ts, h => by
      rw [anyTrue, anyTrue, operand_congr t h.left, anyTrue_congr ts h.right]
termination_by structural ts => ts

end

end Tree

/-- An expression has one value under bindings that agree on the references of its text. -/
lemma Expression.eval_congr {e : Expression} (h : AgreeOn (referencedParams e.source) b b') :
    e.eval b = e.eval b' := by
  rw [eval, eval, Tree.eval, Tree.eval, e.tree.operand_congr (h.mono fun _ => mem_referencedParams)]

/-! ## Conditions -/

lemma Binding.hasEmptiness_congr {name : String} (h : b.get? name = b'.get? name)
    (status : Emptiness) : b.hasEmptiness name status = b'.hasEmptiness name status := by
  have hblank : b.isNullOrBlank name = b'.isNullOrBlank name := by
    rw [isNullOrBlank, isNullOrBlank, h]
  have hitems : b.items? name = b'.items? name := by
    rw [items?, items?, h]
  cases status with
  | null => rw [hasEmptiness, hasEmptiness, hblank]
  | notNull => rw [hasEmptiness, hasEmptiness, hblank]
  | empty => rw [hasEmptiness, hasEmptiness, hitems]
  | notEmpty => rw [hasEmptiness, hasEmptiness, hitems]

namespace Condition

mutual

/-- The names that a condition mentions. -/
def mentioned : Condition → List String
  | .hasParam ns | .hasNoParam ns | .isNull ns | .isNotNull ns | .contains ns _ => ns.toList
  | .isTrue e | .isFalse e => referencedParams e.source
  | .compare name _ _ | .nullOrEmpty name _ => [name]
  | .literal _ => []
  | .noneOf cs => mentionedByAll cs
termination_by structural c => c

/-- The names that conditions mention. -/
def mentionedByAll : List Condition → List String
  | [] => []
  | c :: cs => c.mentioned ++ mentionedByAll cs
termination_by structural cs => cs

end

mutual

/-- A condition is decided alike under bindings that agree on the names it mentions. -/
theorem eval_congr : ∀ c : Condition, AgreeOn c.mentioned b b' → c.eval b = c.eval b'
  | .hasParam _, h => congrArg Except.ok (h.all_get? Option.isSome)
  | .hasNoParam _, h => congrArg (Except.ok !·) (h.any_get? Option.isSome)
  | .isNull _, h => congrArg Except.ok (h.all_get? fun v => (v.getD .null).isNull)
  | .isNotNull _, h => congrArg Except.ok (h.all_get? fun v => !(v.getD .null).isNull)
  | .isTrue e, h => by rw [eval, eval, e.eval_congr h]
  | .isFalse e, h => by rw [eval, eval, e.eval_congr h]
  | .compare name op w, h => by rw [eval, eval, h name (List.mem_singleton_self name)]
  | .contains _ .all, h => congrArg Except.ok (h.all_get? Option.isSome)
  | .contains _ .one, h => congrArg Except.ok (h.any_get? Option.isSome)
  | .nullOrEmpty name status, h => by
      rw [eval, eval, Binding.hasEmptiness_congr (h name (List.mem_singleton_self name)) status]
  | .literal _, _ => rfl
  | .noneOf cs, h => by rw [eval, eval, anyHolds_congr cs h]
termination_by structural c => c

theorem anyHolds_congr : ∀ cs : List Condition, AgreeOn (mentionedByAll cs) b b' →
    anyHolds b cs = anyHolds b' cs
  | [], _ => rfl
  | c :: cs, h => by
      rw [anyHolds, anyHolds, eval_congr c h.left, anyHolds_congr cs h.right]
termination_by structural cs => cs

end

end Condition

/-! ## Templates -/

/-- The names that a decision mentions; of a chain those of its alternatives. -/
def Decision.mentioned : Decision → List String
  | .branch br => br.condition.mentioned
  | .chain c => c.alternatives.flatMap fun a => a.condition.mentioned

/-- The names that a segment mentions. -/
def Segment.mentioned : Segment → List String
  | .literal _ => []
  | .decision d => d.mentioned

/-- The names that a template mentions. -/
def Template.mentioned (t : Template) : List String :=
  t.segments.flatMap Segment.mentioned

lemma firstHolding_congr {as : List Alternative}
    (h : AgreeOn (as.flatMap fun a => a.condition.mentioned) b b') (index : ℕ) :
    firstHolding b index as = firstHolding b' index as := by
  induction as generalizing index with
  | nil => rfl
  | cons a as ih =>
    rw [List.flatMap_cons] at h
    rw [firstHolding, firstHolding, a.condition.eval_congr h.left, ih h.right]

lemma Decision.resolve_congr {d : Decision} (h : AgreeOn d.mentioned b b') :
    d.resolve b = d.resolve b' := by
  cases d with
  | branch br => rw [resolve, resolve, Branch.resolve, Branch.resolve, br.condition.eval_congr h]
  | chain c => rw [resolve, resolve, Chain.choose, Chain.choose, firstHolding_congr h]

lemma Segment.resolveAll_congr {ss : List Segment}
    (h : AgreeOn (ss.flatMap Segment.mentioned) b b') : resolveAll b ss = resolveAll b' ss := by
  induction ss with
  | nil => rfl
  | cons s ss ih =>
    rw [List.flatMap_cons] at h
    cases s with
    | literal s => rw [resolveAll, resolveAll, ih h.right]
    | decision d => rw [resolveAll, resolveAll, ih h.right, Decision.resolve_congr h.left]

/-- **Nothing else matters.**  Evaluating a template for two maps that bind each name it mentions
to the same value, or both leave it unbound, ends alike: with the same text or the same error, after
the same notices. -/
theorem Template.evalWith_eq_of_mentioned (t : Template) (readOnly readOnly' : Bool)
    (es es' : List (Value × Value))
    (h : ∀ name ∈ t.mentioned, (Binding.mk es).get? name = (Binding.mk es').get? name) :
    t.evalWith (.map readOnly es) = t.evalWith (.map readOnly' es') := by
  have hagree : AgreeOn (t.segments.flatMap Segment.mentioned) ⟨es⟩ ⟨es'⟩ := h
  change t.eval ⟨es⟩ = t.eval ⟨es'⟩
  rw [eval, eval, Segment.resolveAll_congr hagree]

end Agree

/-- A letter to a mailbox, or to whoever is not of age. -/
def Template.letter : Template :=
  ⟨[.literal "to ", .decision (.chain
    ⟨[⟨.isTrue Expression.mailbox, "office"⟩, ⟨.noneOf [.compare "age" .ge (.int 18)], "home"⟩],
      none, none⟩)]⟩

lemma Template.mentioned_letter : letter.mentioned = ["mail", "b", "age"] := by
  decide +kernel

/-- A name that is not mentioned may change its value and its place. -/
theorem Template.letter_without_note :
    (∀ name ∈ letter.mentioned,
      (Binding.mk [(.text "mail", .text "a@b"), (.text "note", .int 1)]).get? name =
        (Binding.mk [(.text "note", .null), (.text "mail", .text "a@b")]).get? name) ∧
    letter.evalWith (.map false [(.text "mail", .text "a@b"), (.text "note", .int 1)]) =
      letter.evalWith (.map true [(.text "note", .null), (.text "mail", .text "a@b")]) := by
  have h : ∀ name ∈ letter.mentioned,
      (Binding.mk [(.text "mail", .text "a@b"), (.text "note", .int 1)]).get? name =
        (Binding.mk [(.text "note", .null), (.text "mail", .text "a@b")]).get? name := by
    rw [mentioned_letter]
    simp only [List.forall_mem_cons]
    exact ⟨rfl, rfl, rfl, by simp⟩
  exact ⟨h, evalWith_eq_of_mentioned letter false true _ _ h⟩

end QueryTemplate
