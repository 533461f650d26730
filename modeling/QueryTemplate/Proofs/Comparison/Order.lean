import Mathlib.Data.String.Basic
import QueryTemplate.Comparison
import QueryTemplate.Proofs.Number.Position
import QueryTemplate.Proofs.Value.Clash

/-!
# The order of quantities and of wordings

Null takes part in every comparison, but the four ordering operators each see it in their own way.
Put below everything else it makes `<=` and `>=` the two directions of one linear order, while `<`
and `>` hold only between two values that are not null.

Numbers of whatever kinds are ordered by their exact values and texts by their code points.  Both
are cases of one argument: where two values that are not null answer as two members of a linear
order (`Operator.Mirrors`), values with null answer as the same order with a least member.
-/

namespace QueryTemplate

/-! ## Null -/

namespace Value

lemma isNull_iff {v : Value} : v.isNull = true ↔ v = .null := by
  cases v <;> simp [isNull]

lemma isNull_eq_false_iff {v : Value} : v.isNull = false ↔ v ≠ .null := by
  rw [Ne, ← isNull_iff, Bool.not_eq_true]

lemma same_null_left (b : Value) : Value.null.same b = .ok b.isNull := by
  cases b <;> rfl

lemma same_null_right (a : Value) : a.same .null = .ok a.isNull := by
  cases a <;> rfl

end Value

namespace Operator

/-- The operator gives the answer that it holds. -/
def Holds (op : Operator) (a b : Value) : Prop :=
  op.holds a b = .ok true

/-! ## The laws -/

/-- The operators order the values with a property, null being the least of them. -/
structure Orders (p : Value → Prop) : Prop where
  answers : ∀ op : Operator, op = .eq ∨ op.isOrdering → ∀ {a b}, p a → p b →
    ∃ answer, op.holds a b = .ok answer
  le_refl : ∀ {a}, p a → Holds .le a a
  le_trans : ∀ {a b c}, p a → p b → p c → Holds .le a b → Holds .le b c → Holds .le a c
  le_total : ∀ {a b}, p a → p b → Holds .le a b ∨ Holds .le b a
  le_antisymm : ∀ {a b}, p a → p b → (Holds .le a b ∧ Holds .le b a ↔ Holds .eq a b)
  null_le : ∀ {b}, p b → Holds .le .null b
  le_null : ∀ {a}, p a → (Holds .le a .null ↔ a = .null)
  ge_iff : ∀ {a b}, p a → p b → (Holds .ge a b ↔ Holds .le b a)
  lt_iff : ∀ {a b}, p a → p b →
    (Holds .lt a b ↔ a ≠ .null ∧ b ≠ .null ∧ Holds .le a b ∧ ¬ Holds .eq a b)
  gt_iff : ∀ {a b}, p a → p b → (Holds .gt a b ↔ Holds .lt b a)
  trichotomy : ∀ {a b}, p a → p b → a ≠ .null → b ≠ .null →
    (Holds .lt a b ∧ ¬ Holds .eq a b ∧ ¬ Holds .gt a b) ∨
    (¬ Holds .lt a b ∧ Holds .eq a b ∧ ¬ Holds .gt a b) ∨
    (¬ Holds .lt a b ∧ ¬ Holds .eq a b ∧ Holds .gt a b)

/-- The operators answer for two values as for two members of a linear order. -/
structure Mirrors {α : Type} [LinearOrder α] (a b : Value) (x y : α) : Prop where
  eq : Operator.eq.holds a b = .ok (decide (x = y))
  lt : Operator.lt.holds a b = .ok (decide (x < y))
  le : Operator.le.holds a b = .ok (decide (x ≤ y))
  gt : Operator.gt.holds a b = .ok (decide (y < x))
  ge : Operator.ge.holds a b = .ok (decide (y ≤ x))

section Rank

variable {α : Type} {key : Value → α} {a b : Value}

/-- The place of a value among the others, null being below them. -/
def rank (key : Value → α) (v : Value) : WithBot α :=
  if v.isNull then ⊥ else key v

lemma rank_eq_bot : rank key a = ⊥ ↔ a.isNull = true := by
  rw [rank]
  split_ifs with h <;> simp [h]

lemma rank_eq (h : a ≠ .null) : rank key a = key a :=
  if_neg fun hnull => h (Value.isNull_iff.mp hnull)

variable [LinearOrder α] {p : Value → Prop}

/-- The operators answer for values with null as for members of the order with a least one, but `<`
and `>` do not hold of that. -/
structure Ranks (key : Value → α) (a b : Value) : Prop where
  eq : Operator.eq.holds a b = .ok (decide (rank key a = rank key b))
  lt : Operator.lt.holds a b = .ok (decide (⊥ < rank key a ∧ rank key a < rank key b))
  le : Operator.le.holds a b = .ok (decide (rank key a ≤ rank key b))
  gt : Operator.gt.holds a b = .ok (decide (⊥ < rank key b ∧ rank key b < rank key a))
  ge : Operator.ge.holds a b = .ok (decide (rank key b ≤ rank key a))

lemma ranks_null_left (b : Value) : Ranks key .null b := by
  have hnull : rank key .null = ⊥ := rfl
  constructor <;> rw [holds, holdsWith]
  all_goals simp [Value.same_null_left, hnull, eq_comm (a := ⊥), rank_eq_bot, Value.isNull]

lemma ranks_null_right (a : Value) : Ranks key a .null := by
  have hnull : rank key .null = ⊥ := rfl
  constructor <;> rw [holds, holdsWith]
  all_goals simp [Value.same_null_right, hnull, rank_eq_bot, Value.isNull]

/-- Where values that are not null answer as members of an order, null is below them. -/
lemma ranks_of_mirrors (h : a ≠ .null → b ≠ .null → Mirrors a b (key a) (key b)) :
    Ranks key a b := by
  by_cases ha : a = .null
  · exact ha ▸ ranks_null_left b
  by_cases hb : b = .null
  · exact hb ▸ ranks_null_right a
  obtain ⟨heq, hlt, hle, hgt, hge⟩ := h ha hb
  constructor <;> simpa [rank_eq ha, rank_eq hb]

namespace Ranks

variable (h : Ranks key a b)

include h

lemma holds_eq : Holds .eq a b ↔ rank key a = rank key b := by
  rw [Holds, h.eq, Except.ok.injEq, decide_eq_true_iff]

lemma holds_lt : Holds .lt a b ↔ ⊥ < rank key a ∧ rank key a < rank key b := by
  rw [Holds, h.lt, Except.ok.injEq, decide_eq_true_iff]

lemma holds_le : Holds .le a b ↔ rank key a ≤ rank key b := by
  rw [Holds, h.le, Except.ok.injEq, decide_eq_true_iff]

lemma holds_gt : Holds .gt a b ↔ ⊥ < rank key b ∧ rank key b < rank key a := by
  rw [Holds, h.gt, Except.ok.injEq, decide_eq_true_iff]

lemma holds_ge : Holds .ge a b ↔ rank key b ≤ rank key a := by
  rw [Holds, h.ge, Except.ok.injEq, decide_eq_true_iff]

lemma answers {op : Operator} (hop : op = .eq ∨ op.isOrdering) :
    ∃ answer, op.holds a b = .ok answer := by
  cases op with
  | eq => exact ⟨_, h.eq⟩
  | lt => exact ⟨_, h.lt⟩
  | le => exact ⟨_, h.le⟩
  | gt => exact ⟨_, h.gt⟩
  | ge => exact ⟨_, h.ge⟩
  | ne | isIn | notIn => simp [isOrdering] at hop

end Ranks

/-- Values that answer as members of a linear order are ordered by the operators. -/
lemma orders_of_mirrors (key : Value → α) (h : ∀ a b, p a → p b → a ≠ .null → b ≠ .null →
    Mirrors a b (key a) (key b)) : Orders p := by
  have hranks : ∀ {a b}, p a → p b → Ranks key a b := fun ha hb =>
    ranks_of_mirrors (h _ _ ha hb)
  have hpos : ∀ {a}, ⊥ < rank key a ↔ a ≠ .null := by
    intro a
    rw [bot_lt_iff_ne_bot, Ne, rank_eq_bot, Value.isNull_iff]
  constructor
  case answers => exact fun op hop a b ha hb => (hranks ha hb).answers hop
  case le_refl => exact fun ha => (hranks ha ha).holds_le.mpr le_rfl
  case le_trans =>
    intro a b c ha hb hc hab hbc
    rw [(hranks ha hb).holds_le] at hab
    rw [(hranks hb hc).holds_le] at hbc
    exact (hranks ha hc).holds_le.mpr (hab.trans hbc)
  case le_total =>
    intro a b ha hb
    rw [(hranks ha hb).holds_le, (hranks hb ha).holds_le]
    exact le_total _ _
  case le_antisymm =>
    intro a b ha hb
    rw [(hranks ha hb).holds_le, (hranks hb ha).holds_le, (hranks ha hb).holds_eq]
    exact le_antisymm_iff.symm
  case null_le =>
    intro b _
    have hbot : Holds .le .null b ↔ ⊥ ≤ rank key b := (ranks_null_left b).holds_le
    exact hbot.mpr bot_le
  case le_null =>
    intro a _
    have hbot : Holds .le a .null ↔ rank key a ≤ ⊥ := (ranks_null_right a).holds_le
    rw [hbot, le_bot_iff, rank_eq_bot, Value.isNull_iff]
  case ge_iff =>
    intro a b ha hb
    rw [(hranks ha hb).holds_ge, (hranks hb ha).holds_le]
  case lt_iff =>
    intro a b ha hb
    rw [(hranks ha hb).holds_lt, (hranks ha hb).holds_le, (hranks ha hb).holds_eq, hpos,
      ← lt_iff_le_and_ne]
    exact ⟨fun ⟨hnull, hlt⟩ => ⟨hnull, hpos.mp (bot_le.trans_lt hlt), hlt⟩,
      fun ⟨hnull, _, hlt⟩ => ⟨hnull, hlt⟩⟩
  case gt_iff =>
    intro a b ha hb
    rw [(hranks ha hb).holds_gt, (hranks hb ha).holds_lt]
  case trichotomy =>
    intro a b ha hb hnull hnull'
    rw [(hranks ha hb).holds_lt, (hranks ha hb).holds_eq, (hranks ha hb).holds_gt,
      and_iff_right (hpos.mpr hnull), and_iff_right (hpos.mpr hnull')]
    rcases lt_trichotomy (rank key a) (rank key b) with hlt | heq | hgt
    · exact .inl ⟨hlt, hlt.ne, hlt.not_gt⟩
    · exact .inr (.inl ⟨heq.not_lt, heq, heq.not_gt⟩)
    · exact .inr (.inr ⟨hgt.not_gt, hgt.ne', hgt⟩)

end Rank

/-! ## Quantities and wordings -/

lemma accepts_cmp {α : Type} [LinearOrder α] (x y : α) :
    lt.accepts (cmp x y) = decide (x < y) ∧ le.accepts (cmp x y) = decide (x ≤ y) ∧
      gt.accepts (cmp x y) = decide (y < x) ∧ ge.accepts (cmp x y) = decide (y ≤ x) := by
  rcases lt_trichotomy x y with h | rfl | h
  · rw [h.cmp_eq_lt]
    simp [accepts, h, h.le, h.not_gt, h.not_ge]
  · rw [cmp_self_eq_eq]
    simp [accepts]
  · rw [h.cmp_eq_gt]
    simp [accepts, h, h.le, h.not_gt, h.not_ge]

/-- Values that are not null and have the order and the equality of two members of a linear order
answer as they do. -/
lemma mirrors_of_order {α : Type} [LinearOrder α] {a b : Value} {x y : α} (ha : a ≠ .null)
    (hb : b ≠ .null) (horder : a.order? b = .ok (some (cmp x y)))
    (hsame : a.same b = .ok (decide (x = y))) : Mirrors a b x y := by
  rw [← Value.isNull_eq_false_iff] at ha hb
  have hordered : ∀ {op : Operator} {answer}, op.accepts (cmp x y) = answer →
      op.holdsOrdered a b = .ok answer := by
    rintro op _ rfl
    rw [holdsOrdered, horder]
    rfl
  obtain ⟨hlt, hle, hgt, hge⟩ := accepts_cmp x y
  constructor
  case eq => simp [holds, holdsWith, hsame]
  case lt => simp [holds, holdsWith, ha, hb, hordered hlt]
  case le => simp [holds, holdsWith, ha, hb, hordered hle]
  case gt => simp [holds, holdsWith, ha, hb, hordered hgt]
  case ge => simp [holds, holdsWith, ha, hb, hordered hge]

/-- Numbers answer as their exact values. -/
lemma mirrors_numbers {m n : Number} {x y : NumberLine} (hm : m.exactValue? = some x)
    (hn : n.exactValue? = some y) : Mirrors (.number m) (.number n) x y :=
  mirrors_of_order nofun nofun (Number.order_eq_of_exactValue? hm hn)
    (Number.equal_eq_of_exactValue? hm hn)

/-- The code points of a text. -/
def codePoints (s : String) : List ℕ :=
  s.toList.map Char.toNat

lemma codePoints_strictMono : StrictMono codePoints := by
  have hchars : ∀ xs ys : List Char, xs < ys → xs.map Char.toNat < ys.map Char.toNat := by
    intro xs
    induction xs with
    | nil =>
      rintro (_ | ⟨y, ys⟩) h
      · cases h
      · exact List.nil_lt_cons _ _
    | cons x xs ih =>
      rintro (_ | ⟨y, ys⟩) h
      · cases h
      · rw [List.cons_lt_cons_iff] at h
        rw [List.map_cons, List.map_cons, List.cons_lt_cons_iff]
        exact h.imp id fun ⟨hx, hxs⟩ => ⟨congrArg _ hx, ih ys hxs⟩
  exact fun s t h => hchars _ _ (String.lt_iff_toList_lt.mp h)

/-- Texts answer as their code points. -/
lemma mirrors_texts (s t : String) : Mirrors (.text s) (.text t) (codePoints s) (codePoints t) := by
  refine mirrors_of_order nofun nofun ?_ ?_
  · rw [codePoints_strictMono.cmp_map_eq, cmp_eq_compare]
    rfl
  · have hsame : (Value.text s).same (.text t) = .ok (s == t) := rfl
    rw [hsame]
    exact congrArg Except.ok
      (Bool.eq_iff_iff.mpr (by simp [codePoints_strictMono.injective.eq_iff]))

/-- Null or a number, other than one that is not a number. -/
def IsQuantity (v : Value) : Prop :=
  v = .null ∨ ∃ n : Number, v = .number n ∧ n.position ≠ .nowhere

/-- Null or a text. -/
def IsWording (v : Value) : Prop :=
  v = .null ∨ ∃ s, v = .text s

/-- What quantities that are not null are ordered by. -/
def exactKey : Value → NumberLine
  | .number n => n.exactValue?.getD ⊥
  | _ => ⊥

/-- What wordings that are not null are ordered by. -/
def textKey : Value → List ℕ
  | .text s => codePoints s
  | _ => []

/-- **The laws of order.** The operators order quantities and wordings, null being the least of
either.  Numbers of any two kinds answer as their exact values, and texts as their code points. -/
theorem comparison_orders :
    Orders IsQuantity ∧ Orders IsWording ∧
    (∀ m n : Number, ∀ x y, m.exactValue? = some x → n.exactValue? = some y →
      Mirrors (.number m) (.number n) x y) ∧
    (∀ s t, Mirrors (.text s) (.text t) (codePoints s) (codePoints t)) := by
  refine ⟨orders_of_mirrors exactKey ?_, orders_of_mirrors textKey ?_,
    fun m n x y => mirrors_numbers, mirrors_texts⟩
  · rintro _ _ (rfl | ⟨m, rfl, hm⟩) (rfl | ⟨n, rfl, hn⟩) ha hb
    · exact absurd rfl ha
    · exact absurd rfl ha
    · exact absurd rfl hb
    · obtain ⟨x, hx⟩ := m.exists_exactValue? hm
      obtain ⟨y, hy⟩ := n.exists_exactValue? hn
      rw [exactKey, exactKey, hx, hy]
      exact mirrors_numbers hx hy
  · rintro _ _ (rfl | ⟨s, rfl⟩) (rfl | ⟨t, rfl⟩) ha hb
    · exact absurd rfl ha
    · exact absurd rfl ha
    · exact absurd rfl hb
    · exact mirrors_texts s t

/-- Null, a decimal half, the fraction that it equals, infinity, and two texts. -/
theorem half_below_infinity :
    let half : Number := .decimal (.finite false 5 (-1))
    let fraction : Number := .fraction (1 / 2)
    let infinity : Number := .decimal (.infinite false)
    Holds .eq (.number half) (.number fraction) ∧ Holds .le (.number half) (.number infinity) ∧
      Holds .le .null (.number infinity) ∧ Holds .lt (.text "Z") (.text "a") := by
  intro half fraction infinity
  obtain ⟨quantities, -, numbers, texts⟩ := comparison_orders
  have hhalf : half.exactValue? = some ((1 / 2 : ℚ) : WithTop ℚ) := by
    have hvalue : (signedInt false 5 * 10 ^ (-1 : ℤ) : ℚ) = 1 / 2 := by norm_num [signedInt]
    exact congrArg (fun q : ℚ => some ((q : WithTop ℚ) : NumberLine)) hvalue
  have hequal : Holds .eq (.number half) (.number fraction) :=
    (numbers half fraction _ _ hhalf rfl).eq.trans (by simp)
  have hle : Holds .le (.number half) (.number infinity) :=
    (numbers half infinity _ ⊤ hhalf rfl).le.trans (by simp)
  have hhalf' : IsQuantity (.number half) := .inr ⟨half, rfl, by rintro ⟨⟩⟩
  have hinfinity : IsQuantity (.number infinity) := .inr ⟨infinity, rfl, by rintro ⟨⟩⟩
  refine ⟨hequal, hle, ?_, (texts "Z" "a").lt.trans (by decide)⟩
  exact quantities.le_trans (.inl rfl) hhalf' hinfinity (quantities.null_le hhalf') hle

end Operator

end QueryTemplate
