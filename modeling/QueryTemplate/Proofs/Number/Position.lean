import Mathlib.Order.Compare
import Mathlib.Order.WithBot
import QueryTemplate.Number.Basic
import QueryTemplate.Proofs.Number.Rounding

/-!
# The exact values of numbers

A number of any kind other than one that is not a number has an exact value: a rational, or one of
the two ends of the number line (`Number.exactValue?`).  Two numbers are compared by these values
(`Number.order_eq`), although the order of two points never writes out a power of ten that it can do
without.
-/

namespace QueryTemplate

/-- The rational numbers with a least and a greatest one. -/
abbrev NumberLine := WithBot (WithTop ℚ)

/-- The end of the number line on the side of a sign. -/
def lineEnd (negative : Bool) : NumberLine :=
  if negative then ⊥ else ⊤

/-- The exact value of a double-precision number. -/
def Binary64.exactValue? : Binary64 → Option NumberLine
  | .finite negative m e _ => some ((signedInt negative m * 2 ^ e : ℚ) : WithTop ℚ)
  | .infinite negative => some (lineEnd negative)
  | .nan _ => none

/-- The exact value of a decimal number. -/
def Decimal.exactValue? : Decimal → Option NumberLine
  | .finite negative c e => some ((signedInt negative c * 10 ^ e : ℚ) : WithTop ℚ)
  | .infinite negative => some (lineEnd negative)
  | .nan _ _ _ _ => none

/-- The exact value of a number, if it is one. -/
def Number.exactValue? : Number → Option NumberLine
  | .int i => some ((i : ℚ) : WithTop ℚ)
  | .float x => x.exactValue?
  | .fraction q => some (q : WithTop ℚ)
  | .decimal d => d.exactValue?

/-! ## The order of points -/

/-- The rational number at a point. -/
def Point.value (p : Point) : ℚ :=
  p.numerator / p.denominator * 10 ^ p.exponent

lemma compare_cast (m n : ℕ) : compare m n = cmp (m : ℚ) n := by
  rw [Nat.strictMono_cast.cmp_map_eq, cmp_eq_compare]

lemma compareTimesPower_eq {a : ℕ} (ha : 0 < a) (b k : ℕ) :
    compareTimesPower a b k = cmp ((a : ℚ) * 10 ^ k) b := by
  rw [compareTimesPower]
  by_cases h : b.log2 < k
  · -- the other operand is less than two to the power, let alone ten
    have hb : b < a * 10 ^ k :=
      calc b < 2 ^ (b.log2 + 1) := Nat.lt_log2_self
        _ ≤ 2 ^ k := Nat.pow_le_pow_right Nat.two_pos h
        _ ≤ 10 ^ k := Nat.pow_le_pow_left (by norm_num) k
        _ ≤ a * 10 ^ k := Nat.le_mul_of_pos_left _ ha
    have hq : (b : ℚ) < a * 10 ^ k := by exact_mod_cast hb
    rw [if_pos h, hq.cmp_eq_gt]
  · rw [if_neg h, compare_cast, Nat.pow_eq, Nat.cast_mul, Nat.cast_pow, Nat.cast_ofNat]

lemma compareScaled_eq {a b : ℕ} (ha : 0 < a) (hb : 0 < b) (e : ℤ) :
    compareScaled a b e = cmp ((a : ℚ) * 10 ^ e) b := by
  cases e with
  | ofNat k => exact compareTimesPower_eq ha b k
  | negSucc k =>
    have hpow : (0 : ℚ) < 10 ^ (k + 1) := by positivity
    rw [compareScaled, compareTimesPower_eq hb, cmp_swap, zpow_negSucc,
      ← cmp_mul_pos_right hpow (_ * _), inv_mul_cancel_right₀ hpow.ne']

/-- What the signs tell of two integers. -/
lemma of_sign_lt {x y : ℤ} (h : x.sign < y.sign) : x < 0 ∧ 0 ≤ y ∨ x ≤ 0 ∧ 0 < y := by
  rcases lt_trichotomy x 0 with hx | rfl | hx
  · rcases lt_or_ge y 0 with hy | hy
    · simp [Int.sign_eq_neg_one_of_neg hx, Int.sign_eq_neg_one_of_neg hy] at h
    · exact .inl ⟨hx, hy⟩
  · exact .inr ⟨le_rfl, Int.sign_pos_iff.mp (by simpa using h)⟩
  · rw [Int.sign_eq_one_of_pos hx] at h
    rcases lt_trichotomy y 0 with hy | rfl | hy
    · simp [Int.sign_eq_neg_one_of_neg hy] at h
    · simp at h
    · simp [Int.sign_eq_one_of_pos hy] at h

/-- Brought to a common denominator, two points keep their order. -/
lemma Point.cmp_value {p q : Point} (hp : 0 < p.denominator) (hq : 0 < q.denominator) :
    cmp p.value q.value = cmp (p.numerator * q.denominator * 10 ^ (p.exponent - q.exponent) : ℚ)
      (q.numerator * p.denominator) := by
  have hp' : (0 : ℚ) < p.denominator := by exact_mod_cast hp
  have hq' : (0 : ℚ) < q.denominator := by exact_mod_cast hq
  have hc : (0 : ℚ) < p.denominator * q.denominator / 10 ^ q.exponent := by positivity
  rw [← cmp_mul_pos_right hc p.value, Point.value, Point.value, zpow_sub₀ (by norm_num)]
  exact congrArg₂ cmp (by field_simp) (by field_simp)

lemma Point.lt_of_sign_lt {p q : Point} (hp : 0 < p.denominator) (hq : 0 < q.denominator)
    (h : p.numerator.sign < q.numerator.sign) : p.value < q.value := by
  have hp' : (0 : ℚ) < 10 ^ p.exponent / p.denominator := by positivity
  have hq' : (0 : ℚ) < 10 ^ q.exponent / q.denominator := by positivity
  rw [value, value, div_mul_eq_mul_div, div_mul_eq_mul_div, mul_div_assoc, mul_div_assoc]
  rcases of_sign_lt h with ⟨hpn, hqn⟩ | ⟨hpn, hqn⟩
  · have hpn' : (p.numerator : ℚ) < 0 := by exact_mod_cast hpn
    have hqn' : (0 : ℚ) ≤ q.numerator := by exact_mod_cast hqn
    exact (mul_neg_of_neg_of_pos hpn' hp').trans_le (mul_nonneg hqn' hq'.le)
  · have hpn' : (p.numerator : ℚ) ≤ 0 := by exact_mod_cast hpn
    have hqn' : (0 : ℚ) < q.numerator := by exact_mod_cast hqn
    exact (mul_nonpos_of_nonpos_of_nonneg hpn' hp'.le).trans_lt (mul_pos hqn' hq')

/-- Two points are ordered as the rational numbers at them. -/
theorem Point.order_eq {p q : Point} (hp : 0 < p.denominator) (hq : 0 < q.denominator) :
    p.order q = cmp p.value q.value := by
  rw [order]
  cases h : compare p.numerator.sign q.numerator.sign with
  | lt => exact (lt_of_sign_lt hp hq (compare_lt_iff_lt.mp h)).cmp_eq_lt.symm
  | gt => exact (lt_of_sign_lt hq hp (compare_gt_iff_gt.mp h)).cmp_eq_gt.symm
  | eq =>
    rw [compare_eq_iff_eq] at h
    rw [cmp_value hp hq]
    dsimp only
    have hpos : ∀ (n : ℤ) {d : ℕ}, n ≠ 0 → 0 < d → 0 < n.natAbs * d := fun n d hn hd =>
      Nat.mul_pos (Int.natAbs_pos.mpr hn) hd
    have hcast : ∀ (n : ℤ) (d : ℕ), ((n.natAbs * d : ℕ) : ℚ) = (|n| : ℤ) * d := fun n d => by
      rw [Nat.cast_mul, Nat.cast_natAbs]
    rcases lt_trichotomy p.numerator 0 with hpn | hpn | hpn
    · have hqn : q.numerator < 0 := by rwa [← Int.sign_neg_iff, ← h, Int.sign_neg_iff]
      rw [if_neg hpn.ne, if_neg hpn.not_gt,
        compareScaled_eq (hpos _ hpn.ne hq) (hpos _ hqn.ne hp), cmp_swap,
        hcast, hcast, abs_of_neg hpn, abs_of_neg hqn, Int.cast_neg, Int.cast_neg, neg_mul, neg_mul,
        neg_mul]
      have hneg : StrictAnti fun x : ℚ => -x := fun _ _ h => neg_lt_neg h
      exact hneg.cmp_map_eq _ _
    · have hqn : q.numerator = 0 := by simpa [hpn] using h.symm
      rw [if_pos hpn, hpn, hqn, Int.cast_zero, zero_mul, zero_mul, zero_mul, cmp_self_eq_eq]
    · have hqn : 0 < q.numerator := by rwa [← Int.sign_pos_iff, ← h, Int.sign_pos_iff]
      rw [if_neg hpn.ne', if_pos hpn,
        compareScaled_eq (hpos _ hpn.ne' hq) (hpos _ hqn.ne' hp), hcast, hcast,
        abs_of_pos hpn, abs_of_pos hqn]

/-! ## The order of positions -/

/-- The place of a position on the number line. -/
def Position.line? : Position → Option NumberLine
  | .least => some ⊥
  | .point p => some (p.value : WithTop ℚ)
  | .greatest => some ⊤
  | .nowhere => none

lemma cmp_coe (x y : ℚ) :
    cmp ((x : WithTop ℚ) : NumberLine) ((y : WithTop ℚ) : NumberLine) = cmp x y :=
  (WithBot.coe_strictMono.comp WithTop.coe_strictMono).cmp_map_eq x y

lemma coe_lt_top (x : ℚ) : ((x : WithTop ℚ) : NumberLine) < ⊤ :=
  WithBot.coe_lt_coe.mpr (WithTop.coe_lt_top x)

/-- Two positions are ordered as their places on the number line, if both have one. -/
lemma Position.order?_eq {p q : Position} (hp : ∀ r, p = .point r → 0 < r.denominator)
    (hq : ∀ r, q = .point r → 0 < r.denominator) :
    p.order? q = Option.map₂ cmp p.line? q.line? := by
  have hends : (⊥ : NumberLine) < ⊤ := bot_lt_top
  cases p with
  | nowhere => rfl
  | least =>
    cases q with
    | nowhere => rfl
    | least => exact congrArg some (cmp_self_eq_eq _).symm
    | point r => exact congrArg some (WithBot.bot_lt_coe _).cmp_eq_lt.symm
    | greatest => exact congrArg some hends.cmp_eq_lt.symm
  | greatest =>
    cases q with
    | nowhere => rfl
    | least => exact congrArg some hends.cmp_eq_gt.symm
    | point r => exact congrArg some (coe_lt_top r.value).cmp_eq_gt.symm
    | greatest => exact congrArg some (cmp_self_eq_eq _).symm
  | point r =>
    cases q with
    | nowhere => rfl
    | least => exact congrArg some (WithBot.bot_lt_coe _).cmp_eq_gt.symm
    | point r' =>
      exact congrArg some ((Point.order_eq (hp r rfl) (hq r' rfl)).trans (cmp_coe _ _).symm)
    | greatest => exact congrArg some (coe_lt_top r.value).cmp_eq_lt.symm

namespace Number

lemma denominator_pos {n : Number} {p : Point} (h : n.position = .point p) :
    0 < p.denominator := by
  cases n with
  | int i =>
    obtain rfl := Position.point.inj h
    exact Nat.one_pos
  | fraction q =>
    obtain rfl := Position.point.inj h
    exact q.den_pos
  | float x =>
    cases x with
    | finite negative m e _ =>
      obtain rfl := Position.point.inj h
      exact Binary64.scale_pos Nat.one_pos e
    | infinite negative => cases negative <;> cases h
    | nan => cases h
  | decimal d =>
    cases d with
    | finite negative c e =>
      obtain rfl := Position.point.inj h
      exact Nat.one_pos
    | infinite negative => cases negative <;> cases h
    | nan => cases h

/-- A number stands at its exact value. -/
lemma line?_position (n : Number) : n.position.line? = n.exactValue? := by
  cases n with
  | int i => simp [position, Position.line?, exactValue?, Point.value]
  | fraction q => simp [position, Position.line?, exactValue?, Point.value, Rat.num_div_den]
  | float x =>
    cases x with
    | finite negative m e _ =>
      have hscale := Binary64.scale_div m 1 e
      cases negative <;>
        simp_all [position, Binary64.position, Binary64.magnitude, Position.line?, exactValue?,
          Binary64.exactValue?, Point.value, signedInt, neg_div]
    | infinite negative => cases negative <;> rfl
    | nan => rfl
  | decimal d =>
    cases d with
    | finite negative c e =>
      simp [position, Decimal.position, Position.line?, exactValue?, Decimal.exactValue?,
        Point.value]
    | infinite negative => cases negative <;> rfl
    | nan => rfl

/-- The positions of two numbers are ordered as their exact values, if both have one. -/
theorem order?_position (m n : Number) :
    m.position.order? n.position = Option.map₂ cmp m.exactValue? n.exactValue? := by
  rw [Position.order?_eq (fun _ => denominator_pos) (fun _ => denominator_pos), line?_position,
    line?_position]

/-- Exchanged, two numbers have the opposite order. -/
lemma order_swap (m n : Number) : n.order m = (m.order n).map (Option.map Ordering.swap) := by
  have hposition : n.position.order? m.position =
      (m.position.order? n.position).map Ordering.swap := by
    rw [order?_position, order?_position]
    cases m.exactValue? with
    | none => cases n.exactValue? <;> rfl
    | some x =>
      cases n.exactValue? with
      | none => rfl
      | some y => exact congrArg some (cmp_swap x y).symm
  rw [order, order, hposition, Bool.or_comm]
  cases m.position.order? n.position with
  | some o => rfl
  | none => dsimp only [Option.map_none]; split <;> rfl

lemma exactValue?_of_isSignaling {n : Number} (h : n.isSignaling = true) :
    n.exactValue? = none := by
  cases n with
  | decimal d =>
    cases d with
    | nan => rfl
    | _ => cases h
  | _ => cases h

/-- Only what stands nowhere has no exact value. -/
lemma exists_exactValue? {n : Number} (h : n.position ≠ .nowhere) :
    ∃ x, n.exactValue? = some x := by
  rw [← line?_position]
  cases hp : n.position with
  | nowhere => exact absurd hp h
  | _ => exact ⟨_, rfl⟩

section ExactValues

variable {m n : Number} {x y : NumberLine}

lemma order_eq_of_exactValue? (hm : m.exactValue? = some x) (hn : n.exactValue? = some y) :
    m.order n = .ok (some (cmp x y)) := by
  rw [order, order?_position, hm, hn]
  rfl

lemma equal_eq_of_exactValue? (hm : m.exactValue? = some x) (hn : n.exactValue? = some y) :
    m.equal n = .ok (decide (x = y)) := by
  have hsignal : ¬ (m.isSignaling || n.isSignaling) = true := by
    rw [Bool.or_eq_true]
    rintro (h | h)
    · simp [exactValue?_of_isSignaling h] at hm
    · simp [exactValue?_of_isSignaling h] at hn
  rw [equal, if_neg hsignal, order?_position, hm, hn, Option.map₂_some_some, Except.ok.injEq,
    Bool.eq_iff_iff, beq_iff_eq, Option.some.injEq, cmp_eq_eq_iff, decide_eq_true_iff]

end ExactValues

/-- Numbers are equal exactly where they have one exact value. -/
theorem equal_eq_true {m n : Number} :
    m.equal n = .ok true ↔ ∃ x, m.exactValue? = some x ∧ n.exactValue? = some x := by
  rw [equal, order?_position]
  by_cases h : (m.isSignaling || n.isSignaling) = true
  · rw [if_pos h]
    have hnone : m.exactValue? = none ∨ n.exactValue? = none :=
      ((Bool.or_eq_true _ _).mp h).imp exactValue?_of_isSignaling exactValue?_of_isSignaling
    rcases hnone with h | h <;> simp [h]
  · rw [if_neg h, Except.ok.injEq, beq_iff_eq, Option.map₂_eq_some_iff]
    constructor
    · rintro ⟨x, y, hx, hy, hxy⟩
      obtain rfl := (cmp_eq_eq_iff x y).mp hxy
      exact ⟨x, hx, hy⟩
    · rintro ⟨x, hx, hy⟩
      exact ⟨x, x, hx, hy, cmp_self_eq_eq x⟩

end Number

end QueryTemplate
