import QueryTemplate.Comparison
import QueryTemplate.Proofs.Value.Equality

/-!
# Where equality has no answer

Equality of values fails only at numbers: a signaling number has neither equal nor unequal.  Inside
a container such a number is still equal to itself, because one object is not asked.
`Value.ClashWithin` says which values meet a pair that is asked and has no answer before their first
difference, without mention of the walk that finds it; `Value.equalWithin_eq_error` shows that
equality fails exactly on them, and `Value.equal_eq_error` that at the top two signaling numbers
fail whatever objects they are.

Equality is asked of a value's parts from left to right.  The items of lists and tuples are paired
by their place.  The entries of a map are paired by their keys, and it is the left map whose
entries are walked, except that a read-only map on the right is walked itself.
-/

namespace QueryTemplate

namespace Number

/-- One of the numbers signals, so that they are neither equal nor unequal. -/
def Clash (m n : Number) : Prop :=
  m.isSignaling ∨ n.isSignaling

/-- One of the numbers stands nowhere on the number line, and a decimal insists on an order. -/
def Unordered (m n : Number) : Prop :=
  (m.position = .nowhere ∨ n.position = .nowhere) ∧ (m.isDecimal ∨ n.isDecimal)

lemma equal_eq_error {m n : Number} {u : Undefined} : m.equal n = .error u ↔ m.Clash n := by
  rw [equal, Clash, ← Bool.or_eq_true]
  cases u
  split_ifs with h <;> simp [h]

lemma equalWithin_eq_error {m n : Number} {u : Undefined} :
    m.equalWithin n = .error u ↔ m.isSameObject n = false ∧ m.Clash n := by
  rw [equalWithin]
  split_ifs with h <;> simp [h, equal_eq_error]

lemma order?_eq_none {p q : Position} : p.order? q = none ↔ p = .nowhere ∨ q = .nowhere := by
  cases p <;> cases q <;> simp [Position.order?]

lemma order_eq_error {m n : Number} {u : Undefined} : m.order n = .error u ↔ m.Unordered n := by
  rw [order, Unordered, ← order?_eq_none, ← Bool.or_eq_true]
  cases u
  cases m.position.order? n.position with
  | some o => simp
  | none => split_ifs with h <;> simp [h]

end Number

namespace Value

/-- Comparing the values meets a pair of numbers that clash before the first difference. -/
inductive ClashWithin : Value → Value → Prop where
  | numbers {a b : Value} {m n : Number} (left : a.number? = some m) (right : b.number? = some n)
      (apart : m.isSameObject n = false) (clash : m.Clash n) : ClashWithin a b
  | lists {xs xs' ys ys' : List Value} {x y : Value}
      (before : xs.Forall₂ (fun x y => x.equalWithin y = .ok true) ys) (clash : ClashWithin x y)
      (length : xs'.length = ys'.length) :
      ClashWithin (.list (xs ++ x :: xs')) (.list (ys ++ y :: ys'))
  | tuples {xs xs' ys ys' : List Value} {x y : Value}
      (before : xs.Forall₂ (fun x y => x.equalWithin y = .ok true) ys) (clash : ClashWithin x y) :
      ClashWithin (.tuple (xs ++ x :: xs')) (.tuple (ys ++ y :: ys'))
  | maps {readOnly : Bool} {es es' fs : List (Value × Value)} {e f : Value × Value}
      (length : (es ++ e :: es').length = fs.length)
      (before : ∀ d ∈ es, ∃ g,
        fs.find? (d.1.isSameKey ·.1) = some g ∧ d.2.equalWithin g.2 = .ok true)
      (found : fs.find? (e.1.isSameKey ·.1) = some f) (clash : ClashWithin e.2 f.2) :
      ClashWithin (.map readOnly (es ++ e :: es')) (.map false fs)
  | readOnlyMaps {readOnly : Bool} {es fs fs' : List (Value × Value)} {e f : Value × Value}
      (length : es.length = (fs ++ f :: fs').length)
      (before : ∀ g ∈ fs, ∃ d,
        es.find? (g.1.isSameKey ·.1) = some d ∧ g.2.equalWithin d.2 = .ok true)
      (found : es.find? (f.1.isSameKey ·.1) = some e) (clash : ClashWithin f.2 e.2) :
      ClashWithin (.map readOnly es) (.map true (fs ++ f :: fs'))

lemma equalSingle_eq_error {a b : Value} {u : Number.Undefined} :
    a.equalSingle b = .error u ↔
      ∃ m n, a.number? = some m ∧ b.number? = some n ∧ m.isSameObject n = false ∧ m.Clash n := by
  fun_cases equalSingle a b with
  | case8 a b _ _ _ _ _ _ _ m n hm hn =>
    rw [Number.equalWithin_eq_error]
    simp_all
  | case9 a b _ _ _ _ _ _ _ h =>
    simp only [reduceCtorEq, false_iff]
    rintro ⟨m, n, hm, hn, -⟩
    exact h m n hm hn
  | _ => simp [number?]

/-! ## The walks over items and entries -/

lemma equalItems_eq_error {u : Number.Undefined} (xs ys : List Value) :
    equalItems false xs ys = .error u ↔
      ∃ xs₁ x xs₂ ys₁ y ys₂, xs = xs₁ ++ x :: xs₂ ∧ ys = ys₁ ++ y :: ys₂ ∧
        xs₁.Forall₂ (fun x y => x.equalWithin y = .ok true) ys₁ ∧ x.equalWithin y = .error u := by
  refine Outcome.reaches_pair_iff (w := fun xs ys => equalItems false xs ys = .error u) ?_ ?_ ?_ xs
    ys
  · intro ys
    cases ys <;> simp [equalItems]
  · intro xs
    cases xs <;> simp [equalItems]
  · intro x xs y ys
    rw [equalItems_cons]
    rcases x.equalWithin y with u' | _ | _ <;> simp

/-- The entries of a map have no answer at the first whose value has none, provided every entry
before it has an equal counterpart. -/
lemma allM_entryAmong_eq_error {es fs : List (Value × Value)} {u : Number.Undefined} :
    es.allM (entryAmong fs) = .error u ↔
      ∃ before e after, es = before ++ e :: after ∧
        (∀ d ∈ before, ∃ g,
          fs.find? (d.1.isSameKey ·.1) = some g ∧ d.2.equalWithin g.2 = .ok true) ∧
        ∃ f, fs.find? (e.1.isSameKey ·.1) = some f ∧ e.2.equalWithin f.2 = .error u := by
  simp only [Outcome.allM_eq_error, entryAmong_eq_true, entryAmong_eq_error]

/-! ## Equality fails exactly where values clash -/

theorem clash_of_equalWithin {u : Number.Undefined} (a b : Value) (h : a.equalWithin b = .error u) :
    a.ClashWithin b := by
  cases pairing a b with
  | lists xs ys =>
    rw [equalWithin_list] at h
    split_ifs at h with hl
    obtain ⟨xs₁, x, xs₂, ys₁, y, ys₂, rfl, rfl, hb, hx⟩ := (equalItems_eq_error _ _).mp h
    exact .lists hb (clash_of_equalWithin x y hx) (by simpa [hb.length_eq] using hl)
  | tuples xs ys =>
    obtain ⟨xs₁, x, xs₂, ys₁, y, ys₂, rfl, rfl, hb, hx⟩ := (equalItems_eq_error _ _).mp h
    exact .tuples hb (clash_of_equalWithin x y hx)
  | sets => simp at h
  | maps _ readOnly es fs =>
    rw [equalWithin_map] at h
    split_ifs at h with hl hr
    · obtain ⟨before, f, after, rfl, hb, e, he, hx⟩ := allM_entryAmong_eq_error.mp h
      subst hr
      exact .readOnlyMaps (not_ne_iff.mp hl) hb he (clash_of_equalWithin f.2 e.2 hx)
    · obtain ⟨before, e, after, rfl, hb, f, hf, hx⟩ := allM_entryAmong_eq_error.mp h
      obtain rfl := Bool.eq_false_iff.mpr hr
      exact .maps (not_ne_iff.mp hl) hb hf (clash_of_equalWithin e.2 f.2 hx)
  | single within_eq =>
    obtain ⟨m, n, hm, hn, ha, hc⟩ := equalSingle_eq_error.mp (within_eq ▸ h)
    exact .numbers hm hn ha hc
-- Either side may be the one that is walked, so it is both together that get smaller.
termination_by sizeOf a + sizeOf b
decreasing_by
  all_goals subst_vars
  · exact Nat.add_lt_add (sizeOf_lt_of_mem_parts (by simp [parts, items?]))
      (sizeOf_lt_of_mem_parts (by simp [parts, items?]))
  · exact Nat.add_lt_add (sizeOf_lt_of_mem_parts (by simp [parts, items?]))
      (sizeOf_lt_of_mem_parts (by simp [parts, items?]))
  · rw [Nat.add_comm]
    exact Nat.add_lt_add
      (sizeOf_lt_of_mem_parts (List.mem_map_of_mem (List.mem_of_find?_eq_some he)))
      (sizeOf_lt_of_mem_parts (by simp [parts, items?]))
  · exact Nat.add_lt_add (sizeOf_lt_of_mem_parts (by simp [parts, items?]))
      (sizeOf_lt_of_mem_parts (List.mem_map_of_mem (List.mem_of_find?_eq_some hf)))

theorem equalWithin_of_clash {u : Number.Undefined} {a b : Value} (h : a.ClashWithin b) :
    a.equalWithin b = .error u := by
  cases u
  induction h with
  | @numbers a b m n hm hn ha hc =>
    have hs : a.equalSingle b = .error .undefined :=
      equalSingle_eq_error.mpr ⟨m, n, hm, hn, ha, hc⟩
    cases a with
    | bool | number => exact hs
    | _ => simp [number?] at hm
  | lists hb _ hl ih =>
    rw [equalWithin_list, if_pos (by simp [hb.length_eq, hl])]
    exact (equalItems_eq_error _ _).mpr ⟨_, _, _, _, _, _, rfl, rfl, hb, ih⟩
  | tuples hb _ ih =>
    exact (equalItems_eq_error _ _).mpr ⟨_, _, _, _, _, _, rfl, rfl, hb, ih⟩
  | maps hl hb hf _ ih =>
    rw [equalWithin_map, if_neg (not_ne_iff.mpr hl), if_neg Bool.false_ne_true]
    exact allM_entryAmong_eq_error.mpr ⟨_, _, _, rfl, hb, _, hf, ih⟩
  | readOnlyMaps hl hb he _ ih =>
    rw [equalWithin_map, if_neg (not_ne_iff.mpr hl), if_pos rfl]
    exact allM_entryAmong_eq_error.mpr ⟨_, _, _, rfl, hb, _, he, ih⟩

/-- Inside a container equality has no answer exactly where the values clash. -/
theorem equalWithin_eq_error {u : Number.Undefined} {a b : Value} :
    a.equalWithin b = .error u ↔ a.ClashWithin b :=
  ⟨clash_of_equalWithin a b, equalWithin_of_clash⟩

/-- The values are two numbers of which one signals, or clash as values inside a container do. -/
def Clash (a b : Value) : Prop :=
  (∃ m n, a = .number m ∧ b = .number n ∧ m.Clash n) ∨ a.ClashWithin b

/-- Equality has no answer exactly where the values clash. -/
theorem equal_eq_error {u : Number.Undefined} {a b : Value} :
    a.equal b = .error u ↔ a.Clash b := by
  rw [Clash, ← equalWithin_eq_error (u := u)]
  by_cases h : ∃ m n, a = .number m ∧ b = .number n
  · obtain ⟨m, n, rfl, rfl⟩ := h
    have hwithin : (Value.number m).equalWithin (.number n) = .error u → m.Clash n :=
      fun h => (Number.equalWithin_eq_error.mp h).2
    rw [equal, Number.equal_eq_error]
    exact ⟨fun h => .inl ⟨m, n, rfl, rfl, h⟩, fun
      | .inl ⟨_, _, rfl, rfl, h⟩ => h
      | .inr h => hwithin h⟩
  · rw [equal_eq_equalWithin fun m n hm hn => h ⟨m, n, hm, hn⟩]
    exact ⟨.inr, fun
      | .inl ⟨m, n, hm, hn, _⟩ => absurd ⟨m, n, hm, hn⟩ h
      | .inr h => h⟩

/-! ## Operands of conditions -/

/-- The values clash as operands: a truth value and another value are told apart at once. -/
def SameClash (a b : Value) : Prop :=
  a.isBool = b.isBool ∧ a.Clash b

lemma same_eq_error {u : Number.Undefined} {a b : Value} :
    a.same b = .error u ↔ a.SameClash b := by
  rw [same, SameClash]
  split_ifs with h <;> simp [h, equal_eq_error]

/-- A search for the first value among the items of the second ends with the error: it clashes
before it finds it, or there are too many items to begin. -/
inductive MemberFailure (a b : Value) : ComparisonError → Prop where
  | clash {before after : List Value} {x : Value} {u : Number.Undefined} (left : a.isNull = false)
      (items : b.items? = some (before ++ x :: after)) (countable : b.hasTooManyItems = false)
      (unequal : ∀ y ∈ before, a.same y = .ok false) (clash : a.SameClash x) :
      MemberFailure a b (.undefined u)
  | tooMany (left : a.isNull = false) (many : b.hasTooManyItems = true) : MemberFailure a b .tooMany

lemma isNull_of_items? {b : Value} {xs : List Value} (h : b.items? = some xs) :
    b.isNull = false := by
  cases b <;> first | rfl | simp [items?] at h

lemma exists_items?_of_hasTooManyItems {b : Value} (h : b.hasTooManyItems = true) :
    ∃ xs, b.items? = some xs := by
  cases b with
  | range p => exact ⟨_, rfl⟩
  | _ => simp [hasTooManyItems] at h

/-- Only what equality cannot answer keeps a comparison from its answer. -/
lemma undefined_eq_error {α : Type} {r : Except Number.Undefined α} {e : ComparisonError} :
    r.mapError .undefined = .error e ↔ ∃ u, r = .error u ∧ e = .undefined u := by
  rw [Outcome.mapError_eq_error]
  exact exists_congr fun u => and_congr_right fun _ => eq_comm

/-- A search through the items of a container, if it is one and both sides are given.  Both kinds of
operands search alike. -/
def search {α : Type} (left right many : Bool) (items? : Option (List α))
    (equal : α → Except Number.Undefined Bool) : Except ComparisonError (Option Bool) :=
  if left || right then .ok none
  else items?.elim (.ok none) fun items =>
    if many then .error .tooMany else ((items.anyM equal).map some).mapError .undefined

/-- It fails at once, or at the first item for which equality has no answer. -/
lemma search_eq_error {α : Type} {left right many : Bool} {items? : Option (List α)}
    {equal : α → Except Number.Undefined Bool} {e : ComparisonError}
    (hright : ∀ xs, items? = some xs → right = false)
    (hmany : many = true → ∃ xs, items? = some xs) :
    search left right many items? equal = .error e ↔
      left = false ∧ (many = true ∧ e = .tooMany ∨
        many = false ∧ ∃ before x after u, items? = some (before ++ x :: after) ∧
          (∀ y ∈ before, equal y = .ok false) ∧ equal x = .error u ∧ e = .undefined u) := by
  cases left with
  | true => simp [search]
  | false =>
    rw [search, and_iff_right rfl, Bool.false_or]
    cases items? with
    | none =>
      have hcountable : many = false := Bool.eq_false_iff.mpr fun h => by simpa using hmany h
      simp [hcountable]
    | some items =>
      rw [hright items rfl, if_neg Bool.false_ne_true, Option.elim_some]
      cases many with
      | true => simp [eq_comm]
      | false =>
        simp only [Bool.false_eq_true, if_false, undefined_eq_error, Outcome.map_eq_error,
          Outcome.anyM_eq_error, Option.some.injEq, false_and, false_or, true_and]
        constructor
        · rintro ⟨u, ⟨before, x, after, hitems, hbefore, hx⟩, he⟩
          exact ⟨before, x, after, u, hitems, hbefore, hx, he⟩
        · rintro ⟨before, x, after, u, hitems, hbefore, hx, he⟩
          exact ⟨u, ⟨before, x, after, hitems, hbefore, hx⟩, he⟩

lemma memberOf_eq_search (a b : Value) :
    a.memberOf b = search a.isNull b.isNull b.hasTooManyItems b.items? a.same := by
  rw [memberOf, search]
  cases b.items? <;> rfl

lemma memberOf_eq_error {e : ComparisonError} {a b : Value} :
    a.memberOf b = .error e ↔ a.MemberFailure b e := by
  rw [memberOf_eq_search, search_eq_error (fun _ => isNull_of_items?)
    exists_items?_of_hasTooManyItems]
  constructor
  · rintro ⟨left, ⟨many, rfl⟩ | ⟨countable, before, x, after, u, items, unequal, clash, rfl⟩⟩
    · exact .tooMany left many
    · exact .clash left items countable unequal (same_eq_error.mp clash)
  · rintro (⟨left, items, countable, unequal, clash⟩ | ⟨left, many⟩)
    · exact ⟨left, .inr ⟨countable, _, _, _, _, items, unequal, same_eq_error.mpr clash, rfl⟩⟩
    · exact ⟨left, .inl ⟨many, rfl⟩⟩

/-- The values are numbers, and a decimal insists on an order that they do not have. -/
def Unordered (a b : Value) : Prop :=
  ∃ m n, a = .number m ∧ b = .number n ∧ m.Unordered n

lemma order?_eq_error {u : Number.Undefined} {a b : Value} :
    a.order? b = .error u ↔ a.Unordered b := by
  rw [Unordered]
  fun_cases order? a b with
  | case1 m n => simp [Number.order_eq_error]
  | case7 a b h =>
    simp only [reduceCtorEq, false_iff]
    rintro ⟨m, n, ha, hb, -⟩
    exact h m n ha hb
  | _ => simp

end Value

namespace Operator

/-- The operators that ask for the order of their operands. -/
def isOrdering : Operator → Bool
  | .gt | .ge | .lt | .le => true
  | _ => false

/-- The operator fails for two values, given where equality and membership do. -/
inductive Fails (a b : Value) (equality : Prop) (membership : ComparisonError → Prop) :
    ComparisonError → Operator → Prop where
  | eq {u : Number.Undefined} (clash : equality) : Fails a b equality membership (.undefined u) .eq
  | ne {u : Number.Undefined} (clash : equality) : Fails a b equality membership (.undefined u) .ne
  | order {op : Operator} {u : Number.Undefined} (ordering : op.isOrdering)
      (unordered : a.Unordered b) : Fails a b equality membership (.undefined u) op
  | isIn {e : ComparisonError} (failure : membership e) : Fails a b equality membership e .isIn
  | notIn {e : ComparisonError} (failure : membership e) : Fails a b equality membership e .notIn

lemma holdsOrdered_eq_error {op : Operator} {a b : Value} {e : ComparisonError} :
    op.holdsOrdered a b = .error e ↔ a.Unordered b ∧ ∃ u, e = .undefined u := by
  simp only [holdsOrdered, Value.undefined_eq_error, Outcome.map_eq_error, Value.order?_eq_error,
    exists_and_left]

lemma fails_iff_unordered {a b : Value} {equality : Prop} {membership : ComparisonError → Prop}
    {op : Operator} {e : ComparisonError} (h : op.isOrdering) :
    op.Fails a b equality membership e ↔ a.Unordered b ∧ ∃ u, e = .undefined u := by
  refine ⟨fun hf => ?_, fun ⟨hu, u, he⟩ => he ▸ .order h hu⟩
  cases hf with
  | order _ hu => exact ⟨hu, _, rfl⟩
  | _ => simp [isOrdering] at h

lemma not_unordered_of_isNull {a b : Value} (h : a.isNull = true ∨ b.isNull = true) :
    ¬ a.Unordered b := by
  rintro ⟨m, n, rfl, rfl, -⟩
  simp [Value.isNull] at h

/-- The errors of an operator are those of the question it asks. -/
lemma holdsWith_eq_error {op : Operator} {a b : Value} {e : ComparisonError} {equality : Prop}
    {membership : ComparisonError → Prop} {equal : Unit → Except Number.Undefined Bool}
    {member : Unit → Except ComparisonError (Option Bool)}
    (he : ∀ u, equal () = .error u ↔ equality) (hm : member () = .error e ↔ membership e) :
    op.holdsWith a b equal member = .error e ↔ op.Fails a b equality membership e := by
  cases op with
  | eq =>
    refine Value.undefined_eq_error.trans ⟨fun ⟨u, h, hu⟩ => hu ▸ .eq ((he u).mp h), fun h => ?_⟩
    cases h with
    | eq h => exact ⟨_, (he _).mpr h, rfl⟩
    | order h => simp [isOrdering] at h
  | ne =>
    refine Value.undefined_eq_error.trans ⟨fun ⟨u, h, hu⟩ => hu ▸ .ne ((he u).mp ?_), fun h => ?_⟩
    · exact Outcome.map_eq_error.mp h
    · cases h with
      | ne h => exact ⟨_, Outcome.map_eq_error.mpr ((he _).mpr h), rfl⟩
      | order h => simp [isOrdering] at h
  | isIn =>
    refine Outcome.map_eq_error.trans (hm.trans ⟨.isIn, fun h => ?_⟩)
    cases h with
    | isIn h => exact h
    | order h => simp [isOrdering] at h
  | notIn =>
    refine Outcome.map_eq_error.trans (hm.trans ⟨.notIn, fun h => ?_⟩)
    cases h with
    | notIn h => exact h
    | order h => simp [isOrdering] at h
  | gt | lt =>
    rw [fails_iff_unordered rfl, holdsWith]
    split_ifs with h
    · exact iff_of_false (by simp) fun hu => not_unordered_of_isNull (by simpa using h) hu.1
    · exact holdsOrdered_eq_error
  | ge | le =>
    rw [fails_iff_unordered rfl, holdsWith]
    split_ifs with h h'
    · exact iff_of_false (by simp) fun hu => not_unordered_of_isNull (by simp [h]) hu.1
    · exact iff_of_false (by simp) fun hu => not_unordered_of_isNull (by simp [h']) hu.1
    · exact holdsOrdered_eq_error

/-- An operator between two values ends with an error exactly where it fails with it. -/
theorem holds_eq_error {op : Operator} {a b : Value} {e : ComparisonError} :
    op.holds a b = .error e ↔ op.Fails a b (a.SameClash b) (a.MemberFailure b) e :=
  holdsWith_eq_error (fun _ => Value.same_eq_error) Value.memberOf_eq_error

end Operator

end QueryTemplate
