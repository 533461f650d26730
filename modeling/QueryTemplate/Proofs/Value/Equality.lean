import QueryTemplate.Proofs.Outcome
import QueryTemplate.Proofs.Value.Parts
import QueryTemplate.Value.Equality

/-!
# Equality case by case

Equality is computed by recursion on one of the values, which may stand on either side.  Here it is
brought into the form in which it is meant: lists and tuples are compared item by item, and two maps
of one size by the entries of the left one, or of the right one if that can only be read
(`equalWithin_map`).  Comparing two values is the same from either of them (`equalFrom_not`).
-/

namespace QueryTemplate.Value

/-! ## Elements and keys -/

lemma areKeysAmong_eq : ∀ xs ys : List Value,
    areKeysAmong xs ys = xs.all fun x => ys.any fun y => isSameKey x y
  | [], _ => rfl
  | x :: xs, ys => by rw [areKeysAmong, List.all_cons, areKeysAmong_eq xs ys]

lemma isSameKey_set (f g : Bool) (xs ys : List Value) : isSameKey (.set f xs) (.set g ys) =
    (xs.length == ys.length && xs.all fun x => ys.any fun y => isSameKey x y) := by
  rw [← areKeysAmong_eq]
  rfl

/-! ## Entries -/

/-- The counterpart of an entry among others is the first whose key counts as its own: is its value
equal? -/
def entryAmong (fs : List (Value × Value)) (e : Value × Value) : Except Number.Undefined Bool :=
  match fs.find? (e.1.isSameKey ·.1) with
  | none => .ok false
  | some f => e.2.equalWithin f.2

lemma entryAmong_eq_error {fs : List (Value × Value)} {e : Value × Value} {u : Number.Undefined} :
    entryAmong fs e = .error u ↔
      ∃ f, fs.find? (e.1.isSameKey ·.1) = some f ∧ e.2.equalWithin f.2 = .error u := by
  rw [entryAmong]
  cases fs.find? (e.1.isSameKey ·.1) <;> simp

lemma entryAmong_eq_true {fs : List (Value × Value)} {e : Value × Value} :
    entryAmong fs e = .ok true ↔
      ∃ f, fs.find? (e.1.isSameKey ·.1) = some f ∧ e.2.equalWithin f.2 = .ok true := by
  rw [entryAmong]
  cases fs.find? (e.1.isSameKey ·.1) <;> simp

/-- The entries of a map are asked one after the other. -/
lemma entriesIn_eq (es fs : List (Value × Value)) :
    entriesIn es fs = es.allM (entryAmong fs) := by
  induction es with
  | nil => rfl
  | cons e es ih =>
    obtain ⟨k, v⟩ := e
    rw [entriesIn, List.allM, entryAmong, ← ih]
    cases fs.find? (k.isSameKey ·.1) with
    | none => rfl
    | some f =>
      change (v.equalWithin f.2 >>= fun same => if same then entriesIn es fs else .ok false) = _
      rcases h : v.equalWithin f.2 with u | _ | _ <;> simp [h, pure, Except.pure]

/-! ## Both sides -/

lemma entryIn_eq (key value : Value) (es : List (Value × Value)) :
    entryIn es key value =
      match es.find? (key.isSameKey ·.1) with
      | none => .ok false
      | some e => equalFrom true e.2 value := by
  induction es with
  | nil => rfl
  | cons e es ih =>
    rw [entryIn, List.find?_cons, ih]
    cases key.isSameKey e.1 <;> rfl

/-- It does not matter in which of two maps the counterparts are looked for by recursion. -/
lemma allM_entryIn {es fs : List (Value × Value)}
    (h : ∀ e ∈ es, ∀ f ∈ fs, equalFrom true f.2 e.2 = equalFrom false e.2 f.2) :
    (es.allM fun e => entryIn fs e.1 e.2) = es.allM (entryAmong fs) := by
  induction es with
  | nil => rfl
  | cons e es ih =>
    obtain ⟨he, hes⟩ := List.forall_mem_cons.mp h
    have hentry : entryIn fs e.1 e.2 = entryAmong fs e := by
      rw [entryIn_eq, entryAmong]
      cases hf : fs.find? (e.1.isSameKey ·.1) with
      | none => rfl
      | some f => exact he f (List.mem_of_find?_eq_some hf)
    rw [List.allM, List.allM, hentry, ih hes]

lemma equalItems_not {mirrored : Bool} {xs : List Value}
    (h : ∀ x ∈ xs, ∀ y, equalFrom (!mirrored) y x = equalFrom mirrored x y) (ys : List Value) :
    equalItems (!mirrored) ys xs = equalItems mirrored xs ys := by
  induction xs generalizing ys with
  | nil => cases ys <;> rfl
  | cons x xs ih =>
    obtain ⟨hx, hxs⟩ := List.forall_mem_cons.mp h
    cases ys with
    | nil => rfl
    | cons y ys => rw [equalItems, equalItems, hx, ih hxs]

/-- Comparing two values is the same from either of them. -/
theorem equalFrom_not (mirrored : Bool) (a b : Value) :
    equalFrom (!mirrored) b a = equalFrom mirrored a b := by
  induction a using parts_induction generalizing mirrored b with
  | step a ih =>
    have hitems : ∀ x ∈ a.parts, ∀ y, equalFrom (!mirrored) y x = equalFrom mirrored x y :=
      fun x hx y => ih x hx mirrored y
    cases a with
    | list xs =>
      cases b with
      | list ys =>
        have hxs : equalItems (!mirrored) ys xs = equalItems mirrored xs ys :=
          equalItems_not hitems ys
        simp only [equalFrom, hxs, eq_comm (a := ys.length)]
      | _ => cases mirrored <;> simp [equalFrom]
    | tuple xs =>
      cases b with
      | tuple ys => exact equalItems_not hitems ys
      | _ => cases mirrored <;> simp [equalFrom]
    | set frozen xs =>
      cases b with
      | set frozen' ys => cases mirrored <;> simp [equalFrom, BEq.comm (a := ys.length)]
      | _ => cases mirrored <;> simp [equalFrom]
    | map readOnly es =>
      cases b with
      | map readOnly' fs =>
        have hright : ∀ e ∈ es, ∀ f ∈ fs, equalFrom true f.2 e.2 = equalFrom false e.2 f.2 :=
          fun e he f _ => ih e.2 (List.mem_map_of_mem he) false f.2
        have hleft : ∀ f ∈ fs, ∀ e ∈ es, equalFrom true e.2 f.2 = equalFrom false f.2 e.2 :=
          fun f _ e he => (ih e.2 (List.mem_map_of_mem he) true f.2).symm
        simp only [equalFrom, allM_entryIn hright, allM_entryIn hleft, entriesIn_eq,
          ne_comm (a := fs.length)]
        cases mirrored <;> cases readOnly <;> cases readOnly' <;> rfl
      | _ => cases mirrored <;> simp [equalFrom]
    | _ => cases mirrored <;> simp [equalFrom]

/-! ## Equality of containers -/

@[simp] lemma equalWithin_list (xs ys : List Value) : (Value.list xs).equalWithin (.list ys) =
    if xs.length = ys.length then equalItems false xs ys else .ok false := rfl

@[simp] lemma equalWithin_tuple (xs ys : List Value) :
    (Value.tuple xs).equalWithin (.tuple ys) = equalItems false xs ys := rfl

@[simp] lemma equalWithin_set (frozen frozen' : Bool) (xs ys : List Value) :
    (Value.set frozen xs).equalWithin (.set frozen' ys) =
      .ok (xs.length == ys.length && areKeysAmong xs ys) := rfl

/-- Maps of one size are compared by the entries of the left one, unless the right one can only be
read. -/
lemma equalWithin_map (readOnly readOnly' : Bool) (es fs : List (Value × Value)) :
    (Value.map readOnly es).equalWithin (.map readOnly' fs) =
      if es.length ≠ fs.length then .ok false
      else if readOnly' then fs.allM (entryAmong es) else es.allM (entryAmong fs) := by
  have hleft : ∀ f ∈ fs, ∀ e ∈ es, equalFrom true e.2 f.2 = equalFrom false f.2 e.2 :=
    fun f _ e _ => equalFrom_not false f.2 e.2
  rw [equalWithin, equalFrom, allM_entryIn hleft, entriesIn_eq]
  cases readOnly' <;> rfl

lemma equalItems_cons (x y : Value) (xs ys : List Value) :
    equalItems false (x :: xs) (y :: ys) =
      x.equalWithin y >>= fun same => if same then equalItems false xs ys else .ok false := rfl

lemma equalItems_eq_true {xs ys : List Value} :
    equalItems false xs ys = .ok true ↔ xs.Forall₂ (fun x y => x.equalWithin y = .ok true) ys := by
  induction xs generalizing ys with
  | nil => cases ys <;> simp [equalItems]
  | cons x xs ih =>
    cases ys with
    | nil => simp [equalItems]
    | cons y ys =>
      rw [equalItems_cons, Outcome.bind_eq_ok, List.forall₂_cons, ← ih]
      constructor
      · rintro ⟨_ | _, hx, h⟩
        · simp at h
        · exact ⟨hx, h⟩
      · rintro ⟨hx, h⟩
        exact ⟨true, hx, h⟩

/-- Lists are equal where their items are, in order. -/
lemma equalWithin_list_eq_true {xs ys : List Value} :
    (Value.list xs).equalWithin (.list ys) = .ok true ↔
      xs.Forall₂ (fun x y => x.equalWithin y = .ok true) ys := by
  rw [equalWithin_list, ← equalItems_eq_true]
  split_ifs with hlength
  · rfl
  · simp only [Except.ok.injEq, Bool.false_eq_true, false_iff]
    exact fun h => hlength (equalItems_eq_true.mp h).length_eq

lemma equalWithin_tuple_eq_true {xs ys : List Value} :
    (Value.tuple xs).equalWithin (.tuple ys) = .ok true ↔
      xs.Forall₂ (fun x y => x.equalWithin y = .ok true) ys := by
  rw [equalWithin_tuple, equalItems_eq_true]

/-- How two values are compared: by their items if they are containers of one kind, and otherwise as
values that hold no others. -/
inductive Pairing : Value → Value → Prop where
  | lists (xs ys : List Value) : Pairing (.list xs) (.list ys)
  | tuples (xs ys : List Value) : Pairing (.tuple xs) (.tuple ys)
  | sets (frozen frozen' : Bool) (xs ys : List Value) : Pairing (.set frozen xs) (.set frozen' ys)
  | maps (readOnly readOnly' : Bool) (es fs : List (Value × Value)) :
      Pairing (.map readOnly es) (.map readOnly' fs)
  | single {a b : Value} (within_eq : a.equalWithin b = a.equalSingle b)
      (within_eq' : b.equalWithin a = b.equalSingle a) : Pairing a b

lemma pairing (a b : Value) : Pairing a b := by
  cases a with
  | list xs =>
    cases b with
    | list ys => exact .lists xs ys
    | _ => exact .single rfl rfl
  | tuple xs =>
    cases b with
    | tuple ys => exact .tuples xs ys
    | _ => exact .single rfl rfl
  | set frozen xs =>
    cases b with
    | set frozen' ys => exact .sets frozen frozen' xs ys
    | _ => exact .single rfl rfl
  | map readOnly es =>
    cases b with
    | map readOnly' fs => exact .maps readOnly readOnly' es fs
    | _ => exact .single rfl rfl
  | _ => cases b <;> exact .single rfl rfl

/-! ## Operands -/

/-- Only two numbers are compared in another way at the top. -/
lemma equal_eq_equalWithin {a b : Value} (h : ∀ m n, a = .number m → b ≠ .number n) :
    a.equal b = a.equalWithin b := by
  cases a with
  | number m =>
    cases b with
    | number n => exact absurd rfl (h m n rfl)
    | _ => rfl
  | _ => rfl

lemma same_eq_true {a b : Value} :
    a.same b = .ok true ↔ a.isBool = b.isBool ∧ a.equal b = .ok true := by
  rw [same]
  split_ifs with h <;> simp [h]

end QueryTemplate.Value
