import QueryTemplate.Proofs.Value.Keys
import QueryTemplate.Value.Inspect

/-!
# Values as they come back from a document

A document keeps of a set that it is one, but neither whether it is frozen nor the order in which
its elements came: it comes back frozen, with its elements in the order of their forms.  A map
comes back as one that can be written, and what is not a number as an object of its own.
`Value.restored` changes a value so, at every depth.

Nothing that is asked about elements and keys sees the change, if only the value that asks holds
none of the objects that are replaced (`Value.Detached`).
-/

namespace QueryTemplate

namespace Value

/-! ## The order of forms -/

section FormOrder

variable {α β : Type} {xs : List Value} {ys : List α}

lemma inFormOrder_perm (h : xs.length = ys.length) : (inFormOrder xs ys).Perm ys := by
  have hperm := (List.mergeSort_perm ((xs.map inspect).zip ys)
    fun a b => !decide (b.1 < a.1)).map (·.2)
  rwa [List.map_snd_zip (by simp [h])] at hperm

/-- The forms alone decide the order. -/
lemma inFormOrder_map (xs : List Value) (ys : List α) (f : α → β) :
    inFormOrder xs (ys.map f) = (inFormOrder xs ys).map f := by
  have hsort := List.map_mergeSort (r := fun a b => !decide (b.1 < a.1))
    (s := fun a b => !decide (b.1 < a.1)) (f := Prod.map id f) (l := (xs.map inspect).zip ys)
    fun _ _ _ _ => rfl
  simp only [inFormOrder, List.zip_map_right, ← hsort, List.map_map]
  rfl

/-- The elements in the order of their forms. -/
def inOrder (xs : List Value) : List Value :=
  inFormOrder xs xs

lemma inOrder_perm (xs : List Value) : (inOrder xs).Perm xs :=
  inFormOrder_perm rfl

end FormOrder

/-! ## The change -/

mutual

/-- The value that comes back from a document. -/
def restored : Value → Value
  | .number n => .number n.fresh
  | .list xs => .list (restoredEach xs)
  | .tuple xs => .tuple (restoredEach xs)
  | .set _ xs => .set true (inFormOrder xs (restoredEach xs))
  | .map _ es => .map false (restoredEntries es)
  | v => v
termination_by structural x => x

/-- The items that come back. -/
def restoredEach : List Value → List Value
  | [] => []
  | x :: xs => restored x :: restoredEach xs
termination_by structural x => x

/-- The entries that come back. -/
def restoredEntries : List (Value × Value) → List (Value × Value)
  | [] => []
  | (k, v) :: es => (k, restored v) :: restoredEntries es
termination_by structural x => x

end

lemma restoredEach_eq : ∀ xs, restoredEach xs = xs.map restored
  | [] => rfl
  | x :: xs => congrArg (restored x :: ·) (restoredEach_eq xs)

lemma restoredEntries_eq : ∀ es, restoredEntries es = es.map fun e => (e.1, e.2.restored)
  | [] => rfl
  | (k, v) :: es => congrArg ((k, restored v) :: ·) (restoredEntries_eq es)

@[simp] lemma restored_time (t : Time) : restored (.time t) = .time t := rfl

@[simp] lemma restored_moment (m : Moment) : restored (.moment m) = .moment m := rfl

@[simp] lemma restored_list (xs : List Value) : restored (.list xs) = .list (xs.map restored) :=
  congrArg Value.list (restoredEach_eq xs)

@[simp] lemma restored_tuple (xs : List Value) : restored (.tuple xs) = .tuple (xs.map restored) :=
  congrArg Value.tuple (restoredEach_eq xs)

@[simp] lemma restored_set (frozen : Bool) (xs : List Value) :
    restored (.set frozen xs) = .set true ((inOrder xs).map restored) := by
  rw [restored, restoredEach_eq, inFormOrder_map, inOrder]

@[simp] lemma restored_map (readOnly : Bool) (es : List (Value × Value)) :
    restored (.map readOnly es) = .map false (es.map fun e => (e.1, e.2.restored)) :=
  congrArg (Value.map false) (restoredEntries_eq es)

/-! ## Numbers -/

end Value

namespace Number

variable {m n : Number}

@[simp] lemma exactValue?_fresh (n : Number) : n.fresh.exactValue? = n.exactValue? := by
  cases n with
  | float x => cases x <;> rfl
  | decimal d => cases d <;> rfl
  | _ => rfl

@[simp] lemma isSignaling_fresh (n : Number) : n.fresh.isSignaling = n.isSignaling := by
  cases n with
  | decimal d => cases d <;> rfl
  | _ => rfl

@[simp] lemma object?_fresh (n : Number) : n.fresh.object? = none := by
  cases n with
  | float x => cases x <;> rfl
  | decimal d => cases d <;> rfl
  | _ => rfl

/-- A number is compared with another in the same way whichever object that is. -/
@[simp] lemma equal_fresh (m n : Number) : m.equal n.fresh = m.equal n := by
  rw [equal, equal, order?_position, order?_position, exactValue?_fresh, isSignaling_fresh]

@[simp] lemma isDecimal_fresh (n : Number) : n.fresh.isDecimal = n.isDecimal := by
  cases n <;> rfl

@[simp] lemma order_fresh (m n : Number) : m.order n.fresh = m.order n := by
  rw [order, order, order?_position, order?_position, exactValue?_fresh, isDecimal_fresh]

lemma isSameObject_fresh : m.isSameObject n.fresh = false := by
  rw [Bool.eq_false_iff, Ne, isSameObject_iff]
  rintro ⟨hsome, rfl⟩
  rw [object?_fresh] at hsome
  cases hsome

/-- Only to itself does it matter which object a number is. -/
lemma equalWithin_fresh (h : m.isSameObject n = false) :
    m.equalWithin n.fresh = m.equalWithin n := by
  rw [equalWithin, equalWithin, isSameObject_fresh, h, equal_fresh]

/-- An object of its own is what the number is as any object. -/
lemma essence?_of_fresh {x : NumberLine ⊕ Number} (h : n.fresh.essence? = some x) :
    n.essence? = some x := by
  cases x with
  | inl x => simpa [essence?_eq_inl] using h
  | inr m =>
    have hsome := (essence?_eq_inr.mp h).1
    rw [object?_fresh] at hsome
    cases hsome

end Number

namespace Value

/-- The number stands somewhere inside the value. -/
inductive HasNumber : Value → Number → Prop where
  | here (n : Number) : HasNumber (.number n) n
  | inside {v w : Value} {n : Number} (hw : w ∈ v.parts) (h : HasNumber w n) : HasNumber v n

/-- No object that is not a number is shared by the two values. -/
def Detached (a v : Value) : Prop :=
  ∀ n, a.HasNumber n → v.HasNumber n → n.object? = none

namespace Detached

variable {a v x y : Value}

lemma parts (h : a.Detached v) (hx : x ∈ a.parts) (hy : y ∈ v.parts) : x.Detached y :=
  fun n hn hn' => h n (.inside hx hn) (.inside hy hn')

lemma right (h : a.Detached v) (hy : y ∈ v.parts) : a.Detached y :=
  fun n hn hn' => h n hn (.inside hy hn')

lemma isSameObject {m n : Number} (h : a.Detached (.number n)) (hm : a.number? = some m) :
    m.isSameObject n = false := by
  rw [Bool.eq_false_iff, Ne, Number.isSameObject_iff]
  rintro ⟨hsome, rfl⟩
  cases a with
  | bool b =>
    obtain rfl := Option.some.inj hm
    cases hsome
  | number k =>
    obtain rfl := Option.some.inj hm
    rw [h k (.here k) (.here k)] at hsome
    cases hsome
  | _ => cases hm

end Detached

/-- What holds no values is compared with a number that comes back as with the number. -/
lemma equalSingle_fresh {a : Value} {n : Number} (h : a.Detached (.number n)) :
    a.equalSingle (.number n.fresh) = a.equalSingle (.number n) := by
  cases a with
  | bool b => exact Number.equalWithin_fresh (h.isSameObject rfl)
  | number m => exact Number.equalWithin_fresh (h.isSameObject rfl)
  | _ => rfl

/-! ## Elements and keys -/

lemma length_inOrder (xs : List Value) : (inOrder xs).length = xs.length :=
  (inOrder_perm xs).length_eq

lemma all_congr_mem {p q : Value → Bool} {xs : List Value} (h : ∀ x ∈ xs, p x = q x) :
    xs.all p = xs.all q := by
  rw [Bool.eq_iff_iff, List.all_eq_true, List.all_eq_true]
  exact forall₂_congr fun x hx => by rw [h x hx]

lemma areSameKeys_restored {xs ys : List Value}
    (h : ∀ x ∈ xs, ∀ y ∈ ys, isSameKey x y.restored = isSameKey x y) :
    areSameKeys xs (ys.map restored) = areSameKeys xs ys := by
  rw [Bool.eq_iff_iff, areSameKeys_iff, areSameKeys_iff, List.forall₂_map_right_iff]
  exact Outcome.forall₂_congr_of_mem fun x hx y hy => by rw [h x hx y hy]

/-- A key counts as another however that one comes back. -/
theorem isSameKey_restored {x y : Value} (h : x.Detached y) :
    isSameKey x y.restored = isSameKey x y := by
  induction x using parts_induction generalizing y with
  | step x ih =>
    have ih : ∀ w ∈ x.parts, ∀ z ∈ y.parts, isSameKey w z.restored = isSameKey w z :=
      fun w hw z hz => ih w hw (h.parts hw hz)
    cases y with
    | number n =>
      have hsingle := equalSingle_fresh h
      cases x <;> simp only [restored, isSameKey, hsingle]
    | list ys | map readOnly es => cases x <;> rfl
    | tuple ys =>
      cases x with
      | tuple xs =>
        rw [restored_tuple]
        exact areSameKeys_restored ih
      | _ => rfl
    | set frozen ys =>
      cases x with
      | set frozen' xs =>
        rw [restored_set, isSameKey_set, isSameKey_set, List.length_map, length_inOrder]
        refine congrArg _ (all_congr_mem fun x hx => ?_)
        rw [List.any_map, (inOrder_perm ys).any_eq, Bool.eq_iff_iff, List.any_eq_true,
          List.any_eq_true]
        exact exists_congr fun z => and_congr_right fun hz => by
          rw [Function.comp_apply, ih x hx z hz]
      | _ => rfl
    | _ => rfl

/-- What comes back has the content it had, or none. -/
lemma content?_of_restored {x : Value} {c : Content} (h : x.restored.content? = some c) :
    x.content? = some c := by
  cases x with
  | number n =>
    obtain ⟨e, he, rfl⟩ := Option.map_eq_some_iff.mp h
    exact Option.map_eq_some_iff.mpr ⟨e, Number.essence?_of_fresh he, rfl⟩
  | _ => exact h

lemma instant?_restored (x : Value) : x.restored.instant? = x.instant? := by
  cases x <;> rfl

/-- What counts as one when it comes back did so before. -/
theorem isSameKey_of_restored {x y : Value} (h : isSameKey x.restored y.restored = true) :
    isSameKey x y = true := by
  induction x using parts_induction generalizing y with
  | step x ih =>
    cases x with
    | tuple xs =>
      rw [restored_tuple] at h
      obtain ⟨zs, hz, hys⟩ := isSameKey_tuple_iff.mp h
      cases y with
      | tuple ys =>
        obtain rfl : ys.map restored = zs := by simpa using hz
        rw [List.forall₂_map_left_iff, List.forall₂_map_right_iff] at hys
        exact isSameKey_tuple_iff.mpr ⟨ys, rfl, Outcome.forall₂_imp_of_mem hys
          fun x hx y => ih x hx⟩
      | _ => simp [restored] at hz
    | set frozen xs =>
      rw [restored_set] at h
      obtain ⟨frozen', zs, hz, hlength, hys⟩ := isSameKey_set_iff.mp h
      cases y with
      | set _ ys =>
        obtain ⟨-, rfl⟩ : true = frozen' ∧ (inOrder ys).map restored = zs := by simpa using hz
        rw [List.length_map, List.length_map, length_inOrder, length_inOrder] at hlength
        refine isSameKey_set_iff.mpr ⟨_, ys, rfl, hlength, fun x hx => ?_⟩
        obtain ⟨_, hz, hkey⟩ := hys _ (List.mem_map_of_mem ((inOrder_perm xs).mem_iff.mpr hx))
        obtain ⟨y, hy, rfl⟩ := List.mem_map.mp hz
        exact ⟨y, (inOrder_perm ys).mem_iff.mp hy, ih x hx hkey⟩
      | _ => simp [restored] at hz
    | _ =>
      obtain ⟨hcontent, hsome, hinstant⟩ :=
        (isSameKey_single_iff (by simp [restored]) (by simp [restored])).mp h
      obtain ⟨c, hc⟩ := Option.isSome_iff_exists.mp hsome
      rw [hc, eq_comm] at hcontent
      rw [instant?_restored, instant?_restored] at hinstant
      have hx := content?_of_restored hc
      have hy := content?_of_restored hcontent
      exact (isSameKey_single_iff (by simp) (by simp)).mpr
        ⟨hx.trans hy.symm, by rw [hx]; rfl, hinstant⟩

lemma keyErrorAmong?_eq_none : ∀ xs : List Value,
    keyErrorAmong? xs = none ↔ ∀ x ∈ xs, x.keyError? = none
  | [] => by simp [keyErrorAmong?]
  | x :: xs => by
      rw [keyErrorAmong?, Option.or_eq_none_iff, keyErrorAmong?_eq_none xs, List.forall_mem_cons]

/-- What can be an element comes back as something that can be one. -/
theorem keyError?_restored {x : Value} (h : x.keyError? = none) : x.restored.keyError? = none := by
  induction x using parts_induction with
  | step x ih =>
    cases x with
    | tuple xs =>
      have hxs := (keyErrorAmong?_eq_none xs).mp h
      rw [restored_tuple]
      refine (keyErrorAmong?_eq_none _).mpr fun y hy => ?_
      obtain ⟨x, hx, rfl⟩ := List.mem_map.mp hy
      exact ih x hx (hxs x hx)
    | set frozen xs =>
      rw [restored_set]
      rfl
    | list xs | map readOnly es => cases h
    | number n =>
      rw [restored, keyError?, Number.isSignaling_fresh]
      exact h
    | _ => exact h

end Value

end QueryTemplate
