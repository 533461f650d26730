import QueryTemplate.Proofs.Document.Storable
import QueryTemplate.Proofs.Value.Clash
import QueryTemplate.Proofs.Value.Symmetry

/-!
# Equality with what comes back from a document

What is compared with a value cannot tell it from the value that comes back, if it holds none of
the objects that were replaced: two lists that share an object which is not a number are equal, and
no longer when it comes back as another one.  Equality of sets and membership in one do not depend
on the order of the elements, since an element is never a signaling number.

Only a map that cannot be written to comes back as another kind of value for equality: its own
entries are no longer the ones that are walked.  Another entry may then be the first one without an
answer, but answers stay the same.
-/

namespace QueryTemplate.Value

open Outcome

/-- The items of what can be written can be written. -/
lemma encode_of_mem_parts {v w : Value} {j : Json} (h : v.encode = .ok j) (hw : w ∈ v.parts) :
    ∃ i, w.encode = .ok i := by
  cases v with
  | list xs =>
    obtain ⟨js, hjs, -⟩ := encode_list_eq_ok.mp h
    exact exists_of_forall₂ hjs w hw
  | tuple xs =>
    obtain ⟨js, hjs, -⟩ := encode_tuple_eq_ok.mp h
    exact exists_of_forall₂ hjs w hw
  | set frozen xs =>
    obtain ⟨-, js, hjs, -⟩ := encode_set_eq_ok.mp h
    exact exists_of_forall₂ hjs w ((inOrder_perm xs).mem_iff.mpr hw)
  | map readOnly es =>
    obtain ⟨fs, hfs, -⟩ := encode_map_eq_ok.mp h
    obtain ⟨e, he, rfl⟩ := List.mem_map.mp hw
    obtain ⟨f, -, hf⟩ := exists_of_forall₂ hfs e he
    exact ⟨f.2, hf⟩
  | _ => cases hw

/-- What can be written has texts as keys. -/
lemma hasTextKeys_of_encode {v : Value} {j : Json} (h : v.encode = .ok j) :
    v.Everywhere HasTextKeys := by
  induction v using parts_induction generalizing j with
  | step v ih =>
    have hkeys : v.HasTextKeys := by
      cases v with
      | map readOnly es =>
        obtain ⟨fs, hfs, -⟩ := encode_map_eq_ok.mp h
        intro e he
        obtain ⟨f, hkey, -⟩ := exists_of_forall₂ hfs e he
        exact ⟨f.1, hkey⟩
      | _ => trivial
    refine .intro hkeys fun w hw => ?_
    obtain ⟨i, hi⟩ := encode_of_mem_parts h hw
    exact ih w hw hi

/-! ## Forms -/

lemma formErrorAmong?_restored {xs : List Value}
    (h : ∀ x ∈ xs, x.restored.formError? = x.formError?) :
    formErrorAmong? (xs.map restored) = formErrorAmong? xs := by
  induction xs with
  | nil => rfl
  | cons x xs ih =>
    obtain ⟨hx, hxs⟩ := List.forall_mem_cons.mp h
    rw [List.map_cons, formErrorAmong?, formErrorAmong?, hx, ih hxs]

lemma formErrorOfEntries?_restored {es : List (Value × Value)}
    (h : ∀ e ∈ es, e.2.restored.formError? = e.2.formError?) :
    formErrorOfEntries? (es.map fun e => (e.1, e.2.restored)) = formErrorOfEntries? es := by
  induction es with
  | nil => rfl
  | cons e es ih =>
    obtain ⟨he, hes⟩ := List.forall_mem_cons.mp h
    rw [List.map_cons, formErrorOfEntries?, formErrorOfEntries?, he, ih hes]

/-- What can be written comes back with a form in messages exactly if it had one. -/
theorem formError?_restored {v : Value} {j : Json} (h : v.encode = .ok j) :
    v.restored.formError? = v.formError? := by
  induction v using parts_induction generalizing j with
  | step v ih =>
    have hparts : ∀ w ∈ v.parts, w.restored.formError? = w.formError? := by
      intro w hw
      obtain ⟨i, hi⟩ := encode_of_mem_parts h hw
      exact ih w hw hi
    cases v with
    | number n => cases n <;> rfl
    | list xs =>
      rw [restored_list]
      exact formErrorAmong?_restored hparts
    | tuple xs =>
      rw [restored_tuple]
      exact formErrorAmong?_restored hparts
    | set frozen xs =>
      -- The elements were shown when the set was written, so none of them is an obstacle.
      obtain ⟨hnone, -⟩ := encode_set_eq_ok.mp h
      have hshown := formErrorAmong?_eq_none.mp hnone
      rw [restored_set, formError?, formError?, hnone, formErrorAmong?_eq_none]
      intro y hy
      obtain ⟨x, hx, rfl⟩ := List.mem_map.mp hy
      have hmem := (inOrder_perm xs).mem_iff.mp hx
      exact (hparts x hmem).trans (hshown x hmem)
    | map readOnly es =>
      rw [restored_map]
      exact formErrorOfEntries?_restored fun e he => hparts e.2 (List.mem_map_of_mem he)
    | _ => rfl

/-! ## Maps that can be written to -/

/-- The value is no map that can only be read. -/
def IsWritable : Value → Prop
  | .map readOnly _ => readOnly = false
  | _ => True

/-- No map inside the value can only be read. -/
def Writable (v : Value) : Prop :=
  v.Everywhere IsWritable

lemma Writable.parts {v w : Value} (h : v.Writable) (hw : w ∈ v.parts) : w.Writable :=
  (everywhere_iff.mp h).2 w hw

/-! ## Signals -/

/-- The value signals: it is a number that does, or a tuple with such an item. -/
inductive Signals : Value → Prop where
  | number {n : Number} (h : n.isSignaling) : Signals (.number n)
  | item {xs : List Value} {x : Value} (hx : x ∈ xs) (h : Signals x) : Signals (.tuple xs)

/-- No number among the elements of a set signals. -/
lemma isSignaling_of_keyError? {x : Value} {n : Number} (hx : x.keyError? = none)
    (hn : x.number? = some n) : n.isSignaling = false := by
  cases x with
  | bool =>
    obtain rfl := Option.some.inj hn
    rfl
  | number =>
    obtain rfl := Option.some.inj hn
    simpa [keyError?] using hx
  | _ => simp [number?] at hn

/-- What signals equals no element of a set inside a container. -/
lemma Signals.not_equalWithin {a y : Value} (h : a.Signals) (hy : y.keyError? = none) :
    a.equalWithin y ≠ .ok true := by
  induction h generalizing y with
  | @number n h =>
    intro (heq : (Value.number n).equalSingle y = .ok true)
    cases hm : y.number? with
    | some m =>
      have hapart : n.isSameObject m = false := by
        rw [Bool.eq_false_iff, Ne, Number.isSameObject_iff]
        rintro ⟨-, rfl⟩
        exact absurd (h.symm.trans (isSignaling_of_keyError? hy hm)) (by decide)
      have herror : (Value.number n).equalSingle y = .error .undefined :=
        equalSingle_eq_error.mpr ⟨n, m, rfl, hm, hapart, .inl h⟩
      rw [herror] at heq
      cases heq
    | none =>
      cases y with
      | bool | number => cases hm
      | _ => cases heq
  | @item xs x hx _ ih =>
    intro heq
    cases pairing (.tuple xs) y with
    | tuples _ ys =>
      have hys := (keyErrorAmong?_eq_none ys).mp hy
      obtain ⟨y, hmem, hxy⟩ := exists_mem_of_forall₂ (equalWithin_tuple_eq_true.mp heq) x hx
      exact ih (hys y hmem) hxy
    | single within_eq =>
      have hsome := (equalSingle_eq_true.mp (within_eq ▸ heq)).2
      cases hsome

/-- What signals equals no element of a set. -/
lemma Signals.not_equal {a y : Value} (h : a.Signals) (hy : y.keyError? = none) :
    a.equal y ≠ .ok true := by
  by_cases hnumbers : ∃ m n, a = .number m ∧ y = .number n
  · obtain ⟨m, n, rfl, rfl⟩ := hnumbers
    obtain h | - := h
    have herror : m.equal n = .error .undefined := Number.equal_eq_error.mpr (.inl h)
    intro (heq : m.equal n = .ok true)
    rw [herror] at heq
    cases heq
  · rw [equal_eq_equalWithin fun m n hm hn => hnumbers ⟨m, n, hm, hn⟩]
    exact h.not_equalWithin hy

/-- Comparing with an element of a set inside a container has no answer only for what signals. -/
lemma signals_of_clashWithin {a x : Value} (h : a.ClashWithin x) (hx : x.keyError? = none) :
    a.Signals := by
  induction h with
  | @numbers a x m n left right _ clash =>
    have hm : m.isSignaling = true := by
      simpa [Number.Clash, isSignaling_of_keyError? hx right] using clash
    cases a with
    | bool =>
      obtain rfl := Option.some.inj left
      cases hm
    | number =>
      obtain rfl := Option.some.inj left
      exact .number hm
    | _ => simp [number?] at left
  | lists | maps | readOnlyMaps => simp [keyError?] at hx
  | tuples _ _ ih =>
    exact .item (by simp) (ih ((keyErrorAmong?_eq_none _).mp hx _ (by simp)))

/-- Comparing with an element of a set has no answer only for what signals. -/
lemma signals_of_clash {a x : Value} (h : a.Clash x) (hx : x.keyError? = none) : a.Signals := by
  obtain ⟨m, n, rfl, rfl, clash⟩ | h := h
  · exact .number (by simpa [Number.Clash, isSignaling_of_keyError? hx rfl] using clash)
  · exact signals_of_clashWithin h hx

/-- The search for a value among the elements of a set does not depend on their order. -/
lemma anyM_same_eq_of_perm {a : Value} {xs ys : List Value} (h : xs.Perm ys)
    (hkey : ∀ x ∈ xs, x.keyError? = none) : xs.anyM (a.same ·) = ys.anyM (a.same ·) := by
  have : Subsingleton Number.Undefined := ⟨fun | .undefined, .undefined => rfl⟩
  -- An element of a set never signals, so no answer at one element leaves none to be found.
  refine anyM_eq_of_perm h fun x hx u hu y hy hfound => ?_
  have hsignals := signals_of_clash (same_eq_error.mp hu).2 (hkey x hx)
  rw [same] at hfound
  split_ifs at hfound
  · exact hsignals.not_equal (hkey y hy) hfound
  · cases hfound

/-! ## Equality -/

section Items

variable {xs ys : List Value}

lemma equalItems_restored
    (h : ∀ x ∈ xs, ∀ y ∈ ys, x.equalWithin y.restored = x.equalWithin y) :
    equalItems false xs (ys.map restored) = equalItems false xs ys := by
  induction xs generalizing ys with
  | nil => cases ys <;> rfl
  | cons x xs ih =>
    cases ys with
    | nil => rfl
    | cons y ys =>
      have hxs : ∀ x ∈ xs, ∀ y ∈ ys, x.equalWithin y.restored = x.equalWithin y :=
        fun x hx y hy => h x (List.mem_cons_of_mem _ hx) y (List.mem_cons_of_mem _ hy)
      rw [List.map_cons, equalItems_cons, equalItems_cons, h x (by simp) y (by simp), ih hxs]

lemma forall₂_equalWithin_restored
    (h : ∀ x ∈ xs, ∀ y ∈ ys, x.equalWithin y.restored = .ok true ↔ x.equalWithin y = .ok true) :
    xs.Forall₂ (fun x y => x.equalWithin y = .ok true) (ys.map restored) ↔
      xs.Forall₂ (fun x y => x.equalWithin y = .ok true) ys := by
  rw [List.forall₂_map_right_iff]
  exact forall₂_congr_of_mem h

/-- An entry finds the same counterpart among the entries that come back.  So what relates the answers
for the values of any two entries relates the answers for the entry. -/
lemma entryAmong_restored {r : Except Number.Undefined Bool → Except Number.Undefined Bool → Prop}
    {es fs : List (Value × Value)} {e : Value × Value} (he : e ∈ es)
    (hnone : r (.ok false) (.ok false))
    (hvalues : ∀ x ∈ es.map (·.2), ∀ w ∈ fs.map (·.2),
      r (x.equalWithin w.restored) (x.equalWithin w)) :
    r (entryAmong (fs.map fun f => (f.1, f.2.restored)) e) (entryAmong fs e) := by
  have hfind : (fs.map fun f => (f.1, f.2.restored)).find? (e.1.isSameKey ·.1) =
      (fs.find? (e.1.isSameKey ·.1)).map fun f => (f.1, f.2.restored) := List.find?_map
  rw [entryAmong, entryAmong, hfind]
  cases hf : fs.find? (e.1.isSameKey ·.1) with
  | none => exact hnone
  | some f =>
    exact hvalues e.2 (List.mem_map_of_mem he) f.2
      (List.mem_map_of_mem (List.mem_of_find?_eq_some hf))

end Items

/-- What comes back of a value makes a difference to equality only inside containers: it makes none
to what is compared as a value that holds no others, and a set has the same elements. -/
inductive Restoring : Value → Value → Prop where
  | lists (xs ys : List Value) : Restoring (.list xs) (.list ys)
  | tuples (xs ys : List Value) : Restoring (.tuple xs) (.tuple ys)
  | maps (readOnly readOnly' : Bool) (es fs : List (Value × Value)) :
      Restoring (.map readOnly es) (.map readOnly' fs)
  | unchanged {a v : Value} (within_eq : a.equalWithin v.restored = a.equalWithin v) :
      Restoring a v

lemma restoring {a v : Value} (h : a.Detached v) : Restoring a v := by
  cases v with
  | number n =>
    have hsingle := equalSingle_fresh h
    cases a <;> exact .unchanged hsingle
  | list ys =>
    cases a with
    | list xs => exact .lists xs ys
    | _ => exact .unchanged rfl
  | tuple ys =>
    cases a with
    | tuple xs => exact .tuples xs ys
    | _ => exact .unchanged rfl
  | set frozen ys =>
    cases a with
    | set frozen' xs =>
      have hsame := isSameKey_restored h
      refine .unchanged ?_
      rw [restored_set] at hsame ⊢
      exact congrArg Except.ok hsame
    | _ => exact .unchanged rfl
  | map readOnly fs =>
    cases a with
    | map readOnly' es => exact .maps readOnly' readOnly es fs
    | _ => exact .unchanged rfl
  | _ => exact .unchanged rfl

/-- Where no map inside the value can only be read, nothing is changed for equality. -/
theorem equalWithin_restored {a v : Value} (hv : v.Writable) (h : a.Detached v) :
    a.equalWithin v.restored = a.equalWithin v := by
  induction v using parts_induction generalizing a with
  | step v ih =>
    have hitems : ∀ x ∈ a.parts, ∀ w ∈ v.parts, x.equalWithin w.restored = x.equalWithin w :=
      fun x hx w hw => ih w hw (hv.parts hw) (h.parts hx hw)
    cases restoring h with
    | lists xs ys =>
      have hys : equalItems false xs (ys.map restored) = equalItems false xs ys :=
        equalItems_restored hitems
      rw [restored_list, equalWithin_list, equalWithin_list, List.length_map, hys]
    | tuples xs ys => exact restored_tuple ys ▸ equalItems_restored hitems
    | maps readOnly readOnly' es fs =>
      obtain rfl : readOnly' = false := (everywhere_iff.mp hv).1
      have hentries : ∀ e ∈ es,
          entryAmong (fs.map fun f => (f.1, f.2.restored)) e = entryAmong fs e :=
        fun e he => entryAmong_restored he rfl hitems
      rw [restored_map, equalWithin_map, equalWithin_map, List.length_map,
        allM_congr_of_mem hentries, if_neg Bool.false_ne_true, if_neg Bool.false_ne_true]
    | unchanged within_eq => exact within_eq

/-- What equals a value equals what comes back of it. -/
theorem equalWithin_restored_eq_true {a v : Value} (hv : v.Keyed) (ha : a.WellFormed)
    (h : a.Detached v) : a.equalWithin v.restored = .ok true ↔ a.equalWithin v = .ok true := by
  induction v using parts_induction generalizing a with
  | step v ih =>
    have hitems : ∀ x ∈ a.parts, ∀ w ∈ v.parts,
        x.equalWithin w.restored = .ok true ↔ x.equalWithin w = .ok true :=
      fun x hx w hw => ih w hw (hv.parts hw) (ha.of_mem_parts hx) (h.parts hx hw)
    cases restoring h with
    | lists xs ys =>
      rw [restored_list, equalWithin_list_eq_true, equalWithin_list_eq_true]
      exact forall₂_equalWithin_restored hitems
    | tuples xs ys =>
      rw [restored_tuple, equalWithin_tuple_eq_true, equalWithin_tuple_eq_true]
      exact forall₂_equalWithin_restored hitems
    | maps readOnly readOnly' es fs =>
      -- The entries of the left map are asked now, even if those of the right one were before.
      have hcomparable : Comparable (.map readOnly es) (.map readOnly' fs) := hv.comparable ha
      have hvalues : ∀ e ∈ es, ∀ f ∈ fs,
          e.2.equalWithin f.2 = .ok true ↔ f.2.equalWithin e.2 = .ok true :=
        fun e he f hf => equalWithin_comm
          (hcomparable.parts (List.mem_map_of_mem he) (List.mem_map_of_mem hf))
      rw [equalWithin_map_eq_true hcomparable.keysMatch (everywhere_iff.mp ha).1
        (everywhere_iff.mp hv.made).1 hvalues, restored_map, equalWithin_map, List.length_map,
        if_neg Bool.false_ne_true]
      split_ifs with hlength
      · simp [hlength]
      · rw [allM_eq_true, and_iff_right (not_ne_iff.mp hlength)]
        exact forall₂_congr fun e he =>
          entryAmong_restored (r := fun p q => p = .ok true ↔ q = .ok true) he Iff.rfl hitems
    | unchanged within_eq => rw [within_eq]

/-- **Equality with what comes back inside a container.** -/
theorem agree_equalWithin {a v : Value} (hv : v.Keyed) (ha : a.WellFormed) (h : a.Detached v) :
    Agree v.Writable (a.equalWithin v) (a.equalWithin v.restored) := by
  refine ⟨fun p q hp hq => ?_, fun hw => (equalWithin_restored hw h).symm⟩
  have htrue := equalWithin_restored_eq_true hv ha h
  rw [hp, hq, Except.ok.injEq, Except.ok.injEq] at htrue
  exact Bool.eq_iff_iff.mpr htrue.symm

/-- Only a number comes back as a number. -/
lemma exists_of_restored_eq_number {v : Value} {n : Number} (h : v.restored = .number n) :
    ∃ m, v = .number m := by
  cases v with
  | number m => exact ⟨m, rfl⟩
  | _ => simp [restored] at h

/-- A list with an object that is not a number equals another with the same object, and no longer
when that comes back. -/
example : (Value.list [.number (.decimal (.nan false false 0 (some 1)))]).equalWithin
      (.list [.number (.decimal (.nan false false 0 (some 1)))]) = .ok true ∧
    (Value.list [.number (.decimal (.nan false false 0 (some 1)))]).equalWithin
      (Value.restored (.list [.number (.decimal (.nan false false 0 (some 1)))])) = .ok false := by
  decide

/-- **Equality with what comes back.** -/
theorem agree_equal {a v : Value} (hv : v.Keyed) (ha : a.WellFormed) (h : a.Detached v) :
    Agree v.Writable (a.equal v) (a.equal v.restored) := by
  by_cases hnumbers : ∃ m n, a = .number m ∧ v = .number n
  · obtain ⟨m, n, rfl, rfl⟩ := hnumbers
    exact .of_eq (Number.equal_fresh m n).symm
  · rw [equal_eq_equalWithin fun m n hm hn => hnumbers ⟨m, n, hm, hn⟩,
      equal_eq_equalWithin fun m n hm hn => ?_]
    · exact agree_equalWithin hv ha h
    · obtain ⟨k, hk⟩ := exists_of_restored_eq_number hn
      exact hnumbers ⟨m, k, hm, hk⟩

/-! ## Operands -/

@[simp] lemma isNull_restored (v : Value) : v.restored.isNull = v.isNull := by
  cases v <;> rfl

@[simp] lemma isBool_restored (v : Value) : v.restored.isBool = v.isBool := by
  cases v <;> rfl

@[simp] lemma hasTooManyItems_restored (v : Value) :
    v.restored.hasTooManyItems = v.hasTooManyItems := by
  cases v <;> rfl

/-- What comes back stands in no other order. -/
@[simp] lemma order?_restored (a v : Value) : a.order? v.restored = a.order? v := by
  cases v with
  | number n =>
    cases a with
    | number m => exact Number.order_fresh m n
    | _ => rfl
  | list | tuple | set | map => cases a <;> rfl
  | _ => rfl

section Operands

variable {a v : Value} (hv : v.Keyed) (ha : a.WellFormed) (hd : a.Detached v)

include hv ha hd

lemma agree_same : Agree v.Writable (a.same v) (a.same v.restored) := by
  rw [same, same, isBool_restored]
  split_ifs
  · exact agree_equal hv ha hd
  · exact .of_eq rfl

/-- A search among the items of a container and one among those that come back agree. -/
lemma agree_memberOf :
    Agree v.Writable (a.memberOf v) (a.memberOf v.restored) := by
  have hsearch : ∀ xs : List Value, (∀ x ∈ xs, x ∈ v.parts) → Agree v.Writable
      (xs.anyM (a.same ·)) ((xs.map restored).anyM (a.same ·)) := by
    intro xs hxs
    refine .anyM ?_
    rw [List.forall₂_map_right_iff]
    refine List.forall₂_same.mpr fun x hx => ?_
    exact (agree_same (hv.parts (hxs x hx)) ha (hd.right (hxs x hx))).mono fun h =>
      h.parts (hxs x hx)
  rw [memberOf, memberOf, isNull_restored]
  by_cases hnull : (a.isNull || v.isNull) = true
  · rw [if_pos hnull, if_pos hnull]
    exact .of_eq rfl
  rw [if_neg hnull, if_neg hnull]
  cases v with
  | list xs =>
    rw [restored_list]
    exact ((hsearch xs fun _ => id).map some).mapError _
  | tuple xs =>
    rw [restored_tuple]
    exact ((hsearch xs fun _ => id).map some).mapError _
  | set frozen xs =>
    have horder : xs.anyM (a.same ·) = (inOrder xs).anyM (a.same ·) :=
      anyM_same_eq_of_perm (inOrder_perm xs).symm (everywhere_iff.mp hv.made).1.1
    have hagree := hsearch (inOrder xs) fun x => (inOrder_perm xs).mem_iff.mp
    rw [← horder] at hagree
    rw [restored_set]
    exact (hagree.map some).mapError _
  | map readOnly es =>
    have hagree := hsearch (es.map (·.2)) fun _ => id
    rw [List.map_map] at hagree
    rw [restored_map, items?, items?, List.map_map]
    exact (hagree.map some).mapError _
  | _ => exact .of_eq rfl

end Operands

end QueryTemplate.Value
