import QueryTemplate.Engine.Literal
import QueryTemplate.Proofs.Document.Storable
import QueryTemplate.Proofs.Value.Collect
import QueryTemplate.Proofs.Value.Forms
import QueryTemplate.Proofs.Value.Keys

/-!
# Sets in another order

The elements of a set are written in the order of their forms.  Simple values are told by their
forms, so what is written of a set of them does not depend on the order in which they came, and
neither does what is written of a value that holds such sets, nor whether it can be written.  Only a
record is shown by its own text, and that may show the elements of a set as they came.
-/

namespace QueryTemplate

/-- Records of these kinds are of one class.  An object of it shows itself as it likes, so with what
it holds its appearance may change. -/
def RecordKind.SameClass : RecordKind → RecordKind → Prop
  | .attributes _, .attributes _ => True
  | kind, kind' => kind = kind'

namespace Value

/-! ## Sorted elements -/

/-- Forms are compared as texts: one is not after the other. -/
def formLe (a b : String × Value) : Bool :=
  !decide (b.1 < a.1)

lemma formLe_iff {a b : String × Value} : formLe a b = true ↔ a.1 ≤ b.1 := by
  rw [formLe, Bool.not_eq_true', decide_eq_false_iff_not, String.not_lt]

/-- Simple values in the order of their forms stand in one order, however they came. -/
theorem inOrder_eq_of_perm {xs ys : List Value} (hxs : ∀ x ∈ xs, x.Simple) (h : xs.Perm ys) :
    inOrder xs = inOrder ys := by
  have hsort : ∀ zs : List Value, inOrder zs =
      ((zs.map fun z => (z.inspect, z)).mergeSort formLe).map (·.2) := by
    intro zs
    rw [inOrder, inFormOrder, ← List.zip_map' (g := fun z => z), List.map_id']
    rfl
  have htrans : ∀ a b c : String × Value, formLe a b → formLe b c → formLe a c := by
    intro a b c hab hbc
    rw [formLe_iff] at *
    exact String.le_trans hab hbc
  have htotal : ∀ a b : String × Value, (formLe a b || formLe b a) = true := by
    intro a b
    rw [Bool.or_eq_true, formLe_iff, formLe_iff]
    exact String.le_total a.1 b.1
  rw [hsort, hsort]
  refine congrArg _ (List.Perm.eq_of_pairwise ?_ (List.pairwise_mergeSort htrans htotal _)
    (List.pairwise_mergeSort htrans htotal _) ?_)
  · -- Elements with one form are one, so the sort leaves nothing to the order in which they came.
    intro a b ha hb hab hba
    obtain ⟨x, hx, rfl⟩ := List.mem_map.mp (List.mem_mergeSort.mp ha)
    obtain ⟨y, hy, rfl⟩ := List.mem_map.mp (List.mem_mergeSort.mp hb)
    have hform := String.le_antisymm (formLe_iff.mp hab) (formLe_iff.mp hba)
    rw [eq_of_inspect_eq (hxs x hx) (hxs y (h.mem_iff.mpr hy)) hform]
  · exact (List.mergeSort_perm _ _).trans ((h.map _).trans (List.mergeSort_perm _ _).symm)

/-! ## Sets made of unequal elements -/

lemma Simple.keyError? {x : Value} (h : x.Simple) : x.keyError? = none := by
  induction h with
  | tuple _ ih => exact (keyErrorAmong?_eq_none _).mpr ih
  | _ => rfl

/-- What holds of each kind of simple value holds everywhere in one. -/
lemma Simple.everywhere {x : Value} (h : x.Simple) {p : Value → Prop}
    (hp : ∀ y : Value, y.Simple → p y) : x.Everywhere p := by
  induction h with
  | tuple items ih => exact .intro (hp _ (.tuple items)) ih
  | null => exact (everywhere_single rfl).mpr (hp _ .null)
  | bool b => exact (everywhere_single rfl).mpr (hp _ (.bool b))
  | int i => exact (everywhere_single rfl).mpr (hp _ (.int i))
  | text s => exact (everywhere_single rfl).mpr (hp _ (.text s))

lemma Simple.wellFormed {x : Value} (h : x.Simple) : x.WellFormed :=
  h.everywhere fun y hy => by cases hy <;> trivial

lemma Simple.storable {x : Value} (h : x.Simple) : x.Storable :=
  h.everywhere fun y hy => by cases hy <;> trivial

/-- Simple values that count as one element are equal. -/
lemma Simple.equalWithin_of_isSameKey {x y : Value} (h : x.Simple) (hkey : x.isSameKey y = true) :
    x.equalWithin y = .ok true := by
  induction h generalizing y with
  | tuple _ ih =>
    obtain ⟨ys, rfl, hys⟩ := isSameKey_tuple_iff.mp hkey
    exact equalWithin_tuple_eq_true.mpr (Outcome.forall₂_imp_of_mem hys fun x hx y => ih x hx)
  | _ =>
    obtain ⟨hcontent, hsome, -⟩ := (isSameKey_single_iff (by simp) (by simp)).mp hkey
    have hsingle := equalSingle_eq_true.mpr ⟨hcontent, hsome⟩
    cases y <;> exact hsingle

/-- At the top too, where only numbers are asked otherwise: an integer is no object of its own. -/
lemma Simple.equal_eq_equalWithin {x : Value} (h : x.Simple) (y : Value) :
    x.equal y = x.equalWithin y := by
  cases h with
  | int i =>
    cases y with
    | number n => rfl
    | _ => exact Value.equal_eq_equalWithin (by simp)
  | _ => exact Value.equal_eq_equalWithin (by simp)

/-- Elements that are pairwise unequal are pairwise different elements. -/
lemma pairwise_apart {xs : List Value} (hxs : ∀ x ∈ xs, x.Simple)
    (h : xs.Pairwise fun x y => x.equal y = .ok false) : xs.Pairwise Apart := by
  refine h.imp_of_mem fun {x y} hx hy hne => ?_
  have hkey : x.isSameKey y = false := by
    rw [Bool.eq_false_iff]
    intro hkey
    rw [(hxs x hx).equal_eq_equalWithin, (hxs x hx).equalWithin_of_isSameKey hkey] at hne
    cases hne
  exact ⟨hkey, isSameKey_comm (hxs x hx).wellFormed (hxs y hy).wellFormed ▸ hkey⟩

/-- Unequal simple values are the elements of their set, in any order. -/
theorem setOf_of_simple {xs : List Value} (hxs : ∀ x ∈ xs, x.Simple) (h : xs.Pairwise Apart)
    (frozen : Bool) : setOf frozen xs = .ok (.set frozen xs) :=
  setOf_eq (fun x hx => (hxs x hx).keyError?) (h.imp And.left) frozen

/-! ## Obstacles to forms -/

/-- Only too many digits keep a simple value from its form. -/
lemma Simple.eq_tooLong_of_formError? {x : Value} (h : x.Simple) {e : FormError}
    (he : x.formError? = some e) : e = .tooLong := by
  induction h generalizing e with
  | null | bool b | text s => cases he
  | int i =>
    rw [formError?, Number.formError?] at he
    split_ifs at he
    exact (Option.some.inj he).symm
  | tuple _ ih =>
    rw [formError?, formErrorAmong?_eq] at he
    obtain ⟨y, hy, hye⟩ := List.exists_of_findSome?_eq_some he
    exact ih y hy hye

/-- So it is one obstacle that stands among them, in whatever order they come. -/
lemma formErrorAmong?_eq_of_perm {xs ys : List Value} (hxs : ∀ x ∈ xs, x.Simple)
    (h : xs.Perm ys) : formErrorAmong? xs = formErrorAmong? ys := by
  have htooLong : ∀ {zs : List Value} {e : FormError}, (∀ z ∈ zs, z.Simple) →
      formErrorAmong? zs = some e → e = .tooLong := fun hzs he =>
    (Simple.tuple hzs).eq_tooLong_of_formError? he
  have hnone : formErrorAmong? xs = none ↔ formErrorAmong? ys = none := by
    rw [formErrorAmong?_eq_none, formErrorAmong?_eq_none]
    exact forall_congr' fun x => imp_congr_left h.mem_iff
  cases hx : formErrorAmong? xs with
  | none => exact (hnone.mp hx).symm
  | some e =>
    cases hy : formErrorAmong? ys with
    | none => simp [hnone.mpr hy] at hx
    | some f =>
      rw [htooLong hxs hx, htooLong (fun y hy => hxs y (h.mem_iff.mpr hy)) hy]

/-! ## Values that differ in the order of sets -/

/-- The values differ at most in the order in which sets of simple values came: in sets themselves
and at any depth of lists, tuples and maps, and of records whose kinds may be taken for each
other. -/
inductive Reordered (opened : RecordKind → RecordKind → Prop) : Value → Value → Prop where
  | refl (v : Value) : Reordered opened v v
  | set (frozen : Bool) {xs ys : List Value} (simple : ∀ x ∈ xs, x.Simple) (perm : xs.Perm ys) :
      Reordered opened (.set frozen xs) (.set frozen ys)
  | list {xs ys : List Value} (length : xs.length = ys.length)
      (items : ∀ p ∈ xs.zip ys, Reordered opened p.1 p.2) :
      Reordered opened (.list xs) (.list ys)
  | tuple {xs ys : List Value} (length : xs.length = ys.length)
      (items : ∀ p ∈ xs.zip ys, Reordered opened p.1 p.2) :
      Reordered opened (.tuple xs) (.tuple ys)
  | map (readOnly : Bool) {es fs : List (Value × Value)} (length : es.length = fs.length)
      (keys : ∀ p ∈ es.zip fs, Reordered opened p.1.1 p.2.1)
      (values : ∀ p ∈ es.zip fs, Reordered opened p.1.2 p.2.2) :
      Reordered opened (.map readOnly es) (.map readOnly fs)
  | record {kind kind' : RecordKind} (isOpened : opened kind kind') {fs gs : List (String × Value)}
      (length : fs.length = gs.length) (names : ∀ p ∈ fs.zip gs, p.1.1 = p.2.1)
      (values : ∀ p ∈ fs.zip gs, Reordered opened p.1.2 p.2.2) :
      Reordered opened (.record kind fs) (.record kind' gs)

lemma map_eq_map_of_zip {α β : Type} {f g : α → β} {xs ys : List α} (length : xs.length = ys.length)
    (h : ∀ p ∈ xs.zip ys, f p.1 = g p.2) : xs.map f = ys.map g := by
  rw [← List.forall₂_eq_eq_eq, List.forall₂_map_left_iff, List.forall₂_map_right_iff,
    List.forall₂_iff_zip]
  exact ⟨length, fun hp => h _ hp⟩

namespace Reordered

variable {opened : RecordKind → RecordKind → Prop} {v w : Value}

lemma shape_eq (h : Reordered opened v w) : v.shape = w.shape := by
  cases h <;> rfl

/-- A text holds no sets. -/
lemma eq_of_string (h : Reordered opened v w) (hv : v.shape = .string) : v = w := by
  cases h with
  | refl => rfl
  | _ => cases hv

end Reordered

/-! ## What is written in documents -/

lemma encodeEntries_congr {es fs : List (Value × Value)}
    (h : (es.map fun e => (e.1.display, e.2.encode)) = fs.map fun e => (e.1.display, e.2.encode)) :
    encodeEntries es = encodeEntries fs := by
  induction es generalizing fs with
  | nil => rw [List.map_eq_nil_iff.mp h.symm]
  | cons e es ih =>
    cases fs with
    | nil => simp at h
    | cons f fs =>
      rw [List.map_cons, List.map_cons, List.cons.injEq, Prod.mk.injEq] at h
      rw [encodeEntries, encodeEntries, h.1.1, h.1.2, ih h.2]

/-- **Documents do not depend on the order of sets.** -/
theorem Reordered.encode_eq {v w : Value} (h : Reordered RecordKind.SameClass v w) :
    v.encode = w.encode := by
  induction h with
  | refl => rfl
  | set frozen simple perm =>
    rw [encode, encode, formErrorAmong?_eq_of_perm simple perm, encodeEach_eq, encodeEach_eq,
      inFormOrder_map, inFormOrder_map, ← inOrder, ← inOrder, inOrder_eq_of_perm simple perm]
  | list length _ ih | tuple length _ ih =>
    rw [encode, encode, encodeEach_eq, encodeEach_eq, map_eq_map_of_zip length ih]
  | @map readOnly es fs length keys _ _ ih =>
    have hshapes : es.map (fun e => e.1.shape) = fs.map fun e => e.1.shape :=
      map_eq_map_of_zip length fun p hp => (keys p hp).shape_eq
    have hall : ∀ gs : List (Value × Value), (gs.all fun e => e.1.shape == .string) =
        (gs.map fun e => e.1.shape).all (· == .string) := by
      intro gs
      rw [List.all_map]
      rfl
    rw [encode, encode, hall es, hall fs, ← hshapes]
    split_ifs with htexts
    -- Keys that are texts are the same on both sides, so the entries are written under one name.
    · have htext : ∀ p ∈ es.zip fs, p.1.1 = p.2.1 := by
        intro p hp
        have hmem := (List.of_mem_zip hp).1
        have hstring := List.all_eq_true.mp htexts _ (List.mem_map_of_mem hmem)
        exact (keys p hp).eq_of_string (eq_of_beq hstring)
      rw [encodeEntries_congr]
      exact map_eq_map_of_zip length fun p hp => by rw [htext p hp, ih p hp]
    · rfl
  | @record kind kind' isOpened =>
    cases kind <;> cases kind' <;> first | rfl | cases isOpened

end Value

/-! ## What is shown to the engine -/

namespace Engine

open Value

lemma literals_eq (xs : List Value) : literals xs = xs.map literal := by
  induction xs with
  | nil => rfl
  | cons x xs ih => rw [literals, ih, List.map_cons]

lemma literalEntries_eq (es : List (Value × Value)) :
    literalEntries es = es.map fun e => literal e.1 ++ ":" ++ literal e.2 := by
  induction es with
  | nil => rfl
  | cons e es ih => rw [literalEntries, ih, List.map_cons]

/-- **Literals do not depend on the order of sets**, where no record shows it. -/
theorem literal_eq {v w : Value} (h : Reordered (fun _ _ => False) v w) :
    literal v = literal w := by
  induction h with
  | refl => rfl
  | set frozen simple perm =>
    rw [literal, literal, literals_eq, literals_eq, inFormOrder_map, inFormOrder_map, ← inOrder,
      ← inOrder, inOrder_eq_of_perm simple perm]
  | list length _ ih | tuple length _ ih =>
    rw [literal, literal, literals_eq, literals_eq, map_eq_map_of_zip length ih]
  | map readOnly length _ _ hkeys hvalues =>
    rw [literal, literal, literalEntries_eq, literalEntries_eq]
    refine congrArg braced (map_eq_map_of_zip length fun p hp => ?_)
    rw [hkeys p hp, hvalues p hp]
  | record isOpened => exact isOpened.elim

lemma literalErrorAmong?_eq (xs : List Value) :
    literalErrorAmong? xs = (xs.map literalError?).findSome? id := by
  induction xs with
  | nil => rfl
  | cons x xs ih =>
    rw [literalErrorAmong?, ih, List.map_cons, List.findSome?_cons]
    cases literalError? x <;> rfl

lemma literalErrorOfEntries?_eq (es : List (Value × Value)) : literalErrorOfEntries? es =
    (es.map fun e => (literalError? e.1).or (literalError? e.2)).findSome? id := by
  induction es with
  | nil => rfl
  | cons e es ih =>
    rw [literalErrorOfEntries?, ih, List.map_cons, List.findSome?_cons]
    cases literalError? e.1 <;> cases literalError? e.2 <;> rfl

/-- The literal of a simple value meets the obstacles that its form meets. -/
lemma literalError?_of_simple {x : Value} (h : x.Simple) : literalError? x = x.formError? := by
  induction h with
  | tuple _ ih =>
    rw [literalError?, literalErrorAmong?_eq, formError?, formErrorAmong?_eq,
      List.map_congr_left ih, List.findSome?_map]
    rfl
  | _ => rfl

lemma literalErrorAmong?_of_simple {xs : List Value} (h : ∀ x ∈ xs, x.Simple) :
    literalErrorAmong? xs = formErrorAmong? xs :=
  literalError?_of_simple (.tuple h)

/-- Nor does it depend on that order whether there is a literal. -/
theorem literalError?_eq {v w : Value} (h : Reordered (fun _ _ => False) v w) :
    literalError? v = literalError? w := by
  induction h with
  | refl => rfl
  | set frozen simple perm =>
    rw [literalError?, literalError?, literalErrorAmong?_of_simple simple,
      literalErrorAmong?_of_simple fun y hy => simple y (perm.mem_iff.mpr hy),
      formErrorAmong?_eq_of_perm simple perm]
  | list length _ ih | tuple length _ ih =>
    rw [literalError?, literalError?, literalErrorAmong?_eq, literalErrorAmong?_eq,
      map_eq_map_of_zip length ih]
  | map readOnly length _ _ hkeys hvalues =>
    rw [literalError?, literalError?, literalErrorOfEntries?_eq, literalErrorOfEntries?_eq]
    refine congrArg _ (map_eq_map_of_zip length fun p hp => ?_)
    rw [hkeys p hp, hvalues p hp]
  | record isOpened => exact isOpened.elim

end Engine

end QueryTemplate
