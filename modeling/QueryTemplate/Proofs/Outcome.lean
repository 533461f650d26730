import Mathlib.Data.List.Forall2
import Mathlib.Tactic.Common

/-!
# Outcomes taken apart

A chain of steps that may fail succeeds exactly when each of its steps does, and a walk over the
items of a list fails exactly when it gets to an item whose step fails.  These lemmas peel a chain
from the front and find the item that ends a walk.
-/

namespace QueryTemplate.Outcome

variable {ε ε' α β : Type}

@[simp] lemma ok_bind (a : α) (f : α → Except ε β) : (Except.ok a >>= f) = f a := rfl

@[simp] lemma error_bind (e : ε) (f : α → Except ε β) :
    ((Except.error e : Except ε α) >>= f) = .error e := rfl

@[simp] lemma mapError_ok (a : α) (f : ε → ε') :
    (Except.ok a : Except ε α).mapError f = .ok a := rfl

lemma bind_eq_ok {x : Except ε α} {f : α → Except ε β} {b : β} :
    (x >>= f) = .ok b ↔ ∃ a, x = .ok a ∧ f a = .ok b := by
  cases x <;> simp

lemma bind_eq_error {x : Except ε α} {f : α → Except ε β} {e : ε} :
    (x >>= f) = .error e ↔ x = .error e ∨ ∃ a, x = .ok a ∧ f a = .error e := by
  cases x <;> simp

lemma map_eq_ok {x : Except ε α} {f : α → β} {b : β} :
    x.map f = .ok b ↔ ∃ a, x = .ok a ∧ f a = b := by
  cases x <;> simp [Except.map]

/-- What is made of an outcome tells the outcome, where different things are made of different
ones. -/
lemma map_eq_ok_of_injective {x : Except ε α} {f : α → β} (hf : f.Injective) {a : α} :
    x.map f = .ok (f a) ↔ x = .ok a := by
  cases x <;> simp [Except.map, hf.eq_iff]

lemma map_eq_error {x : Except ε α} {f : α → β} {e : ε} :
    x.map f = .error e ↔ x = .error e := by
  cases x <;> simp [Except.map]

lemma mapError_eq_ok {x : Except ε α} {f : ε → ε'} {a : α} :
    x.mapError f = .ok a ↔ x = .ok a := by
  cases x <;> simp [Except.mapError]

lemma mapError_eq_error {x : Except ε α} {f : ε → ε'} {e : ε'} :
    x.mapError f = .error e ↔ ∃ e', x = .error e' ∧ f e' = e := by
  cases x <;> simp [Except.mapError]

@[simp] lemma map_self (x : Except ε α) : x.map (fun a => a) = x := by
  cases x <;> rfl

lemma map_map {γ : Type} (x : Except ε α) (f : α → β) (g : β → γ) :
    (x.map f).map g = x.map fun a => g (f a) := by
  cases x <;> rfl

lemma mapError_map (x : Except ε α) (f : α → β) (g : ε → ε') :
    (x.map f).mapError g = (x.mapError g).map f := by
  cases x <;> rfl

/-- Steps taken for all items succeed together exactly when each of them does. -/
lemma mapM_eq_ok {f : α → Except ε β} {xs : List α} {ys : List β} :
    xs.mapM f = .ok ys ↔ xs.Forall₂ (fun x y => f x = .ok y) ys := by
  induction xs generalizing ys with
  | nil => simp [pure, Except.pure, eq_comm]
  | cons x xs ih =>
    rw [List.mapM_cons, bind_eq_ok, List.forall₂_cons_left_iff]
    refine exists_congr fun y => ?_
    rw [bind_eq_ok]
    constructor
    · rintro ⟨hy, zs, hzs, h⟩
      obtain rfl : y :: zs = ys := by simpa [pure, Except.pure] using h
      exact ⟨zs, hy, ih.mp hzs, rfl⟩
    · rintro ⟨zs, hy, hzs, rfl⟩
      exact ⟨hy, zs, ih.mpr hzs, rfl⟩

/-- Items of which each has a counterpart have them together. -/
lemma exists_forall₂ {R : α → β → Prop} {xs : List α} (h : ∀ x ∈ xs, ∃ y, R x y) :
    ∃ ys, xs.Forall₂ R ys := by
  induction xs with
  | nil => exact ⟨[], .nil⟩
  | cons x xs ih =>
    obtain ⟨⟨y, hy⟩, hxs⟩ := List.forall_mem_cons.mp h
    obtain ⟨ys, hys⟩ := ih hxs
    exact ⟨y :: ys, .cons hy hys⟩

/-- What follows for each item and its counterpart follows for all. -/
lemma forall₂_imp_of_mem {R S : α → β → Prop} {xs : List α} {ys : List β} (h : xs.Forall₂ R ys)
    (himp : ∀ x ∈ xs, ∀ y, R x y → S x y) : xs.Forall₂ S ys := by
  induction h with
  | nil => exact .nil
  | cons hxy _ ih =>
    obtain ⟨hx, hxs⟩ := List.forall_mem_cons.mp himp
    exact .cons (hx _ hxy) (ih hxs)

lemma forall₂_congr_of_mem {R S : α → β → Prop} {xs : List α} {ys : List β}
    (h : ∀ x ∈ xs, ∀ y ∈ ys, R x y ↔ S x y) : xs.Forall₂ R ys ↔ xs.Forall₂ S ys := by
  rw [List.forall₂_iff_get, List.forall₂_iff_get]
  exact and_congr_right fun _ => forall₃_congr fun i hi hi' =>
    h _ (xs.get_mem ⟨i, hi⟩) _ (ys.get_mem ⟨i, hi'⟩)

lemma forall₂_and {R S : α → β → Prop} {xs : List α} {ys : List β} :
    xs.Forall₂ (fun x y => R x y ∧ S x y) ys ↔ xs.Forall₂ R ys ∧ xs.Forall₂ S ys := by
  constructor
  · exact fun h => ⟨h.imp fun _ _ => And.left, h.imp fun _ _ => And.right⟩
  · rintro ⟨hr, hs⟩
    induction hr with
    | nil => exact .nil
    | cons hxy _ ih =>
      obtain ⟨hxy', hs⟩ := List.forall₂_cons.mp hs
      exact .cons ⟨hxy, hxy'⟩ (ih hs)

/-- What follows for the counterpart of each item holds of all counterparts. -/
lemma forall_of_forall₂ {R : α → β → Prop} {p : β → Prop} {xs : List α} {ys : List β}
    (h : xs.Forall₂ R ys) (hp : ∀ x ∈ xs, ∀ y, R x y → p y) : ∀ y ∈ ys, p y := by
  induction h with
  | nil => simp
  | cons hxy _ ih =>
    obtain ⟨hx, hxs⟩ := List.forall_mem_cons.mp hp
    exact List.forall_mem_cons.mpr ⟨hx _ hxy, ih hxs⟩

lemma exists_of_forall₂ {R : α → β → Prop} {xs : List α} {ys : List β} (h : xs.Forall₂ R ys) :
    ∀ x ∈ xs, ∃ y, R x y :=
  forall_of_forall₂ h.flip fun y _ _ hxy => ⟨y, hxy⟩

/-- Each item has its counterpart among the others. -/
lemma exists_mem_of_forall₂ {R : α → β → Prop} {xs : List α} {ys : List β} (h : xs.Forall₂ R ys) :
    ∀ x ∈ xs, ∃ y ∈ ys, R x y := by
  induction h with
  | nil => simp
  | @cons x y xs ys hxy _ ih =>
    refine List.forall_mem_cons.mpr ⟨⟨y, List.mem_cons_self, hxy⟩, fun x hx => ?_⟩
    obtain ⟨y, hy, hxy⟩ := ih x hx
    exact ⟨y, List.mem_cons_of_mem _ hy, hxy⟩

lemma exists_forall₂_iff {R : α → β → Prop} {xs : List α} :
    (∃ ys, xs.Forall₂ R ys) ↔ ∀ x ∈ xs, ∃ y, R x y :=
  ⟨fun ⟨_, h⟩ => exists_of_forall₂ h, exists_forall₂⟩

/-- Counterparts are read as they should be together exactly when each of them is. -/
lemma map_eq_map_iff {γ : Type} {R : α → β → Prop} {read : β → γ} {f : α → γ} {p : α → Prop}
    {xs : List α} {ys : List β} (h : xs.Forall₂ R ys)
    (hread : ∀ x ∈ xs, ∀ y, R x y → (read y = f x ↔ p x)) :
    ys.map read = xs.map f ↔ ∀ x ∈ xs, p x := by
  induction h with
  | nil => simp
  | cons hxy _ ih =>
    obtain ⟨hx, hxs⟩ := List.forall_mem_cons.mp hread
    rw [List.map_cons, List.map_cons, List.cons_eq_cons, hx _ hxy, ih hxs, List.forall_mem_cons]

/-- What is told of each item is told of its counterpart. -/
lemma map_eq_map_of_forall₂ {γ : Type} {R : α → β → Prop} {f : α → γ} {g : β → γ} {xs : List α}
    {ys : List β} (h : xs.Forall₂ R ys) (hfg : ∀ x ∈ xs, ∀ y, R x y → g y = f x) :
    ys.map g = xs.map f :=
  (map_eq_map_iff (p := fun _ => True) h fun x hx y hxy =>
    iff_of_true (hfg x hx y hxy) trivial).mpr fun _ _ => trivial

/-- What is the case for each counterpart as for its item is so for all. -/
lemma forall_iff_of_forall₂ {R : α → β → Prop} {p : α → Prop} {q : β → Prop} {xs : List α}
    {ys : List β} (h : xs.Forall₂ R ys) (hpq : ∀ x ∈ xs, ∀ y, R x y → (q y ↔ p x)) :
    (∀ y ∈ ys, q y) ↔ ∀ x ∈ xs, p x := by
  induction h with
  | nil => simp
  | cons hxy _ ih =>
    obtain ⟨hx, hxs⟩ := List.forall_mem_cons.mp hpq
    rw [List.forall_mem_cons, List.forall_mem_cons, hx _ hxy, ih hxs]

/-- Each outcome is a value exactly when all are together. -/
lemma mapM_id_eq_ok {os : List (Except ε α)} {xs : List α} :
    os.mapM id = .ok xs ↔ os = xs.map .ok := by
  rw [mapM_eq_ok]
  constructor
  · intro h
    induction h with
    | nil => rfl
    | cons hx _ ih => rw [List.map_cons, ← ih, ← hx, id]
  · rintro rfl
    rw [List.forall₂_map_left_iff]
    exact List.forall₂_same.mpr fun x _ => rfl

lemma exists_of_mem_mapM {f : α → Except ε β} {xs : List α} {ys : List β} {y : β}
    (h : xs.mapM f = .ok ys) (hy : y ∈ ys) : ∃ x ∈ xs, f x = .ok y := by
  have hf := mapM_eq_ok.mp h
  clear h
  induction hf with
  | nil => simp at hy
  | cons hx _ ih =>
    rcases List.mem_cons.mp hy with rfl | hy
    · exact ⟨_, List.mem_cons_self, hx⟩
    · obtain ⟨x, hxs, hx⟩ := ih hy
      exact ⟨x, List.mem_cons_of_mem _ hxs, hx⟩

/-! ## Walks -/

/-- A walk over a list that fails at an item, or goes on behind an item that lets it pass, fails
exactly when it gets to an item at which it fails. -/
lemma reaches_iff {fails passes : α → Prop} {w : List α → Prop} (nil : ¬ w [])
    (cons : ∀ x xs, w (x :: xs) ↔ fails x ∨ passes x ∧ w xs) (xs : List α) :
    w xs ↔ ∃ before x after, xs = before ++ x :: after ∧ (∀ y ∈ before, passes y) ∧ fails x := by
  constructor
  · intro h
    induction xs with
    | nil => exact absurd h nil
    | cons x xs ih =>
      rcases (cons x xs).mp h with hx | ⟨hx, hxs⟩
      · exact ⟨[], x, xs, rfl, by simp, hx⟩
      · obtain ⟨before, y, after, rfl, hb, hy⟩ := ih hxs
        exact ⟨x :: before, y, after, rfl, List.forall_mem_cons.mpr ⟨hx, hb⟩, hy⟩
  · rintro ⟨before, x, after, rfl, hb, hx⟩
    induction before with
    | nil => exact (cons x after).mpr (.inl hx)
    | cons y before ih =>
      obtain ⟨hy, hb⟩ := List.forall_mem_cons.mp hb
      exact (cons y _).mpr (.inr ⟨hy, ih hb⟩)

/-- The item that a walk gets to is smaller than the list, as recursion on it needs. -/
lemma sizeOf_reached_lt [SizeOf α] (before : List α) (x : α) (after : List α) :
    sizeOf x < sizeOf (before ++ x :: after) :=
  List.sizeOf_lt_of_mem (by simp)

/-- The same of a walk over two lists at once, which ends where one of them ends. -/
lemma reaches_pair_iff {fails passes : α → β → Prop} {w : List α → List β → Prop}
    (nil_left : ∀ ys, ¬ w [] ys) (nil_right : ∀ xs, ¬ w xs [])
    (cons : ∀ x xs y ys, w (x :: xs) (y :: ys) ↔ fails x y ∨ passes x y ∧ w xs ys)
    (xs : List α) (ys : List β) :
    w xs ys ↔ ∃ xs₁ x xs₂ ys₁ y ys₂, xs = xs₁ ++ x :: xs₂ ∧ ys = ys₁ ++ y :: ys₂ ∧
      xs₁.Forall₂ passes ys₁ ∧ fails x y := by
  constructor
  · intro h
    induction xs generalizing ys with
    | nil => exact absurd h (nil_left ys)
    | cons x xs ih =>
      cases ys with
      | nil => exact absurd h (nil_right _)
      | cons y ys =>
        rcases (cons x xs y ys).mp h with hx | ⟨hx, h⟩
        · exact ⟨[], x, xs, [], y, ys, rfl, rfl, .nil, hx⟩
        · obtain ⟨xs₁, z, xs₂, ys₁, v, ys₂, rfl, rfl, hb, hz⟩ := ih ys h
          exact ⟨x :: xs₁, z, xs₂, y :: ys₁, v, ys₂, rfl, rfl, .cons hx hb, hz⟩
  · rintro ⟨xs₁, x, xs₂, ys₁, y, ys₂, rfl, rfl, hb, hx⟩
    induction hb with
    | nil => exact (cons x xs₂ y ys₂).mpr (.inl hx)
    | cons hz _ ih => exact (cons _ _ _ _).mpr (.inr ⟨hz, ih⟩)

/-- A search fails at the first item without an answer, provided no item before it is found. -/
lemma anyM_eq_error {p : α → Except ε Bool} {e : ε} (xs : List α) :
    xs.anyM p = .error e ↔
      ∃ before x after, xs = before ++ x :: after ∧ (∀ y ∈ before, p y = .ok false) ∧
        p x = .error e := by
  refine reaches_iff (w := fun xs => xs.anyM p = .error e) ?_ ?_ xs
  · simp [List.anyM, pure, Except.pure]
  · intro x xs
    rw [List.anyM]
    rcases p x with e' | _ | _ <;> simp [pure, Except.pure]

/-- A check of all items fails at the first item without an answer, provided every item before it
passes. -/
lemma allM_eq_error {p : α → Except ε Bool} {e : ε} (xs : List α) :
    xs.allM p = .error e ↔
      ∃ before x after, xs = before ++ x :: after ∧ (∀ y ∈ before, p y = .ok true) ∧
        p x = .error e := by
  refine reaches_iff (w := fun xs => xs.allM p = .error e) ?_ ?_ xs
  · simp [List.allM, pure, Except.pure]
  · intro x xs
    rw [List.allM]
    rcases p x with e' | _ | _ <;> simp [pure, Except.pure]

lemma allM_eq_true {p : α → Except ε Bool} {xs : List α} :
    xs.allM p = .ok true ↔ ∀ x ∈ xs, p x = .ok true := by
  induction xs with
  | nil => simp [List.allM, pure, Except.pure]
  | cons x xs ih =>
    rw [List.allM, List.forall_mem_cons, ← ih]
    rcases p x with e | _ | _ <;> simp [pure, Except.pure]

/-! ## Outcomes that agree -/

/-- Where both outcomes are answers they are the same one, and under the condition they are the same
in any case. -/
def Agree (exact : Prop) (x y : Except ε α) : Prop :=
  (∀ a b, x = .ok a → y = .ok b → a = b) ∧ (exact → x = y)

namespace Agree

variable {p q : Prop} {x y : Except ε α}

lemma of_eq (h : x = y) : Agree p x y := by
  refine ⟨fun a b ha hb => ?_, fun _ => h⟩
  rw [← h, ha] at hb
  exact Except.ok.inj hb

lemma mono (h : Agree p x y) (hqp : q → p) : Agree q x y :=
  ⟨h.1, h.2 ∘ hqp⟩

/-- Steps that agree after steps that agree do so together. -/
lemma bind {f g : α → Except ε β} (h : Agree p x y) (hf : ∀ a, Agree p (f a) (g a)) :
    Agree p (x >>= f) (y >>= g) := by
  constructor
  · intro b c hb hc
    obtain ⟨a, hx, hb⟩ := bind_eq_ok.mp hb
    obtain ⟨a', hy, hc⟩ := bind_eq_ok.mp hc
    obtain rfl := h.1 a a' hx hy
    exact (hf a).1 b c hb hc
  · intro hp
    rw [h.2 hp]
    exact congrArg (y >>= ·) (funext fun a => (hf a).2 hp)

lemma map (h : Agree p x y) (f : α → β) : Agree p (x.map f) (y.map f) := by
  have hbind : ∀ z : Except ε α, z.map f = z >>= fun a => .ok (f a) := by
    intro z
    cases z <;> rfl
  rw [hbind, hbind]
  exact h.bind fun a => of_eq rfl

lemma mapError (h : Agree p x y) (f : ε → ε') : Agree p (x.mapError f) (y.mapError f) :=
  ⟨fun a b ha hb => h.1 a b (mapError_eq_ok.mp ha) (mapError_eq_ok.mp hb),
    fun hp => congrArg _ (h.2 hp)⟩

/-- Searches agree when their checks of counterparts do. -/
lemma anyM {f : α → Except ε Bool} {g : β → Except ε Bool} {xs : List α} {ys : List β}
    (h : xs.Forall₂ (fun a b => Agree p (f a) (g b)) ys) : Agree p (xs.anyM f) (ys.anyM g) := by
  induction h with
  | nil => exact of_eq rfl
  | cons hab _ ih =>
    rw [List.anyM, List.anyM]
    refine hab.bind fun c => ?_
    cases c with
    | true => exact of_eq rfl
    | false => exact ih

end Agree

/-- A walk over items asks nothing but its question of each. -/
lemma allM_congr_of_mem {f g : α → Except ε Bool} {xs : List α} (h : ∀ a ∈ xs, f a = g a) :
    xs.allM f = xs.allM g := by
  induction xs with
  | nil => rfl
  | cons a xs ih =>
    obtain ⟨ha, hxs⟩ := List.forall_mem_cons.mp h
    rw [List.allM, List.allM, ha, ih hxs]

/-- A search does not depend on the order, if no item is found where another has no answer. -/
lemma anyM_eq_of_perm [Subsingleton ε] {f : α → Except ε Bool} {xs ys : List α} (h : xs.Perm ys)
    (hf : ∀ a ∈ xs, ∀ e, f a = .error e → ∀ b ∈ xs, f b ≠ .ok true) : xs.anyM f = ys.anyM f := by
  induction h with
  | nil => rfl
  | cons a _ ih =>
    have hrest := ih fun b hb e he c hc =>
      hf b (List.mem_cons_of_mem a hb) e he c (List.mem_cons_of_mem a hc)
    rw [List.anyM, List.anyM, hrest]
  | swap a b xs =>
    have hab := hf a (by simp)
    have hba := hf b (by simp)
    simp only [List.anyM]
    rcases ha : f a with e | _ | _ <;> rcases hb : f b with e' | _ | _
    · rw [Subsingleton.elim e e']
    all_goals simp_all
  | trans h _ ih ih' =>
    rw [ih hf, ih']
    intro a ha e he b hb
    exact hf a (h.mem_iff.mpr ha) e he b (h.mem_iff.mpr hb)

end QueryTemplate.Outcome
