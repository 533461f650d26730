import QueryTemplate.Proofs.Calendar.Order
import QueryTemplate.Proofs.Number.Position
import QueryTemplate.Proofs.Value.Clash
import QueryTemplate.Proofs.Value.WellFormed

/-!
# Elements and keys that count as one

Values that hold no others are equal where they have one content: numbers and truth values the exact
value, dates and times what they read, progressions their integers.  What is not a number is equal
only to the same object.  For elements and keys, times of day moreover stand for one instant.

Between values as they are made, counting as one goes both ways and is passed on
(`isSameKey_comm`, `isSameKey_trans`).  It is not reflexive: an object of its own that is not a number
counts as nothing.
-/

namespace QueryTemplate

/-! ## Progressions -/

namespace Progression

variable {p q : Progression}

lemma length_items : p.items.length = p.count := by
  simp [items]

lemma getElem?_items (k : Nat) :
    p.items[k]? = if k < p.count then some (p.start + p.step * k) else none := by
  rw [items, List.getElem?_map]
  split_ifs with h
  · rw [List.getElem?_range h]
    rfl
  · rw [List.getElem?_eq_none (by simpa using h)]
    rfl

/-- Two progressions have the same integers where it is told so without a look at each of them. -/
theorem sameItems_iff : p.sameItems q = true ↔ p.items = q.items := by
  simp only [sameItems, Bool.and_eq_true, Bool.or_eq_true, beq_iff_eq]
  constructor
  · rintro ⟨hcount, hzero | ⟨hstart, hone | hstep⟩⟩
    · rw [items, items, ← hcount, hzero]
      rfl
    · rw [items, items, ← hcount, hone, hstart]
      simp
    · rw [items, items, hcount, hstart, hstep]
  · intro h
    have hcount : p.count = q.count := by rw [← length_items, h, length_items]
    have hget := fun k : ℕ => congrArg (fun is : List ℤ => is[k]?) h
    simp only [getElem?_items, ← hcount] at hget
    refine ⟨hcount, ?_⟩
    by_cases hzero : p.count = 0
    · exact .inl hzero
    have hstart : p.start = q.start := by
      simpa [Nat.pos_of_ne_zero hzero] using hget 0
    refine .inr ⟨hstart, ?_⟩
    by_cases hone : p.count = 1
    · exact .inl hone
    · have htwo : 1 < p.count := by omega
      exact .inr (by simpa [htwo, hstart] using hget 1)

end Progression

/-! ## Content -/

namespace Number

/-- What a number is compared by inside a container: its exact value or, if it has none, the object
that it is.  An object of its own that is not a number has neither. -/
def essence? (n : Number) : Option (NumberLine ⊕ Number) :=
  match n.exactValue? with
  | some x => some (.inl x)
  | none => if n.object?.isSome then some (.inr n) else none

/-- Only what is not a number is an object with a name. -/
lemma exactValue?_of_isSome_object? {n : Number} (h : n.object?.isSome = true) :
    n.exactValue? = none := by
  cases n with
  | float x =>
    cases x with
    | nan => rfl
    | _ => cases h
  | decimal d =>
    cases d with
    | nan => rfl
    | _ => cases h
  | _ => cases h

variable {m n : Number}

lemma isSameObject_iff : m.isSameObject n = true ↔ m.object?.isSome = true ∧ m = n := by
  rw [isSameObject, Bool.and_eq_true, beq_iff_eq]

lemma essence?_eq_inl {x : NumberLine} : n.essence? = some (.inl x) ↔ n.exactValue? = some x := by
  rw [essence?]
  cases n.exactValue? with
  | some y => simp
  | none => split_ifs <;> simp

lemma essence?_eq_inr {m : Number} :
    n.essence? = some (.inr m) ↔ n.object?.isSome = true ∧ n = m := by
  rw [essence?]
  cases h : n.exactValue? with
  | some y =>
    refine iff_of_false (by simp) fun hobject => ?_
    simp [exactValue?_of_isSome_object? hobject.1] at h
  | none => simp

/-- Inside a container numbers are equal where they are one object or have one exact value. -/
theorem equalWithin_eq_true :
    m.equalWithin n = .ok true ↔ ∃ x, m.essence? = some x ∧ n.essence? = some x := by
  simp only [Sum.exists, essence?_eq_inl, essence?_eq_inr]
  have hobjects : (∃ k, (m.object?.isSome = true ∧ m = k) ∧ n.object?.isSome = true ∧ n = k) ↔
      m.isSameObject n = true := by
    rw [isSameObject_iff]
    constructor
    · rintro ⟨k, ⟨h, rfl⟩, -, rfl⟩
      exact ⟨h, rfl⟩
    · rintro ⟨h, rfl⟩
      exact ⟨m, ⟨h, rfl⟩, h, rfl⟩
  rw [hobjects, equalWithin]
  split_ifs with h <;> simp [h, equal_eq_true]

end Number

namespace Value

/-- What a value that holds no others is compared by. -/
inductive Content where
  | null
  | number (x : NumberLine ⊕ Number)
  | text (s : String)
  | range (items : List ℤ)
  | bytes (data : List UInt8)
  | date (day : ℕ)
  | time (offset : Bool) (reading : ℤ × ℕ)
  | moment (offset : Bool) (reading : ℤ)

/-- The content of a value; containers of values, records and some numbers that are none have no
content. -/
def content? : Value → Option Content
  | .null => some .null
  | .bool b => (Number.int (if b then 1 else 0)).essence?.map .number
  | .number n => n.essence?.map .number
  | .text s => some (.text s)
  | .range p => some (.range p.items)
  | .bytes _ data => some (.bytes data)
  | .date d => some (.date d.dayNumber)
  | .time t => some (.time t.offset.isSome t.reading)
  | .moment m => some (.moment m.time.offset.isSome m.reading)
  | .list _ | .tuple _ | .set _ _ | .map _ _ | .record _ _ => none

lemma content?_of_number? {v : Value} {n : Number} (h : v.number? = some n) :
    v.content? = n.essence?.map .number := by
  cases v with
  | bool | number =>
    obtain rfl := Option.some.inj h
    rfl
  | _ => simp [number?] at h

lemma equalWithin_numbers {a b : Value} {m n : Number} (ha : a.number? = some m)
    (hb : b.number? = some n) :
    m.equalWithin n = .ok true ↔ a.content? = b.content? ∧ a.content?.isSome := by
  rw [Number.equalWithin_eq_true, content?_of_number? ha, content?_of_number? hb, Option.isSome_map]
  constructor
  · rintro ⟨x, hx, hy⟩
    simp [hx, hy]
  · rintro ⟨h, hsome⟩
    obtain ⟨x, hx⟩ := Option.isSome_iff_exists.mp hsome
    rw [hx, Option.map_some, eq_comm] at h
    obtain ⟨y, hy, hxy⟩ := Option.map_eq_some_iff.mp h
    exact ⟨x, hx, Content.number.inj hxy ▸ hy⟩

/-- Values that hold no others are equal where they have one content. -/
theorem equalSingle_eq_true {a b : Value} :
    a.equalSingle b = .ok true ↔ a.content? = b.content? ∧ a.content?.isSome := by
  fun_cases equalSingle a b with
  | case1 | case2 | case3 | case4 | case5 | case6 | case7 =>
    simp [content?, Progression.sameItems_iff, Date.order, Time.order?_eq_eq, Moment.order?_eq_eq]
  | case8 a b _ _ _ _ _ _ _ m n hn hm => exact equalWithin_numbers hm hn
  | case9 a b h₁ h₂ h₃ h₄ h₅ h₆ h₇ h =>
    simp only [Except.ok.injEq, Bool.false_eq_true, false_iff]
    rintro ⟨heq, hsome⟩
    cases a with
    | null => cases b <;> simp_all [content?]
    | text s => cases b <;> simp_all [content?]
    | range p => cases b <;> simp_all [content?]
    | bytes growable data =>
      cases b with
      | bytes => exact h₄ _ _ _ _ rfl rfl
      | _ => simp_all [content?]
    | date d => cases b <;> simp_all [content?]
    | time t => cases b <;> simp_all [content?]
    | moment m => cases b <;> simp_all [content?]
    | bool | number => cases b <;> simp_all [content?, number?]
    | _ => simp [content?] at hsome

/-- The instant that a time of day stands for. -/
def instant? : Value → Option ℤ
  | .time t => some t.instant
  | _ => none

/-! ## Counting as one -/

lemma areSameKeys_iff {xs ys : List Value} :
    areSameKeys xs ys = true ↔ xs.Forall₂ (fun x y => isSameKey x y = true) ys := by
  induction xs generalizing ys with
  | nil => cases ys <;> simp [areSameKeys]
  | cons x xs ih =>
    cases ys with
    | nil => simp [areSameKeys]
    | cons y ys => rw [areSameKeys, Bool.and_eq_true, List.forall₂_cons, ih]

lemma isSameKey_tuple_iff {xs : List Value} {y : Value} :
    isSameKey (.tuple xs) y = true ↔
      ∃ ys, y = .tuple ys ∧ xs.Forall₂ (fun x y => isSameKey x y = true) ys := by
  cases y with
  | tuple ys => simp [isSameKey, areSameKeys_iff]
  | _ => simp [isSameKey, equalSingle, number?]

lemma isSameKey_set_iff {frozen : Bool} {xs : List Value} {y : Value} :
    isSameKey (.set frozen xs) y = true ↔
      ∃ frozen' ys, y = .set frozen' ys ∧ xs.length = ys.length ∧
        ∀ x ∈ xs, ∃ y ∈ ys, isSameKey x y = true := by
  cases y with
  | set frozen' ys => simp [isSameKey_set]
  | _ => simp [isSameKey, equalSingle, number?]

/-- Only the content of a time of day is that of one. -/
lemma eq_time_of_content? {x : Value} {t : Time} (h : x.content? = (Value.time t).content?) :
    ∃ u, x = .time u := by
  cases x with
  | time u => exact ⟨u, rfl⟩
  | _ => simp [content?] at h

/-- Values other than tuples and sets count as one where they have one content and one instant. -/
lemma isSameKey_single_iff {x y : Value} (htuple : ∀ xs, x ≠ .tuple xs)
    (hset : ∀ frozen xs, x ≠ .set frozen xs) :
    isSameKey x y = true ↔
      x.content? = y.content? ∧ x.content?.isSome ∧ x.instant? = y.instant? := by
  by_cases htime : ∃ t u, x = .time t ∧ y = .time u
  · obtain ⟨t, u, rfl, rfl⟩ := htime
    simp [isSameKey, Time.coincides, content?, instant?, Time.order?_eq_eq]
  · have hequal : isSameKey x y = true ↔ x.equalSingle y = .ok true := by
      rw [isSameKey]
      · rcases x.equalSingle y with u | r <;> simp
      · exact fun xs ys hx _ => htuple xs hx
      · exact fun _ xs _ ys hx _ => hset _ xs hx
      · exact fun t u hx hy => htime ⟨t, u, hx, hy⟩
    have hinstant : x.content? = y.content? → x.instant? = y.instant? := by
      intro h
      cases x with
      | time t =>
        obtain ⟨u, rfl⟩ := eq_time_of_content? h.symm
        exact absurd ⟨t, u, rfl, rfl⟩ htime
      | _ =>
        cases y with
        | time u =>
          obtain ⟨t, ht⟩ := eq_time_of_content? h
          cases ht
        | _ => rfl
    rw [hequal, equalSingle_eq_true]
    exact ⟨fun h => ⟨h.1, h.2, hinstant h.1⟩, fun h => ⟨h.1, h.2.1⟩⟩

/-- As many items as there are others, each with a counterpart of its own, leave none over. -/
lemma exists_counterpart {α β : Type} {r : α → β → Prop} {xs : List α} {ys : List β}
    (hlength : xs.length = ys.length) (hown : xs.Pairwise fun x x' => ∀ y ∈ ys, r x y → ¬ r x' y)
    (h : ∀ x ∈ xs, ∃ y ∈ ys, r x y) : ∀ y ∈ ys, ∃ x ∈ xs, r x y := by
  obtain ⟨zs, hzs⟩ := Outcome.exists_forall₂ h
  have hsub : zs ⊆ ys := Outcome.forall_of_forall₂ hzs fun _ _ _ hy => hy.1
  have hnodup : zs.Nodup := by
    clear h hlength
    induction hzs with
    | nil => exact .nil
    | @cons x z xs zs hxz hzs ih =>
      obtain ⟨hx, hxs⟩ := List.pairwise_cons.mp hown
      refine List.nodup_cons.mpr ⟨fun hz => ?_, ih hxs (List.cons_subset.mp hsub).2⟩
      have hback : ∀ w ∈ zs, ∃ x' ∈ xs, r x' w :=
        Outcome.forall_of_forall₂ hzs fun x' hx' _ hw => ⟨x', hx', hw.2⟩
      obtain ⟨x', hx', hr⟩ := hback z hz
      exact hx x' hx' z hxz.1 hxz.2 hr
  have hperm : zs.Perm ys :=
    (hnodup.subperm hsub).perm_of_length_le (by rw [← hzs.length_eq, hlength])
  intro y hy
  exact Outcome.forall_of_forall₂ (p := fun z => ∃ x ∈ xs, r x z) hzs
    (fun x hx _ hz => ⟨x, hx, hz.2⟩) y (hperm.mem_iff.mpr hy)

lemma WellFormed.of_mem_parts {v w : Value} (h : v.WellFormed) (hw : w ∈ v.parts) : w.WellFormed :=
  (everywhere_iff.mp h).2 w hw

/-- What counts as one with a value that is no tuple and no set is neither. -/
lemma isSameKey_single_symm {x y : Value} (htuple : ∀ xs, x ≠ .tuple xs)
    (hset : ∀ frozen xs, x ≠ .set frozen xs) (h : isSameKey x y = true) :
    isSameKey y x = true := by
  obtain ⟨hcontent, hsome, hinstant⟩ := (isSameKey_single_iff htuple hset).mp h
  rw [hcontent] at hsome
  have htuple' : ∀ ys, y ≠ .tuple ys := by
    rintro ys rfl
    cases hsome
  have hset' : ∀ frozen ys, y ≠ .set frozen ys := by
    rintro frozen ys rfl
    cases hsome
  exact (isSameKey_single_iff htuple' hset').mpr ⟨hcontent.symm, hsome, hinstant.symm⟩

lemma isSameKey_single_trans {x y z : Value} (htuple : ∀ xs, x ≠ .tuple xs)
    (hset : ∀ frozen xs, x ≠ .set frozen xs) (hxy : isSameKey x y = true)
    (hyz : isSameKey y z = true) : isSameKey x z = true := by
  obtain ⟨hcontent, hsome, hinstant⟩ := (isSameKey_single_iff htuple hset).mp hxy
  have hsome' := hcontent ▸ hsome
  have htuple' : ∀ ys, y ≠ .tuple ys := by
    rintro ys rfl
    cases hsome'
  have hset' : ∀ frozen ys, y ≠ .set frozen ys := by
    rintro frozen ys rfl
    cases hsome'
  obtain ⟨hcontent', -, hinstant'⟩ := (isSameKey_single_iff htuple' hset').mp hyz
  exact (isSameKey_single_iff htuple hset).mpr
    ⟨hcontent.trans hcontent', hsome, hinstant.trans hinstant'⟩

/-- Counting as one goes both ways and is passed on, as seen from one value. -/
lemma isSameKey_laws {x : Value} (hx : x.WellFormed) :
    (∀ y, y.WellFormed → isSameKey x y = true → isSameKey y x = true) ∧
    ∀ y z, y.WellFormed → z.WellFormed → isSameKey x y = true → isSameKey y z = true →
      isSameKey x z = true := by
  induction x using parts_induction with
  | step x ih =>
    have ih := fun w hw => ih w hw (hx.of_mem_parts hw)
    cases x with
    | tuple xs =>
      constructor
      · intro y hy h
        obtain ⟨ys, rfl, hys⟩ := isSameKey_tuple_iff.mp h
        obtain ⟨hlength, hys⟩ := List.forall₂_iff_get.mp hys
        refine isSameKey_tuple_iff.mpr ⟨xs, rfl, List.forall₂_iff_get.mpr
          ⟨hlength.symm, fun i hi hi' => ?_⟩⟩
        exact (ih _ (xs.get_mem _)).1 _ (hy.of_mem_parts (ys.get_mem _)) (hys i hi' hi)
      · intro y z hy hz hxy hyz
        obtain ⟨ys, rfl, hys⟩ := isSameKey_tuple_iff.mp hxy
        obtain ⟨zs, rfl, hzs⟩ := isSameKey_tuple_iff.mp hyz
        obtain ⟨hlength, hys⟩ := List.forall₂_iff_get.mp hys
        obtain ⟨hlength', hzs⟩ := List.forall₂_iff_get.mp hzs
        refine isSameKey_tuple_iff.mpr ⟨zs, rfl, List.forall₂_iff_get.mpr
          ⟨hlength.trans hlength', fun i hi hi' => ?_⟩⟩
        have hi'' : i < ys.length := hlength ▸ hi
        exact (ih _ (xs.get_mem _)).2 _ _ (hy.of_mem_parts (ys.get_mem _))
          (hz.of_mem_parts (zs.get_mem _)) (hys i hi hi'') (hzs i hi'' hi')
    | set frozen xs =>
      constructor
      · intro y hy h
        obtain ⟨frozen', ys, rfl, hlength, hys⟩ := isSameKey_set_iff.mp h
        refine isSameKey_set_iff.mpr ⟨frozen, xs, rfl, hlength.symm, fun y hy' => ?_⟩
        have hmade := hy.of_mem_parts hy'
        -- Two elements with one counterpart would count as one themselves.
        have hown : xs.Pairwise fun x x' => ∀ y ∈ ys, isSameKey x y = true →
            ¬ isSameKey x' y = true := by
          refine (everywhere_iff.mp hx).1.2.imp_of_mem fun {x x'} hxs hxs' hapart y hy' h h' => ?_
          have hmade := hy.of_mem_parts hy'
          have hback := (ih x' hxs').1 y hmade h'
          have hsame := (ih x hxs).2 y x' hmade (hx.of_mem_parts hxs') h hback
          exact absurd (hapart.1.symm.trans hsame) Bool.false_ne_true
        obtain ⟨x, hxs, h⟩ := exists_counterpart hlength hown hys y hy'
        exact ⟨x, hxs, (ih x hxs).1 y hmade h⟩
      · intro y z hy hz hxy hyz
        obtain ⟨_, ys, rfl, hlength, hys⟩ := isSameKey_set_iff.mp hxy
        obtain ⟨frozen', zs, rfl, hlength', hzs⟩ := isSameKey_set_iff.mp hyz
        refine isSameKey_set_iff.mpr ⟨frozen', zs, rfl, hlength.trans hlength', fun x hx => ?_⟩
        obtain ⟨y, hy', hxy⟩ := hys x hx
        obtain ⟨z, hz', hyz⟩ := hzs y hy'
        exact ⟨z, hz', (ih x hx).2 y z (hy.of_mem_parts hy') (hz.of_mem_parts hz') hxy hyz⟩
    | _ =>
      exact ⟨fun y _ h => isSameKey_single_symm (by simp) (by simp) h,
        fun y z _ _ hxy hyz => isSameKey_single_trans (by simp) (by simp) hxy hyz⟩

section Laws

variable {x y z : Value} (hx : x.WellFormed) (hy : y.WellFormed)

include hx hy

theorem isSameKey_comm : isSameKey x y = isSameKey y x :=
  Bool.eq_iff_iff.mpr ⟨(isSameKey_laws hx).1 y hy, (isSameKey_laws hy).1 x hx⟩

theorem isSameKey_trans (hz : z.WellFormed) (hxy : isSameKey x y = true)
    (hyz : isSameKey y z = true) : isSameKey x z = true :=
  (isSameKey_laws hx).2 y z hy hz hxy hyz

end Laws

end Value

end QueryTemplate
