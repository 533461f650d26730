import QueryTemplate.Binding
import QueryTemplate.Proofs.Outcome
import QueryTemplate.Proofs.Value.Restored

/-!
# Values read deeply

Inside a record with validated fields, records with declared or validated fields become maps.  A
value is left as it is exactly where no such record shows in it (`unfoldRecords_eq_self_iff`).  Maps
are neither elements of sets nor keys, so a value is refused exactly where such a record shows in an
element or a key (`exists_unfoldRecords_iff`).

Objects with attributes and maps that can only be read are not looked into.
-/

namespace QueryTemplate

/-- Does a record of this kind become a map? -/
def RecordKind.isUnfolded : RecordKind → Bool
  | .attributes _ => false
  | .declared _ | .model _ => true

lemma RecordKind.exists_attributes {kind : RecordKind} (h : kind.isUnfolded = false) :
    ∃ shown, kind = .attributes shown := by
  cases kind with
  | attributes shown => exact ⟨shown, rfl⟩
  | declared | model => cases h

namespace Value

/-- The values that reading gets to from a value. -/
def reached : Value → List Value
  | .list xs | .tuple xs | .set _ xs => xs
  | .map false es => es.map (·.1) ++ es.map (·.2)
  | .record (.declared _) fs | .record (.model _) fs => fs.map (·.2)
  | _ => []

/-- The elements and keys among them. -/
def reachedKeys : Value → List Value
  | .set _ xs => xs
  | .map false es => es.map (·.1)
  | _ => []

lemma sizeOf_lt_of_mem_reached {v w : Value} (h : w ∈ v.reached) : sizeOf w < sizeOf v := by
  fun_cases reached v with
  | case1 xs | case2 xs | case3 frozen xs =>
    have := List.sizeOf_lt_of_mem (show w ∈ xs from h)
    simp
    omega
  | case4 es =>
    rcases List.mem_append.mp h with h | h
    all_goals
      obtain ⟨⟨k, v⟩, he, rfl⟩ := List.mem_map.mp h
      have := List.sizeOf_lt_of_mem he
      simp at this ⊢
      omega
  | case5 frozen fs | case6 frozen fs =>
    obtain ⟨⟨name, v⟩, hf, rfl⟩ := List.mem_map.mp (show w ∈ fs.map (·.2) from h)
    have := List.sizeOf_lt_of_mem hf
    simp at this ⊢
    omega
  | case7 => simp_all [reached]

lemma reached_record {kind : RecordKind} (h : kind.isUnfolded = true)
    (fs : List (String × Value)) : (Value.record kind fs).reached = fs.map (·.2) := by
  cases kind with
  | attributes => cases h
  | declared | model => rfl

@[simp]
lemma reachedKeys_record (kind : RecordKind) (fs : List (String × Value)) :
    (Value.record kind fs).reachedKeys = [] := by
  rfl

theorem reached_induction {motive : Value → Prop}
    (step : ∀ v, (∀ w ∈ v.reached, motive w) → motive v) (v : Value) : motive v :=
  step v fun w _ => reached_induction step w
termination_by sizeOf v
decreasing_by exact sizeOf_lt_of_mem_reached ‹_›

/-- A record that becomes a map shows in the value: it is one, or reading gets to one. -/
inductive ShowsRecord : Value → Prop where
  | record {kind : RecordKind} (unfolded : kind.isUnfolded = true) (fs : List (String × Value)) :
      ShowsRecord (.record kind fs)
  | inside {v w : Value} (hw : w ∈ v.reached) (h : w.ShowsRecord) : ShowsRecord v

/-- Such a record shows in an element of a set or in a key that reading gets to. -/
inductive ShowsRecordAsKey : Value → Prop where
  | here {v w : Value} (hw : w ∈ v.reachedKeys) (h : w.ShowsRecord) : ShowsRecordAsKey v
  | inside {v w : Value} (hw : w ∈ v.reached) (h : w.ShowsRecordAsKey) : ShowsRecordAsKey v

/-- The elements of sets and the keys of maps that reading gets to are fit to be such. -/
inductive HasFitKeys : Value → Prop where
  | intro {v : Value} (fit : ∀ w ∈ v.reachedKeys, w.keyError? = none)
      (inside : ∀ w ∈ v.reached, w.HasFitKeys) : HasFitKeys v

lemma showsRecord_iff {v : Value} : v.ShowsRecord ↔
    (∃ kind fs, v = .record kind fs ∧ kind.isUnfolded = true) ∨ ∃ w ∈ v.reached, w.ShowsRecord := by
  constructor
  · rintro (⟨hkind, fs⟩ | ⟨hw, h⟩)
    · exact .inl ⟨_, fs, rfl, hkind⟩
    · exact .inr ⟨_, hw, h⟩
  · rintro (⟨kind, fs, rfl, hkind⟩ | ⟨w, hw, h⟩)
    · exact .record hkind fs
    · exact .inside hw h

lemma showsRecordAsKey_iff {v : Value} : v.ShowsRecordAsKey ↔
    (∃ w ∈ v.reachedKeys, w.ShowsRecord) ∨ ∃ w ∈ v.reached, w.ShowsRecordAsKey := by
  constructor
  · rintro (⟨hw, h⟩ | ⟨hw, h⟩)
    · exact .inl ⟨_, hw, h⟩
    · exact .inr ⟨_, hw, h⟩
  · rintro (⟨w, hw, h⟩ | ⟨w, hw, h⟩)
    · exact .here hw h
    · exact .inside hw h

/-! ## What is read -/

lemma unfoldRecordItems_eq (xs : List Value) : unfoldRecordItems xs = xs.mapM unfoldRecords := by
  induction xs with
  | nil => rfl
  | cons x xs ih =>
    rw [unfoldRecordItems, ih, List.mapM_cons]
    rfl

/-- The entry with its key and value read deeply. -/
def unfoldEntry (e : Value × Value) : Except KeyError (Value × Value) := do
  let key ← e.1.unfoldRecords
  let value ← e.2.unfoldRecords
  match key.keyError? with
  | some e => .error e
  | none => .ok (key, value)

lemma unfoldEntry_eq_ok {e f : Value × Value} : unfoldEntry e = .ok f ↔
    e.1.unfoldRecords = .ok f.1 ∧ e.2.unfoldRecords = .ok f.2 ∧ f.1.keyError? = none := by
  obtain ⟨k, v⟩ := f
  rw [unfoldEntry]
  rcases e.1.unfoldRecords with err | key
  · simp
  rcases e.2.unfoldRecords with err | value
  · simp
  rw [Outcome.ok_bind, Outcome.ok_bind]
  cases hkey : key.keyError? with
  | some err =>
    simp only [reduceCtorEq, Except.ok.injEq, false_iff]
    rintro ⟨rfl, -, h⟩
    simp [hkey] at h
  | none =>
    simp only [Except.ok.injEq, Prod.mk.injEq]
    exact ⟨fun ⟨hk, hv⟩ => ⟨hk, hv, hk ▸ hkey⟩, fun ⟨hk, hv, _⟩ => ⟨hk, hv⟩⟩

lemma unfoldRecordEntries_eq (es : List (Value × Value)) :
    unfoldRecordEntries es = es.mapM unfoldEntry := by
  induction es with
  | nil => rfl
  | cons e es ih =>
    rw [unfoldRecordEntries, ih, List.mapM_cons, unfoldEntry]
    rcases e.1.unfoldRecords with err | key
    · rfl
    rcases e.2.unfoldRecords with err | value
    · rfl
    simp only [Outcome.ok_bind]
    cases key.keyError? <;> rfl

lemma unfoldRecordFields_eq (fs : List (String × Value)) : unfoldRecordFields fs =
    fs.mapM fun f => f.2.unfoldRecords.map fun v => (Value.text f.1, v) := by
  induction fs with
  | nil => rfl
  | cons f fs ih =>
    rw [unfoldRecordFields, ih, List.mapM_cons]
    rcases f.2.unfoldRecords with err | value <;> rfl

lemma unfoldRecordItems_eq_ok {xs ys : List Value} : unfoldRecordItems xs = .ok ys ↔
    xs.Forall₂ (fun x y => x.unfoldRecords = .ok y) ys := by
  rw [unfoldRecordItems_eq, Outcome.mapM_eq_ok]

lemma unfoldRecords_set_eq_ok {frozen : Bool} {xs : List Value} {v : Value} :
    (Value.set frozen xs).unfoldRecords = .ok v ↔ ∃ ys,
      xs.Forall₂ (fun x y => x.unfoldRecords = .ok y) ys ∧ (∀ y ∈ ys, y.keyError? = none) ∧
        v = .set frozen ys := by
  rw [unfoldRecords, Outcome.bind_eq_ok]
  refine exists_congr fun ys => ?_
  rw [unfoldRecordItems_eq_ok, ← keyErrorAmong?_eq_none]
  refine and_congr_right fun _ => ?_
  cases keyErrorAmong? ys <;> simp [eq_comm]

lemma unfoldRecordFields_eq_ok {fs : List (String × Value)} {es : List (Value × Value)} :
    unfoldRecordFields fs = .ok es ↔
      fs.Forall₂ (fun f e => e.1 = .text f.1 ∧ f.2.unfoldRecords = .ok e.2) es := by
  rw [unfoldRecordFields_eq, Outcome.mapM_eq_ok]
  refine Outcome.forall₂_congr_of_mem fun f _ e _ => ?_
  obtain ⟨k, v⟩ := e
  rw [Outcome.map_eq_ok]
  simp only [Prod.mk.injEq]
  exact ⟨fun ⟨w, hw, hk, hv⟩ => ⟨hk.symm, hv ▸ hw⟩, fun ⟨hk, hv⟩ => ⟨v, hv, hk.symm, rfl⟩⟩

/-- Fields can be read when their values can. -/
lemma exists_entries_iff {p : Value → Value → Prop} {fs : List (String × Value)} :
    (∃ es : List (Value × Value), fs.Forall₂ (fun f e => e.1 = .text f.1 ∧ p f.2 e.2) es) ↔
      ∀ f ∈ fs, ∃ v, p f.2 v := by
  rw [Outcome.exists_forall₂_iff]
  refine forall₂_congr fun f _ => ?_
  exact ⟨fun ⟨e, _, he⟩ => ⟨e.2, he⟩, fun ⟨v, hv⟩ => ⟨(.text f.1, v), rfl, hv⟩⟩

/-- A record becomes a map. -/
lemma unfoldRecords_record_eq_ok {kind : RecordKind} (h : kind.isUnfolded = true)
    {fs : List (String × Value)} {v : Value} :
    (Value.record kind fs).unfoldRecords = .ok v ↔ ∃ es,
      fs.Forall₂ (fun f e => e.1 = .text f.1 ∧ f.2.unfoldRecords = .ok e.2) es ∧
        v = .map false es := by
  have hfields :
      (Value.record kind fs).unfoldRecords = (unfoldRecordFields fs).map (.map false) := by
    cases kind with
    | attributes => cases h
    | declared | model => rfl
  rw [hfields, Outcome.map_eq_ok]
  exact exists_congr fun es => and_congr unfoldRecordFields_eq_ok eq_comm

/-! ## What is left as it is -/

lemma mapM_eq_ok_self {α ε : Type} {f : α → Except ε α} {xs : List α} :
    xs.mapM f = .ok xs ↔ ∀ x ∈ xs, f x = .ok x := by
  rw [Outcome.mapM_eq_ok, List.forall₂_same]

lemma unfoldRecords_set_eq_self_iff {frozen : Bool} {xs : List Value}
    (fit : ∀ x ∈ xs, x.keyError? = none) :
    (Value.set frozen xs).unfoldRecords = .ok (.set frozen xs) ↔
      ∀ x ∈ xs, x.unfoldRecords = .ok x := by
  rw [unfoldRecords_set_eq_ok]
  constructor
  · rintro ⟨ys, hys, -, heq⟩
    obtain ⟨-, rfl⟩ := Value.set.inj heq
    exact List.forall₂_same.mp hys
  · exact fun hxs => ⟨xs, List.forall₂_same.mpr hxs, fit, rfl⟩

lemma unfoldRecords_map_eq_self_iff {es : List (Value × Value)}
    (fit : ∀ e ∈ es, e.1.keyError? = none) :
    (Value.map false es).unfoldRecords = .ok (.map false es) ↔
      ∀ e ∈ es, e.1.unfoldRecords = .ok e.1 ∧ e.2.unfoldRecords = .ok e.2 := by
  have hentry : ∀ e ∈ es, (unfoldEntry e = .ok e ↔
      e.1.unfoldRecords = .ok e.1 ∧ e.2.unfoldRecords = .ok e.2) := by
    intro e he
    rw [unfoldEntry_eq_ok, and_iff_left (fit e he)]
  rw [unfoldRecords, Outcome.map_eq_ok, unfoldRecordEntries_eq, ← forall₂_congr hentry,
    ← mapM_eq_ok_self]
  constructor
  · rintro ⟨fs, hfs, heq⟩
    obtain ⟨-, rfl⟩ := Value.map.inj heq
    exact hfs
  · exact fun hes => ⟨es, hes, rfl⟩

/-- **Reading leaves a value as it is** exactly where no record shows in it. -/
theorem unfoldRecords_eq_self_iff {v : Value} (h : v.HasFitKeys) :
    v.unfoldRecords = .ok v ↔ ¬ v.ShowsRecord := by
  induction h with
  | @intro v fit _ ih =>
    rw [showsRecord_iff]
    cases v with
    | list xs | tuple xs =>
      simp only [unfoldRecords, Outcome.map_eq_ok, unfoldRecordItems_eq]
      simpa [reached, mapM_eq_ok_self] using forall₂_congr ih
    | set frozen xs =>
      have fit : ∀ x ∈ xs, x.keyError? = none := fit
      rw [unfoldRecords_set_eq_self_iff fit]
      simpa [reached] using forall₂_congr ih
    | map readOnly es =>
      cases readOnly with
      | true => simp [unfoldRecords, reached]
      | false =>
        have fit : ∀ e ∈ es, e.1.keyError? = none := List.forall_mem_map.mp fit
        obtain ⟨hkeys, hvalues⟩ := List.forall_mem_append.mp ih
        rw [List.forall_mem_map] at hkeys hvalues
        rw [unfoldRecords_map_eq_self_iff fit,
          forall₂_congr fun e he => and_congr (hkeys e he) (hvalues e he), forall₂_and]
        simp only [reached, reduceCtorEq, false_and, exists_false, false_or, not_exists, not_and,
          List.forall_mem_append, List.forall_mem_map]
    | record kind fs =>
      cases hkind : kind.isUnfolded with
      | true =>
        refine iff_of_false (fun h => ?_) (not_not_intro (.inl ⟨kind, fs, rfl, hkind⟩))
        obtain ⟨es, -, heq⟩ := (unfoldRecords_record_eq_ok hkind).mp h
        cases heq
      | false =>
        obtain ⟨shown, rfl⟩ := RecordKind.exists_attributes hkind
        simp [unfoldRecords, reached, RecordKind.isUnfolded]
    | _ => simp [unfoldRecords, reached]

/-! ## What is refused -/

/-- A value that may be an element or key is one no longer when a record in it became a map. -/
lemma keyError?_unfolded {x y : Value} (hfit : x.HasFitKeys) (hkey : x.keyError? = none)
    (h : x.unfoldRecords = .ok y) : y.keyError? = none ↔ ¬ x.ShowsRecord := by
  induction hfit generalizing y with
  | @intro x fit _ ih =>
    rw [showsRecord_iff]
    cases x with
    | tuple xs =>
      obtain ⟨ys, hys, rfl⟩ := Outcome.map_eq_ok.mp h
      have hfits := (keyErrorAmong?_eq_none xs).mp hkey
      have hitems := Outcome.forall_iff_of_forall₂ (unfoldRecordItems_eq_ok.mp hys)
        fun x hx y hy => ih x hx (hfits x hx) hy
      rw [keyError?, keyErrorAmong?_eq_none, hitems]
      simp [reached]
    | set frozen xs =>
      obtain ⟨ys, hys, hfits, rfl⟩ := unfoldRecords_set_eq_ok.mp h
      have hitems := (Outcome.forall_iff_of_forall₂ hys fun x hx y hy => ih x hx (fit x hx) hy).mp
        hfits
      cases frozen with
      | true => exact iff_of_true rfl (by simpa [reached] using hitems)
      | false => cases hkey
    | record kind fs =>
      cases hkind : kind.isUnfolded with
      | true =>
        obtain ⟨es, -, rfl⟩ := (unfoldRecords_record_eq_ok hkind).mp h
        exact iff_of_false (Option.some_ne_none _) (not_not_intro (.inl ⟨kind, fs, rfl, hkind⟩))
      | false =>
        obtain ⟨shown, rfl⟩ := RecordKind.exists_attributes hkind
        obtain rfl := Except.ok.inj h
        exact iff_of_true rfl (by simp [reached, RecordKind.isUnfolded])
    | list | map => cases hkey
    | _ =>
      obtain rfl := Except.ok.inj h
      exact iff_of_true hkey (by simp [reached])

/-- So it is read, and may still be an element or key, where no record shows in it. -/
lemma exists_fit_unfolded_iff {x : Value} (hfit : x.HasFitKeys) (hkey : x.keyError? = none) :
    (∃ y, x.unfoldRecords = .ok y ∧ y.keyError? = none) ↔
      ¬ x.ShowsRecord ∧ ∃ y, x.unfoldRecords = .ok y := by
  constructor
  · rintro ⟨y, hy, hfits⟩
    exact ⟨(keyError?_unfolded hfit hkey hy).mp hfits, y, hy⟩
  · rintro ⟨hshows, y, hy⟩
    exact ⟨y, hy, (keyError?_unfolded hfit hkey hy).mpr hshows⟩

lemma exists_unfoldRecordItems_iff {xs : List Value} :
    (∃ ys, unfoldRecordItems xs = .ok ys) ↔ ∀ x ∈ xs, ∃ y, x.unfoldRecords = .ok y := by
  simp only [unfoldRecordItems_eq_ok, Outcome.exists_forall₂_iff]

lemma exists_unfoldRecords_set_iff {frozen : Bool} {xs : List Value} :
    (∃ w, (Value.set frozen xs).unfoldRecords = .ok w) ↔
      ∀ x ∈ xs, ∃ y, x.unfoldRecords = .ok y ∧ y.keyError? = none := by
  rw [← Outcome.exists_forall₂_iff]
  simp only [unfoldRecords_set_eq_ok]
  constructor
  · rintro ⟨_, ys, hys, hfits, -⟩
    have hboth := ((List.forall₂_and_left ys xs).mpr ⟨hfits, hys.flip⟩).flip
    exact ⟨ys, hboth.imp fun _ _ => And.symm⟩
  · rintro ⟨ys, hys⟩
    exact ⟨_, ys, hys.imp fun _ _ => And.left,
      Outcome.forall_of_forall₂ hys fun _ _ _ => And.right, rfl⟩

lemma exists_unfoldRecords_map_iff {es : List (Value × Value)} :
    (∃ w, (Value.map false es).unfoldRecords = .ok w) ↔
      ∀ e ∈ es, (∃ k, e.1.unfoldRecords = .ok k ∧ k.keyError? = none) ∧
        ∃ v, e.2.unfoldRecords = .ok v := by
  have hentry : ∀ e : Value × Value, (∃ f, unfoldEntry e = .ok f) ↔
      (∃ k, e.1.unfoldRecords = .ok k ∧ k.keyError? = none) ∧ ∃ v, e.2.unfoldRecords = .ok v := by
    intro e
    simp only [unfoldEntry_eq_ok, Prod.exists]
    exact ⟨fun ⟨k, v, hk, hv, hfit⟩ => ⟨⟨k, hk, hfit⟩, v, hv⟩,
      fun ⟨⟨k, hk, hfit⟩, v, hv⟩ => ⟨k, v, hk, hv, hfit⟩⟩
  simp only [← hentry, ← Outcome.exists_forall₂_iff, ← Outcome.mapM_eq_ok, ← unfoldRecordEntries_eq,
    unfoldRecords, Outcome.map_eq_ok]
  exact ⟨fun ⟨_, fs, hfs, _⟩ => ⟨fs, hfs⟩, fun ⟨fs, hfs⟩ => ⟨_, fs, hfs, rfl⟩⟩

lemma exists_unfoldRecords_record_iff {kind : RecordKind} (h : kind.isUnfolded = true)
    {fs : List (String × Value)} :
    (∃ w, (Value.record kind fs).unfoldRecords = .ok w) ↔
      ∀ f ∈ fs, ∃ v, f.2.unfoldRecords = .ok v := by
  simp only [unfoldRecords_record_eq_ok h]
  refine Iff.trans ?_ (exists_entries_iff (p := fun v w => v.unfoldRecords = .ok w))
  exact ⟨fun ⟨_, es, hes, _⟩ => ⟨es, hes⟩, fun ⟨es, hes⟩ => ⟨_, es, hes, rfl⟩⟩

/-- **Reading refuses a value** exactly where a record shows in an element or a key. -/
theorem exists_unfoldRecords_iff {v : Value} (h : v.HasFitKeys) :
    (∃ w, v.unfoldRecords = .ok w) ↔ ¬ v.ShowsRecordAsKey := by
  induction h with
  | @intro v fit inside ih =>
    rw [showsRecordAsKey_iff]
    have hkeys : ∀ w ∈ v.reachedKeys, w ∈ v.reached →
        ((∃ y, w.unfoldRecords = .ok y ∧ y.keyError? = none) ↔
          ¬ w.ShowsRecord ∧ ¬ w.ShowsRecordAsKey) := by
      intro w hw hreached
      rw [exists_fit_unfolded_iff (inside w hreached) (fit w hw), ih w hreached]
    cases v with
    | list xs | tuple xs =>
      have hitems := exists_unfoldRecordItems_iff.trans (forall₂_congr ih)
      simp only [unfoldRecords, Outcome.map_eq_ok]
      simpa [reached, reachedKeys] using hitems
    | set frozen xs =>
      have hitems : ∀ x ∈ xs, _ := fun x hx => hkeys x hx hx
      rw [exists_unfoldRecords_set_iff, forall₂_congr hitems, forall₂_and]
      simp [reached, reachedKeys]
    | map readOnly es =>
      cases readOnly with
      | true => simp [unfoldRecords, reached, reachedKeys]
      | false =>
        have hentry : ∀ e ∈ es, _ := fun e he =>
          have hkey : e.1 ∈ es.map (·.1) := List.mem_map_of_mem he
          have hvalue : e.2 ∈ es.map (·.2) := List.mem_map_of_mem he
          and_congr (hkeys e.1 hkey (List.mem_append_left _ hkey))
            (ih e.2 (List.mem_append_right _ hvalue))
        rw [exists_unfoldRecords_map_iff, forall₂_congr hentry, forall₂_and, forall₂_and]
        simp only [reached, reachedKeys, not_or, not_exists, not_and, List.forall_mem_append,
          List.forall_mem_map, and_assoc]
    | record kind fs =>
      cases hkind : kind.isUnfolded with
      | true =>
        have hreached := reached_record hkind fs
        rw [hreached, List.forall_mem_map] at ih
        rw [exists_unfoldRecords_record_iff hkind, forall₂_congr ih, hreached]
        simpa using forall_comm
      | false =>
        obtain ⟨shown, rfl⟩ := RecordKind.exists_attributes hkind
        simp [unfoldRecords, reached]
    | _ => simp [unfoldRecords, reached, reachedKeys]

end Value

end QueryTemplate
