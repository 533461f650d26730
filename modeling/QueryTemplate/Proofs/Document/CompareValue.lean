import QueryTemplate.Document.CompareValue
import QueryTemplate.Proofs.Calendar.Times
import QueryTemplate.Proofs.Json.Reading
import QueryTemplate.Proofs.Value.Restored
import QueryTemplate.Proofs.Value.WellFormed

/-!
# What a document keeps of a compare value

A compare value that can be written comes back as it was, up to the order of sets and the kind of
maps, unless it holds one of three things (`Kept`): a double-precision number that is infinite or
none, which is written as null; an offset of less than a second; and a map that looks like a tagged
object, which is read as what its tag says.  `decode_encode` shows that nothing else is lost.
-/

namespace QueryTemplate

/-! ## What written JSON is given as -/

/-- The value that a document gives where JSON was written. -/
def Json.given (j : Json) : Value :=
  Value.ofJson j.degraded

namespace Json

@[simp] lemma given_null : given .null = .null := rfl

@[simp] lemma given_bool (b : Bool) : given (.bool b) = .bool b := rfl

@[simp] lemma given_int (i : ℤ) : given (.int i) = .number (.int i) := rfl

@[simp] lemma given_finite (negative : Bool) (m : ℕ) (e : ℤ) (h : Binary64.Canonical m e) :
    given (.float (.finite negative m e h)) = .number (.float (.finite negative m e h)) := rfl

@[simp] lemma given_infinite (negative : Bool) : given (.float (.infinite negative)) = .null := rfl

@[simp] lemma given_nan (object : Option ℕ) : given (.float (.nan object)) = .null := rfl

@[simp] lemma given_text (s : String) : given (.text s) = .text s := rfl

@[simp] lemma given_list (js : List Json) : given (.list js) = .list (js.map given) := by
  have hitems : ∀ js, Value.ofJsonItems js = js.map Value.ofJson := by
    intro js
    induction js with
    | nil => rfl
    | cons j js ih => rw [Value.ofJsonItems, ih, List.map_cons]
  rw [given, degraded, degradedItems_eq, Value.ofJson, hitems, List.map_map]
  rfl

@[simp] lemma given_object (fs : List (String × Json)) :
    given (.object fs) = .map false (fs.map fun f => (.text f.1, f.2.given)) := by
  have hfields : ∀ fs, Value.ofJsonFields fs = fs.map fun f => (.text f.1, Value.ofJson f.2) := by
    intro fs
    induction fs with
    | nil => rfl
    | cons f fs ih => rw [Value.ofJsonFields, ih, List.map_cons]
  rw [given, degraded, degradedFields_eq, Value.ofJson, hfields, List.map_map]
  rfl

end Json

namespace Value

/-! ## What a document keeps -/

/-- A map that looks like a tagged object: its fields are a kind, which is a text, and a value. -/
def IsTagged (es : List (Value × Value)) : Prop :=
  ∃ kind raw, es = [(.text "$kind", .text kind), (.text "value", raw)] ∨
    es = [(.text "value", raw), (.text "$kind", .text kind)]

/-- A document keeps the value, if it keeps those inside it. -/
def Kept : Value → Prop
  | .number (.float x) => ∃ negative m e h, x = .finite negative m e h
  | .time t => t.IsCoarse
  | .moment m => m.time.IsCoarse
  | .map _ es => ¬ IsTagged es
  | _ => True

/-- A document keeps the value and every value inside it. -/
def Lossless (v : Value) : Prop :=
  v.Everywhere Kept

/-- The outcome of reading a compare value where JSON was written. -/
def back (j : Json) : Except DecodeError Value :=
  j.given.decode

/-! ## Items -/

lemma encodeEach_eq : ∀ xs, encodeEach xs = xs.map encode
  | [] => rfl
  | x :: xs => congrArg (encode x :: ·) (encodeEach_eq xs)

lemma decodeEach_eq : ∀ xs, decodeEach xs = xs.map decode
  | [] => rfl
  | x :: xs => congrArg (decode x :: ·) (decodeEach_eq xs)

lemma items_eq_ok {xs : List Value} {f : List Json → Json} {j : Json} :
    ((encodeEach xs).mapM id).map f = .ok j ↔
      ∃ js, xs.Forall₂ (fun x j => x.encode = .ok j) js ∧ j = f js := by
  rw [encodeEach_eq, List.mapM_map, Outcome.map_eq_ok]
  refine exists_congr fun js => ?_
  rw [Outcome.mapM_eq_ok, eq_comm (a := f js)]
  rfl

/-- A list is written when its items are. -/
lemma encode_list_eq_ok {xs : List Value} {j : Json} :
    encode (.list xs) = .ok j ↔
      ∃ js, xs.Forall₂ (fun x j => x.encode = .ok j) js ∧ j = .list js := by
  rw [encode, items_eq_ok]

lemma encode_tuple_eq_ok {xs : List Value} {j : Json} :
    encode (.tuple xs) = .ok j ↔
      ∃ js, xs.Forall₂ (fun x j => x.encode = .ok j) js ∧ j = tagged "tuple" (.list js) := by
  rw [encode, items_eq_ok]

/-- A set is written when its elements have forms to be sorted by and are written. -/
lemma encode_set_eq_ok {frozen : Bool} {xs : List Value} {j : Json} :
    encode (.set frozen xs) = .ok j ↔ formErrorAmong? xs = none ∧
      ∃ js, (inOrder xs).Forall₂ (fun x j => x.encode = .ok j) js ∧
        j = tagged "set" (.list js) := by
  rw [encode]
  cases formErrorAmong? xs with
  | some e => simp
  | none =>
    dsimp only
    rw [encodeEach_eq, inFormOrder_map, ← inOrder, ← encodeEach_eq, items_eq_ok, and_iff_right rfl]

lemma encodeEntries_eq_ok {es : List (Value × Value)} {fs : List (String × Json)} :
    encodeEntries es = .ok fs ↔
      es.Forall₂ (fun e f => e.1.display = f.1 ∧ e.2.encode = .ok f.2) fs := by
  induction es generalizing fs with
  | nil => simp [encodeEntries, eq_comm]
  | cons e es ih =>
    obtain ⟨k, v⟩ := e
    rw [encodeEntries, Outcome.bind_eq_ok, List.forall₂_cons_left_iff]
    constructor
    · rintro ⟨j, hj, h⟩
      obtain ⟨gs, hgs, h⟩ := Outcome.bind_eq_ok.mp h
      exact ⟨(k.display, j), gs, ⟨rfl, hj⟩, ih.mp hgs, (Except.ok.inj h).symm⟩
    · rintro ⟨⟨name, j⟩, gs, ⟨rfl, hj⟩, hgs, rfl⟩
      exact ⟨j, hj, Outcome.bind_eq_ok.mpr ⟨gs, ih.mpr hgs, rfl⟩⟩

lemma shape_eq_string {v : Value} : v.shape = .string ↔ ∃ s, v = .text s := by
  cases v <;> simp [shape]

/-- A map is written when its keys are texts and its values are written. -/
lemma encode_map_eq_ok {readOnly : Bool} {es : List (Value × Value)} {j : Json} :
    encode (.map readOnly es) = .ok j ↔
      ∃ fs, es.Forall₂ (fun e f => e.1 = .text f.1 ∧ e.2.encode = .ok f.2) fs ∧ j = .object fs := by
  have hentry : ∀ (e : Value × Value) (f : String × Json),
      e.1 = .text f.1 ∧ e.2.encode = .ok f.2 ↔
        e.1.shape = .string ∧ e.1.display = f.1 ∧ e.2.encode = .ok f.2 := by
    intro e f
    rw [shape_eq_string]
    constructor
    · rintro ⟨hk, hj⟩
      exact ⟨⟨f.1, hk⟩, by rw [hk]; rfl, hj⟩
    · rintro ⟨⟨s, hk⟩, hs, hj⟩
      rw [hk] at hs ⊢
      exact ⟨congrArg Value.text hs, hj⟩
  have hfields : ∀ fs, es.Forall₂ (fun e f => e.1 = .text f.1 ∧ e.2.encode = .ok f.2) fs ↔
      (∀ e ∈ es, e.1.shape = .string) ∧ encodeEntries es = .ok fs := by
    intro fs
    simp only [hentry]
    rw [List.forall₂_and_left, encodeEntries_eq_ok]
  simp only [encode, List.all_eq_true, beq_iff_eq, hfields]
  split_ifs with hkeys
  · rw [Outcome.map_eq_ok]
    exact exists_congr fun fs => ⟨fun h => ⟨⟨hkeys, h.1⟩, h.2.symm⟩, fun h => ⟨h.1.2, h.2.symm⟩⟩
  · simp only [false_iff]
    rintro ⟨fs, h, -⟩
    exact hkeys h.1

/-! ## What comes back of items -/

section Items

variable {xs : List Value}

lemma back_list (js : List Json) : back (.list js) = ((js.map back).mapM id).map .list := by
  rw [back, Json.given_list, decode, decodeEach_eq, List.map_map]
  rfl

lemma back_tagged (kind : String) (j : Json) :
    back (tagged kind j) = ofKind kind j.given (decodeItems j.given) := by
  rw [back, tagged, Json.given_object]
  rfl

lemma decodeItems_list (js : List Json) :
    decodeItems (Json.list js).given = .ok (js.map back) := by
  rw [Json.given_list, decodeItems, decodeEach_eq, List.map_map]
  rfl

/-- One step of reading a set. -/
def addItem (elements : List Value) (item : Except DecodeError Value) :
    Except DecodeError (List Value) := do
  (addElement elements (← item)).mapError .key

lemma addItem_eq_ok {acc acc' : List Value} {o : Except DecodeError Value} :
    addItem acc o = .ok acc' ↔ ∃ x, o = .ok x ∧ x.keyError? = none ∧
      acc' = if acc.any (·.isSameKey x) then acc else acc ++ [x] := by
  rw [addItem, Outcome.bind_eq_ok]
  refine exists_congr fun x => and_congr_right fun _ => ?_
  rw [addElement]
  cases x.keyError? with
  | some e => simp [Except.mapError]
  | none =>
    simp only [Except.mapError, true_and]
    rw [Except.ok.injEq, eq_comm]

/-- A set that is read grows by at most one element for each item, behind those it has. -/
lemma foldlM_addItem_grows {os : List (Except DecodeError Value)} {acc elements : List Value}
    (h : os.foldlM addItem acc = .ok elements) :
    ∃ xs, elements = acc ++ xs ∧ xs.length ≤ os.length := by
  induction os generalizing acc with
  | nil =>
    obtain rfl : acc = elements := Except.ok.inj h
    exact ⟨[], (List.append_nil acc).symm, le_rfl⟩
  | cons o os ih =>
    rw [List.foldlM_cons, Outcome.bind_eq_ok] at h
    obtain ⟨acc', hacc, h⟩ := h
    obtain ⟨x, -, -, rfl⟩ := addItem_eq_ok.mp hacc
    obtain ⟨xs, rfl, hlength⟩ := ih h
    split_ifs
    · exact ⟨xs, rfl, le_trans hlength (Nat.le_succ _)⟩
    · exact ⟨x :: xs, by simp, Nat.succ_le_succ hlength⟩

/-- As many items as there are elements are these elements, since each of them has to be new. -/
lemma foldlM_addItem_eq_ok {os : List (Except DecodeError Value)} {acc : List Value}
    (hlength : os.length = xs.length) (hkey : ∀ x ∈ xs, x.keyError? = none)
    (hnew : ∀ a ∈ acc, ∀ x ∈ xs, a.isSameKey x = false)
    (hapart : xs.Pairwise fun x y => x.isSameKey y = false) :
    os.foldlM addItem acc = .ok (acc ++ xs) ↔ os = xs.map .ok := by
  induction xs generalizing os acc with
  | nil =>
    obtain rfl := List.eq_nil_of_length_eq_zero hlength
    simp [pure, Except.pure]
  | cons x xs ih =>
    obtain _ | ⟨o, os⟩ := os
    · simp at hlength
    have hlength' : os.length = xs.length := Nat.succ_inj.mp hlength
    obtain ⟨hx, hkeys⟩ := List.forall_mem_cons.mp hkey
    obtain ⟨hxs, hapart⟩ := List.pairwise_cons.mp hapart
    have hany : acc.any (·.isSameKey x) = false := by
      rw [List.any_eq_false]
      intro a ha
      rw [hnew a ha x List.mem_cons_self]
      exact Bool.false_ne_true
    have hnew' : ∀ a ∈ acc ++ [x], ∀ y ∈ xs, a.isSameKey y = false := by
      intro a ha y hy
      rcases List.mem_append.mp ha with ha | ha
      · exact hnew a ha y (List.mem_cons_of_mem x hy)
      · rw [List.mem_singleton.mp ha]
        exact hxs y hy
    have hrest := ih hlength' hkeys hnew' hapart
    rw [List.append_assoc, List.singleton_append] at hrest
    rw [List.foldlM_cons, Outcome.bind_eq_ok, List.map_cons, List.cons_eq_cons, ← hrest]
    constructor
    · rintro ⟨acc', hacc, h⟩
      obtain ⟨y, rfl, -, rfl⟩ := addItem_eq_ok.mp hacc
      obtain ⟨ys, hys, hle⟩ := foldlM_addItem_grows h
      split_ifs at hys h with hdup
      · -- An item that is no new element leaves too few for the others.
        rw [List.append_cancel_left_eq] at hys
        rw [← hys, List.length_cons, hlength'] at hle
        omega
      · rw [List.append_assoc, List.append_cancel_left_eq] at hys
        obtain rfl := (List.cons.inj hys).1
        exact ⟨rfl, h⟩
    · rintro ⟨rfl, h⟩
      refine ⟨acc ++ [x], addItem_eq_ok.mpr ⟨x, rfl, hx, ?_⟩, h⟩
      rw [hany, if_neg Bool.false_ne_true]

end Items

/-! ## What comes back of tagged values -/

lemma back_decimal {d : Decimal} (h : d.InRange) :
    back (tagged "decimal" (.text d.text)) = .ok (.number (.decimal d.fresh)) := by
  rw [back_tagged]
  simp only [ofKind, Json.given_text, toDecimal, Decimal.read_text h]
  rfl

lemma back_date (d : Date) : back (tagged "date" (.text d.text)) = .ok (.date d) := by
  rw [back_tagged]
  simp only [ofKind, Json.given_text, readCalendar, d.read_text]

lemma back_time (t : Time) : back (tagged "time" (.text t.text)) = .ok (.time t.kept) := by
  rw [back_tagged]
  simp only [ofKind, Json.given_text, readCalendar, t.read_text]

lemma back_moment (m : Moment) :
    back (tagged "datetime" (.text m.text)) = .ok (.moment m.kept) := by
  rw [back_tagged]
  simp only [ofKind, Json.given_text, readCalendar, m.read_text]

lemma back_tuple (js : List Json) :
    back (tagged "tuple" (.list js)) = ((js.map back).mapM id).map .tuple := by
  rw [back_tagged, decodeItems_list]
  simp only [ofKind, Outcome.ok_bind]
  cases (js.map back).mapM id <;> rfl

lemma back_set (js : List Json) :
    back (tagged "set" (.list js)) = ((js.map back).foldlM addItem []).map (.set true) := by
  rw [back_tagged, decodeItems_list]
  change ((js.map back).foldlM addItem [] >>= fun xs => Except.ok (Value.set true xs)) = _
  cases (js.map back).foldlM addItem [] <;> rfl

/-! ## What comes back of maps -/

/-- The entries that an object denotes. -/
def backEntries (fs : List (String × Json)) : List (Value × Value) :=
  fs.map fun f => (.text f.1, f.2.given)

lemma back_object (fs : List (String × Json)) :
    back (.object fs) = decode (.map false (backEntries fs)) := by
  rw [back, Json.given_object, backEntries]

lemma decodeEntries_eq_ok {es es' : List (Value × Value)} :
    decodeEntries es = .ok es' ↔
      es.Forall₂ (fun e e' => e.1 = e'.1 ∧ e.2.decode = .ok e'.2) es' := by
  induction es generalizing es' with
  | nil => simp [decodeEntries, eq_comm]
  | cons e es ih =>
    obtain ⟨k, v⟩ := e
    rw [decodeEntries, Outcome.bind_eq_ok, List.forall₂_cons_left_iff]
    constructor
    · rintro ⟨w, hw, h⟩
      obtain ⟨ds, hds, h⟩ := Outcome.bind_eq_ok.mp h
      exact ⟨(k, w), ds, ⟨rfl, hw⟩, ih.mp hds, (Except.ok.inj h).symm⟩
    · rintro ⟨⟨l, w⟩, ds, ⟨rfl, hw⟩, hds, rfl⟩
      exact ⟨w, hw, Outcome.bind_eq_ok.mpr ⟨ds, ih.mpr hds, rfl⟩⟩

/-- A map that does not look tagged is read entry by entry, unless it cannot be written: then it is
left alone. -/
lemma decode_untagged {readOnly : Bool} {es : List (Value × Value)} (h : ¬ IsTagged es) :
    decode (.map readOnly es) =
      if readOnly then .ok (.map true es) else (decodeEntries es).map (.map false) := by
  match es with
  | [] => cases readOnly <;> rfl
  | [(k, v)] => cases readOnly <;> rfl
  | [(k, v), (l, w)] =>
    rw [decode]
    · simp only [decodeEntries]
      cases v.decode <;> cases w.decode <;> rfl
    · rintro kind rfl rfl rfl
      exact h ⟨kind, w, .inl rfl⟩
    · rintro kind rfl rfl rfl
      exact h ⟨kind, v, .inr rfl⟩
  | e :: f :: g :: es => cases readOnly <;> rfl

lemma decode_map {es : List (Value × Value)} (h : ¬ IsTagged es) :
    decode (.map false es) = (decodeEntries es).map (.map false) :=
  decode_untagged h

lemma decode_readOnly {es : List (Value × Value)} (h : ¬ IsTagged es) :
    decode (.map true es) = .ok (.map true es) :=
  decode_untagged h

/-- What a tag can say: a decimal number, a date or time, a tuple or a set. -/
def IsTagContent : Value → Prop
  | .number (.decimal _) | .date _ | .time _ | .moment _ | .tuple _ | .set _ _ => True
  | _ => False

lemma readCalendar_eq_ok {α : Type} {read : String → Except CalendarError α} {make : α → Value}
    {raw v : Value} (h : readCalendar read make raw = .ok v) : ∃ a, v = make a := by
  unfold readCalendar at h
  split at h
  · split at h
    · exact ⟨_, (Except.ok.inj h).symm⟩
    · cases h
  · cases h

lemma isTagContent_of_ofKind {kind : String} {raw v : Value}
    {items : Except DecodeError (List (Except DecodeError Value))}
    (h : ofKind kind raw items = .ok v) : v.IsTagContent := by
  unfold ofKind at h
  split at h
  · obtain ⟨d, -, rfl⟩ := Outcome.map_eq_ok.mp h
    trivial
  · obtain ⟨m, rfl⟩ := readCalendar_eq_ok h
    trivial
  · obtain ⟨d, rfl⟩ := readCalendar_eq_ok h
    trivial
  · obtain ⟨t, rfl⟩ := readCalendar_eq_ok h
    trivial
  · obtain ⟨os, -, h⟩ := Outcome.bind_eq_ok.mp h
    obtain ⟨xs, -, h⟩ := Outcome.bind_eq_ok.mp h
    cases h
    trivial
  · obtain ⟨os, -, h⟩ := Outcome.bind_eq_ok.mp h
    obtain ⟨xs, -, h⟩ := Outcome.bind_eq_ok.mp h
    cases h
    trivial
  · cases h

lemma isTagContent_of_decode {es : List (Value × Value)} (h : IsTagged es) {readOnly : Bool}
    {v : Value} (hv : decode (.map readOnly es) = .ok v) : v.IsTagContent := by
  obtain ⟨kind, raw, rfl | rfl⟩ := h
  · exact isTagContent_of_ofKind hv
  · exact isTagContent_of_ofKind hv

/-- What a tag says is never a map. -/
lemma decode_tagged {es : List (Value × Value)} (h : IsTagged es) {readOnly : Bool}
    {es' : List (Value × Value)} : decode (.map false es) ≠ .ok (.map readOnly es') :=
  isTagContent_of_decode h

section Entries

variable {es : List (Value × Value)} {fs : List (String × Json)}

/-- The entries of a written map come back together exactly when their values do. -/
lemma decodeEntries_back (h : es.Forall₂ (fun e f => e.1 = .text f.1 ∧ e.2.encode = .ok f.2) fs)
    (hes : ∀ e ∈ es, ∀ j, e.2.encode = .ok j → (back j = .ok e.2.restored ↔ e.2.Lossless)) :
    decodeEntries (backEntries fs) = .ok (es.map fun e => (e.1, e.2.restored)) ↔
      ∀ e ∈ es, e.2.Lossless := by
  rw [decodeEntries_eq_ok, backEntries, List.forall₂_map_left_iff, List.forall₂_map_right_iff]
  induction h with
  | nil => simp
  | cons hef _ ih =>
    obtain ⟨he, hes⟩ := List.forall_mem_cons.mp hes
    obtain ⟨hk, hj⟩ := hef
    rw [List.forall₂_cons, List.forall_mem_cons, ih hes, ← he _ hj]
    exact and_congr_left fun _ => ⟨fun h => h.2, fun h => ⟨hk.symm, h⟩⟩

/-- Only a text is written so that a text comes back. -/
lemma given_eq_text {v : Value} {j : Json} {s : String} (h : v.encode = .ok j) :
    j.given = .text s ↔ v = .text s := by
  cases v with
  | text t =>
    obtain rfl : Json.text t = j := Except.ok.inj h
    rfl
  | null | bool b =>
    obtain rfl := Except.ok.inj h
    simp
  | number n =>
    cases n with
    | fraction q => cases h
    | float x =>
      obtain rfl : Json.float x = j := Except.ok.inj h
      cases x <;> simp
    | _ =>
      obtain rfl := Except.ok.inj h
      simp [tagged]
  | list xs =>
    obtain ⟨js, -, rfl⟩ := encode_list_eq_ok.mp h
    simp
  | tuple xs =>
    obtain ⟨js, -, rfl⟩ := encode_tuple_eq_ok.mp h
    simp [tagged]
  | set frozen xs =>
    obtain ⟨-, js, -, rfl⟩ := encode_set_eq_ok.mp h
    simp [tagged]
  | map readOnly es =>
    obtain ⟨fs, -, rfl⟩ := encode_map_eq_ok.mp h
    simp
  | date d | time t | moment m =>
    obtain rfl := Except.ok.inj h
    simp [tagged]
  | range | bytes | record => cases h

/-- A written map looks tagged exactly when the map does. -/
lemma isTagged_backEntries
    (h : es.Forall₂ (fun e f => e.1 = .text f.1 ∧ e.2.encode = .ok f.2) fs) :
    IsTagged (backEntries fs) ↔ IsTagged es := by
  match es, fs, h with
  | [], [], _ | [_], [_], _ | _ :: _ :: _ :: _, _ :: _ :: _ :: _, _ => simp [IsTagged, backEntries]
  | [(k, v), (l, w)], [f, g], .cons ⟨hk, hv⟩ (.cons ⟨hl, hw⟩ .nil) =>
    obtain rfl : k = .text f.1 := hk
    obtain rfl : l = .text g.1 := hl
    simp [IsTagged, backEntries, given_eq_text hv, given_eq_text hw, exists_or]

end Entries

/-! ## Scalars -/

lemma lossless_iff_kept {v : Value} (h : v.parts = []) : v.Lossless ↔ v.Kept :=
  everywhere_single h

lemma lossless_iff_parts {v : Value} (h : v.Kept) : v.Lossless ↔ ∀ w ∈ v.parts, w.Lossless := by
  rw [Lossless, everywhere_iff, and_iff_right h]
  rfl

/-- What comes back of a number. -/
lemma back_number {n : Number} {j : Json} (hn : Proper (.number n))
    (h : encode (.number n) = .ok j) : back j = .ok (.number n.fresh) ↔ Kept (.number n) := by
  cases n with
  | int i =>
    obtain rfl := Except.ok.inj h
    exact ⟨fun _ => trivial, fun _ => rfl⟩
  | float x =>
    obtain rfl : Json.float x = j := Except.ok.inj h
    cases x with
    | finite negative m e hc => exact ⟨fun _ => ⟨negative, m, e, hc, rfl⟩, fun _ => rfl⟩
    | _ => simp [back, decode, Kept]
  | fraction q => cases h
  | decimal d =>
    obtain rfl := Except.ok.inj h
    exact ⟨fun _ => trivial, fun _ => back_decimal hn⟩

/-- A set comes back when each of its elements does, since no two of them become one. -/
lemma back_set_eq_ok {frozen : Bool} {xs : List Value} (hproper : Proper (.set frozen xs))
    {js : List Json} (hlength : (inOrder xs).length = js.length) :
    back (tagged "set" (.list js)) = .ok (restored (.set frozen xs)) ↔
      js.map back = ((inOrder xs).map restored).map .ok := by
  obtain ⟨hkey, hapart⟩ := hproper
  have hkey' : ∀ x ∈ (inOrder xs).map restored, x.keyError? = none := by
    intro y hy
    obtain ⟨x, hx, rfl⟩ := List.mem_map.mp hy
    exact keyError?_restored (hkey x ((inOrder_perm xs).mem_iff.mp hx))
  have hapart' : ((inOrder xs).map restored).Pairwise fun x y => x.isSameKey y = false := by
    rw [List.pairwise_map]
    refine ((inOrder_perm xs).pairwise_iff fun h => ?_).mpr hapart |>.imp fun h => ?_
    · exact And.comm.mp h
    · exact Bool.eq_false_iff.mpr fun hkey => Bool.eq_false_iff.mp h.1 (isSameKey_of_restored hkey)
  have hset : (js.map back).foldlM addItem [] = .ok ([] ++ (inOrder xs).map restored) ↔
      js.map back = ((inOrder xs).map restored).map .ok :=
    foldlM_addItem_eq_ok (by simp [hlength]) hkey' (List.forall_mem_nil _) hapart'
  rw [List.nil_append] at hset
  rw [back_set, restored_set, Outcome.map_eq_ok_of_injective fun _ _ h => (set.inj h).2, hset]

/-! ## The value that comes back -/

/-- **What a document keeps.** A value that can be written comes back as it was, up to the order of
sets and the kind of maps, exactly when a document keeps every value inside it. -/
theorem back_encode {v : Value} (hv : v.WellFormed) {j : Json} (h : v.encode = .ok j) :
    back j = .ok v.restored ↔ v.Lossless := by
  induction hv generalizing j with
  | @intro v hproper _ ih =>
    cases v with
    | null | bool b | text s =>
      obtain rfl := Except.ok.inj h
      rw [lossless_iff_kept rfl]
      exact ⟨fun _ => trivial, fun _ => rfl⟩
    | number n =>
      rw [lossless_iff_kept rfl]
      exact back_number hproper h
    | date d =>
      obtain rfl := Except.ok.inj h
      rw [lossless_iff_kept rfl]
      exact ⟨fun _ => trivial, fun _ => back_date d⟩
    | time t =>
      obtain rfl := Except.ok.inj h
      rw [lossless_iff_kept rfl, back_time, restored_time, Except.ok.injEq, time.injEq,
        Time.kept_eq_self, Kept]
    | moment m =>
      obtain rfl := Except.ok.inj h
      rw [lossless_iff_kept rfl, back_moment, restored_moment, Except.ok.injEq, moment.injEq,
        Moment.kept_eq_self, Kept]
    | list xs =>
      obtain ⟨js, hjs, rfl⟩ := encode_list_eq_ok.mp h
      have hitems := Outcome.map_eq_map_iff hjs fun x hx j hj => ih x hx hj
      rw [back_list, restored_list, Outcome.map_eq_ok_of_injective fun _ _ => list.inj,
        Outcome.mapM_id_eq_ok, List.map_map, lossless_iff_parts (v := .list xs) trivial]
      exact hitems
    | tuple xs =>
      obtain ⟨js, hjs, rfl⟩ := encode_tuple_eq_ok.mp h
      have hitems := Outcome.map_eq_map_iff hjs fun x hx j hj => ih x hx hj
      rw [back_tuple, restored_tuple, Outcome.map_eq_ok_of_injective fun _ _ => tuple.inj,
        Outcome.mapM_id_eq_ok, List.map_map, lossless_iff_parts (v := .tuple xs) trivial]
      exact hitems
    | set frozen xs =>
      obtain ⟨-, js, hjs, rfl⟩ := encode_set_eq_ok.mp h
      have hmem : ∀ x, x ∈ inOrder xs ↔ x ∈ xs := fun x => (inOrder_perm xs).mem_iff
      have hitems := Outcome.map_eq_map_iff hjs fun x hx j hj => ih x ((hmem x).mp hx) hj
      rw [back_set_eq_ok hproper hjs.length_eq, List.map_map,
        lossless_iff_parts (v := .set frozen xs) trivial]
      exact hitems.trans (forall_congr' fun x => imp_congr_left (hmem x))
    | map readOnly es =>
      obtain ⟨fs, hfs, rfl⟩ := encode_map_eq_ok.mp h
      have hentries := decodeEntries_back hfs fun e he j hj =>
        ih e.2 (List.mem_map_of_mem he) hj
      have htagged := isTagged_backEntries hfs
      rw [back_object, restored_map]
      by_cases htag : IsTagged es
      · have hlossy : ¬ (Value.map readOnly es).Lossless := fun h => (everywhere_iff.mp h).1 htag
        exact iff_of_false (decode_tagged (htagged.mpr htag)) hlossy
      · rw [decode_map (mt htagged.mp htag),
          Outcome.map_eq_ok_of_injective fun _ _ h => (map.inj h).2, hentries,
          lossless_iff_parts (v := .map readOnly es) htag]
        exact List.forall_mem_map.symm
    | range | bytes | record => cases h

end Value

end QueryTemplate
