import QueryTemplate.Proofs.Document.CompareValue

/-!
# Malformed compare values

A compare value of a document cannot be read if it holds a tagged value that is malformed.  Which
error it is depends on the first such value only, in the order of the document, and on what is
wrong with it (`decode_ofJson_eq_error`).
-/

namespace QueryTemplate

namespace Value

lemma ofJsonItems_eq (js : List Json) : ofJsonItems js = js.map ofJson := by
  induction js with
  | nil => rfl
  | cons j js ih => rw [ofJsonItems, ih, List.map_cons]

lemma ofJsonFields_eq (fs : List (String × Json)) :
    ofJsonFields fs = fs.map fun f => (.text f.1, ofJson f.2) := by
  induction fs with
  | nil => rfl
  | cons f fs ih => rw [ofJsonFields, ih, List.map_cons]

end Value

namespace Json

/-! ## What can be wrong -/

/-- An object of two fields, a kind and a value of this kind, whichever comes first. -/
def IsTagOf (j : Json) (kind : String) (raw : Json) : Prop :=
  j = .object [("$kind", .text kind), ("value", raw)] ∨
    j = .object [("value", raw), ("$kind", .text kind)]

/-- The kinds of tagged values. -/
def kinds : List String :=
  ["decimal", "datetime", "date", "time", "tuple", "set"]

/-- The text is not one of the dates or times of its kind. -/
def IsUnreadable (kind s : String) (e : CalendarError) : Prop :=
  (kind = "datetime" ∧ Moment.read s = .error e) ∨ (kind = "date" ∧ Date.read s = .error e) ∨
    (kind = "time" ∧ Time.read s = .error e)

/-- The JSON is read as a value. -/
def Sound (j : Json) : Prop :=
  ∃ v, (Value.ofJson j).decode = .ok v

/-- The JSON is read as a value that can be the element of a set. -/
def SoundElement (j : Json) : Prop :=
  ∃ v, (Value.ofJson j).decode = .ok v ∧ v.keyError? = none

/-- The JSON is null, a truth value or a number, which has no items. -/
def HasNoItems (j : Json) : Prop :=
  (∀ s, j ≠ .text s) ∧ (∀ js, j ≠ .list js) ∧ ∀ fs, j ≠ .object fs

/-- What is wrong with the first malformed value that is tagged. -/
inductive Flawed : Json → DecodeError → Prop where
  /-- There is no such kind. -/
  | kind {j raw : Json} {kind : String} (tag : j.IsTagOf kind raw) (h : kind ∉ kinds) :
      Flawed j (.unknownKind kind)
  /-- The text is no decimal number. -/
  | decimal {j : Json} {s : String} {e : Decimal.ReadError} (tag : j.IsTagOf "decimal" (.text s))
      (h : Decimal.read s = .error e) : Flawed j (.decimal e)
  /-- The items are no sign, digits and exponent. -/
  | triple {j : Json} {js : List Json} {e : DecodeError} (tag : j.IsTagOf "decimal" (.list js))
      (h : Value.decimalOfTriple (js.map Value.ofJson) = .error e) : Flawed j e
  /-- A decimal number is given as null. -/
  | nullDecimal {j : Json} (tag : j.IsTagOf "decimal" .null) : Flawed j (.notNumeric "NoneType")
  /-- A decimal number is given as an object. -/
  | objectDecimal {j : Json} {fs : List (String × Json)} (tag : j.IsTagOf "decimal" (.object fs)) :
      Flawed j (.notNumeric "dict")
  /-- The text is no date or time. -/
  | calendar {j : Json} {kind s : String} {e : CalendarError} (tag : j.IsTagOf kind (.text s))
      (h : IsUnreadable kind s e) : Flawed j (.calendar s e)
  /-- A date or time is not given as a text. -/
  | notText {j raw : Json} {kind : String} (tag : j.IsTagOf kind raw)
      (hkind : kind ∈ ["datetime", "date", "time"]) (h : ∀ s, raw ≠ .text s) : Flawed j .notText
  /-- The items of a tuple or set are given as null, a truth value or a number. -/
  | notIterable {j raw : Json} {kind : String} (tag : j.IsTagOf kind raw)
      (hkind : kind ∈ ["tuple", "set"]) (h : raw.HasNoItems) :
      Flawed j (.notIterable (Value.ofJson raw).typeName)
  /-- An item of a tuple is flawed. -/
  | tupleItem {j i : Json} {before after : List Json} {e : DecodeError}
      (tag : j.IsTagOf "tuple" (.list (before ++ i :: after))) (sound : ∀ b ∈ before, b.Sound)
      (h : Flawed i e) : Flawed j e
  /-- An element of a set is flawed. -/
  | setItem {j i : Json} {before after : List Json} {e : DecodeError}
      (tag : j.IsTagOf "set" (.list (before ++ i :: after)))
      (sound : ∀ b ∈ before, b.SoundElement) (h : Flawed i e) : Flawed j e
  /-- What is read cannot be the element of a set. -/
  | element {j i : Json} {before after : List Json} {v : Value} {e : KeyError}
      (tag : j.IsTagOf "set" (.list (before ++ i :: after)))
      (sound : ∀ b ∈ before, b.SoundElement) (hread : (Value.ofJson i).decode = .ok v)
      (h : v.keyError? = some e) : Flawed j (.key e)
  /-- An item of a list is flawed. -/
  | item {j : Json} {before after : List Json} {e : DecodeError} (sound : ∀ b ∈ before, b.Sound)
      (h : Flawed j e) : Flawed (.list (before ++ j :: after)) e
  /-- A field of an object that is not tagged is flawed. -/
  | field {j : Json} {name : String} {before after : List (String × Json)} {e : DecodeError}
      (untagged : ∀ kind raw, ¬ IsTagOf (.object (before ++ (name, j) :: after)) kind raw)
      (sound : ∀ b ∈ before, b.2.Sound) (h : Flawed j e) :
      Flawed (.object (before ++ (name, j) :: after)) e

end Json

namespace Value

open Json

/-! ## Reading items and fields -/

section Items

variable {α : Type} {ε : Type} {e : ε}

/-- A list of outcomes ends with the error of the first that fails. -/
lemma mapM_id_eq_error {f : α → Except ε Value} {xs : List α} :
    (xs.map f).mapM id = .error e ↔ ∃ before x after, xs = before ++ x :: after ∧
      (∀ b ∈ before, ∃ v, f b = .ok v) ∧ f x = .error e := by
  refine Outcome.reaches_iff (w := fun xs => (xs.map f).mapM id = .error e) nofun ?_ xs
  intro x xs
  rw [List.map_cons, List.mapM_cons, id_eq]
  cases f x with
  | error e' => simp
  | ok v => cases (xs.map f).mapM id <;> simp [pure, Except.pure]

end Items

variable {e : DecodeError}

/-- The entries of a map end with the error of the first whose value fails. -/
lemma decodeEntries_eq_error {fs : List (String × Json)} :
    decodeEntries (ofJsonFields fs) = .error e ↔ ∃ before f after, fs = before ++ f :: after ∧
      (∀ b ∈ before, b.2.Sound) ∧ (ofJson f.2).decode = .error e := by
  refine Outcome.reaches_iff (w := fun fs => decodeEntries (ofJsonFields fs) = .error e)
    nofun ?_ fs
  intro f fs
  rw [ofJsonFields, decodeEntries, Json.Sound]
  cases (ofJson f.2).decode with
  | error e' => simp
  | ok v => cases decodeEntries (ofJsonFields fs) <;> simp

/-- An element that was read, unless it cannot be in a set. -/
def asElement (item : Except DecodeError Value) : Except DecodeError Value :=
  item.bind fun v => match v.keyError? with
    | some e => .error (.key e)
    | none => .ok v

/-- Which elements are there already does not matter to whether another can be added. -/
lemma foldlM_addItem_eq_error {os : List (Except DecodeError Value)} (acc : List Value) :
    os.foldlM addItem acc = .error e ↔ (os.map asElement).mapM id = .error e := by
  -- An element is refused for itself, whatever is there, so the induction is for every `acc`.
  induction os generalizing acc with
  | nil => exact iff_of_false nofun nofun
  | cons o os ih =>
    rw [List.foldlM_cons, List.map_cons, List.mapM_cons, id_eq]
    cases o with
    | error e' => rfl
    | ok v =>
      rw [addItem, Outcome.ok_bind, addElement, asElement]
      cases hk : v.keyError? with
      | some k => simp [Except.bind, hk, Except.mapError]
      | none =>
        simp only [Except.bind, hk, Except.mapError, Outcome.ok_bind, ih]
        cases (os.map asElement).mapM id <;> simp [pure, Except.pure]

lemma asElement_eq_ok {j : Json} :
    (∃ v, asElement (ofJson j).decode = .ok v) ↔ j.SoundElement := by
  rw [asElement, Json.SoundElement]
  cases (ofJson j).decode with
  | error e' => simp [Except.bind]
  | ok v => cases hk : v.keyError? <;> simp [Except.bind, hk]

lemma asElement_eq_error {o : Except DecodeError Value} :
    asElement o = .error e ↔
      o = .error e ∨ ∃ v k, o = .ok v ∧ v.keyError? = some k ∧ .key k = e := by
  rw [asElement]
  cases o with
  | error e' => simp [Except.bind]
  | ok v => cases hk : v.keyError? <;> simp [Except.bind, hk]

/-! ## Reading JSON -/

lemma decode_ofJson_list {js : List Json} :
    (ofJson (.list js)).decode = .error e ↔ ∃ before j after, js = before ++ j :: after ∧
      (∀ b ∈ before, b.Sound) ∧ (ofJson j).decode = .error e := by
  rw [ofJson, decode, decodeEach_eq, ofJsonItems_eq, List.map_map, Outcome.map_eq_error]
  exact mapM_id_eq_error

lemma ofJson_eq_text {j : Json} {s : String} : ofJson j = .text s ↔ j = .text s := by
  cases j <;> simp [ofJson, int]

/-- A map that looks tagged is denoted by a tagged object. -/
lemma isTagOf_of_isTagged {fs : List (String × Json)} (h : IsTagged (ofJsonFields fs)) :
    ∃ kind raw, IsTagOf (.object fs) kind raw := by
  obtain ⟨kind, raw, h⟩ := h
  rw [ofJsonFields_eq] at h
  match fs, h with
  | [(n, i), (m, j)], .inl h =>
    simp only [List.map_cons, List.map_nil, List.cons.injEq, Prod.mk.injEq, Value.text.injEq,
      ofJson_eq_text, and_true] at h
    obtain ⟨⟨rfl, rfl⟩, rfl, -⟩ := h
    exact ⟨kind, j, .inl rfl⟩
  | [(n, i), (m, j)], .inr h =>
    simp only [List.map_cons, List.map_nil, List.cons.injEq, Prod.mk.injEq, Value.text.injEq,
      ofJson_eq_text, and_true] at h
    obtain ⟨⟨rfl, -⟩, rfl, rfl⟩ := h
    exact ⟨kind, i, .inr rfl⟩
  | [], h | [_], h | _ :: _ :: _ :: _, h => simp at h

lemma decode_ofJson_tagged {j raw : Json} {kind : String} (h : j.IsTagOf kind raw) :
    (ofJson j).decode = ofKind kind (ofJson raw) (decodeItems (ofJson raw)) := by
  obtain rfl | rfl := h <;> rfl

lemma decode_ofJson_untagged {fs : List (String × Json)}
    (h : ∀ kind raw, ¬ IsTagOf (.object fs) kind raw) :
    (ofJson (.object fs)).decode = .error e ↔ ∃ before f after, fs = before ++ f :: after ∧
      (∀ b ∈ before, b.2.Sound) ∧ (ofJson f.2).decode = .error e := by
  have huntagged : ¬ IsTagged (ofJsonFields fs) := fun ht => by
    obtain ⟨kind, raw, ht⟩ := isTagOf_of_isTagged ht
    exact h kind raw ht
  rw [ofJson, decode_map huntagged, Outcome.map_eq_error]
  exact decodeEntries_eq_error

/-! ## What is wrong with a tagged value -/

section Tagged

variable {j raw : Json}

lemma toDecimal_ofJson_eq_error :
    (ofJson raw).toDecimal = .error e ↔
      (∃ s e', raw = .text s ∧ Decimal.read s = .error e' ∧ .decimal e' = e) ∨
        (∃ js, raw = .list js ∧ decimalOfTriple (js.map ofJson) = .error e) ∨
        (raw = .null ∧ .notNumeric "NoneType" = e) ∨
        ∃ fs, raw = .object fs ∧ .notNumeric "dict" = e := by
  cases raw with
  | text s => simp [ofJson, toDecimal, Outcome.mapError_eq_error]
  | list js => simp [ofJson, toDecimal, ofJsonItems_eq]
  | null | object fs => simp [ofJson, toDecimal, qualifiedTypeName, typeName]
  | _ => simp [ofJson, int, toDecimal]

lemma readCalendar_eq_error {α : Type} {read : String → Except CalendarError α} {make : α → Value} :
    readCalendar read make (ofJson raw) = .error e ↔
      (∃ s e', raw = .text s ∧ read s = .error e' ∧ .calendar s e' = e) ∨
        (∀ s, raw ≠ .text s) ∧ .notText = e := by
  cases raw with
  | text s =>
    rw [ofJson, readCalendar]
    cases hr : read s <;> simp [hr]
  | _ => simp [ofJson, int, readCalendar]

lemma decode_calendar_eq_error {kind : String} (hkind : kind ∈ ["datetime", "date", "time"])
    (tag : j.IsTagOf kind raw) :
    (ofJson j).decode = .error e ↔
      (∃ s e', raw = .text s ∧ IsUnreadable kind s e' ∧ .calendar s e' = e) ∨
        (∀ s, raw ≠ .text s) ∧ .notText = e := by
  rw [decode_ofJson_tagged tag]
  simp only [List.mem_cons, List.not_mem_nil, or_false] at hkind
  obtain rfl | rfl | rfl := hkind <;> simp [ofKind, readCalendar_eq_error, IsUnreadable]

lemma decode_unknown {kind : String} (hkind : kind ∉ kinds) (tag : j.IsTagOf kind raw) :
    (ofJson j).decode = .error (.unknownKind kind) := by
  simp only [kinds, List.mem_cons, List.not_mem_nil, or_false, not_or] at hkind
  obtain ⟨h₁, h₂, h₃, h₄, h₅, h₆⟩ := hkind
  rw [decode_ofJson_tagged tag]
  simp only [ofKind]

lemma ofKind_tuple (v : Value) (os : List (Except DecodeError Value)) :
    ofKind "tuple" v (.ok os) = (os.mapM id).map .tuple := by
  simp only [ofKind, Outcome.ok_bind]
  cases os.mapM id <;> rfl

lemma ofKind_set (v : Value) (os : List (Except DecodeError Value)) :
    ofKind "set" v (.ok os) = (os.foldlM addItem []).map (.set true) := by
  change (os.foldlM addItem [] >>= fun xs => Except.ok (Value.set true xs)) = _
  cases os.foldlM addItem [] <;> rfl

lemma ofKind_set_eq_error (v : Value) (os : List (Except DecodeError Value)) :
    ofKind "set" v (.ok os) = .error e ↔ (os.map asElement).mapM id = .error e := by
  rw [ofKind_set, Outcome.map_eq_error, foldlM_addItem_eq_error]

lemma decode_tuple_eq_error {js : List Json} (h : j.IsTagOf "tuple" (.list js)) :
    (ofJson j).decode = .error e ↔ ∃ before i after, js = before ++ i :: after ∧
      (∀ b ∈ before, b.Sound) ∧ (ofJson i).decode = .error e := by
  rw [decode_ofJson_tagged h, ofJson, decodeItems, decodeEach_eq, ofJsonItems_eq, List.map_map,
    ofKind_tuple, Outcome.map_eq_error]
  exact mapM_id_eq_error

lemma decode_set_eq_error {js : List Json} (h : j.IsTagOf "set" (.list js)) :
    (ofJson j).decode = .error e ↔ ∃ before i after, js = before ++ i :: after ∧
      (∀ b ∈ before, b.SoundElement) ∧ asElement (ofJson i).decode = .error e := by
  rw [decode_ofJson_tagged h, ofJson, decodeItems, decodeEach_eq, ofJsonItems_eq, List.map_map,
    ofKind_set_eq_error, List.map_map]
  refine Iff.trans mapM_id_eq_error ?_
  simp only [Function.comp_apply, asElement_eq_ok]

/-- What is given instead of a list of items has texts for items, or none at all. -/
lemma decodeItems_of_not_list (h : ∀ js, raw ≠ .list js) :
    (¬ raw.HasNoItems ∧
        ∃ ss : List String, decodeItems (ofJson raw) = .ok (ss.map fun s => .ok (.text s))) ∨
      raw.HasNoItems ∧ decodeItems (ofJson raw) = .error (.notIterable (ofJson raw).typeName) := by
  cases raw with
  | text s =>
    refine .inl ⟨fun hn => hn.1 s rfl, s.toList.map String.singleton, ?_⟩
    rw [ofJson, decodeItems, List.map_map]
    rfl
  | list js => exact absurd rfl (h js)
  | object fs =>
    refine .inl ⟨fun hn => hn.2.2 fs rfl, fs.map (·.1), ?_⟩
    rw [ofJson, decodeItems, ofJsonFields_eq, List.map_map, List.map_map]
    rfl
  | _ => exact .inr ⟨by simp [HasNoItems], rfl⟩

/-- Texts can be read, and can be the elements of a set. -/
lemma ofKind_texts_ne_error {kind : String} (hkind : kind ∈ ["tuple", "set"]) (v : Value)
    (ss : List String) : ofKind kind v (.ok (ss.map fun s => .ok (.text s))) ≠ .error e := by
  have hok : (ss.map fun s => (.ok (.text s) : Except DecodeError Value)).mapM id =
      .ok (ss.map Value.text) := by
    rw [Outcome.mapM_id_eq_ok, List.map_map]
    rfl
  obtain rfl | rfl : kind = "tuple" ∨ kind = "set" := by simpa using hkind
  · simp [ofKind_tuple, hok, Except.map]
  · have helements : (ss.map fun s => .ok (.text s)).map asElement =
        ss.map fun s => .ok (.text s) := List.map_map
    simp [ofKind_set_eq_error, helements, hok]

/-- So without a list of items a tuple or set can only lack items altogether. -/
lemma decode_eq_error_of_not_list {kind : String} (hkind : kind ∈ ["tuple", "set"])
    (tag : j.IsTagOf kind raw) (h : ∀ js, raw ≠ .list js) :
    (ofJson j).decode = .error e ↔ raw.HasNoItems ∧ .notIterable (ofJson raw).typeName = e := by
  rw [decode_ofJson_tagged tag]
  obtain ⟨hraw, ss, hss⟩ | ⟨hraw, herror⟩ := decodeItems_of_not_list h
  · rw [hss]
    exact iff_of_false (ofKind_texts_ne_error hkind _ ss) fun h => hraw h.1
  · rw [herror, and_iff_right hraw]
    obtain rfl | rfl : kind = "tuple" ∨ kind = "set" := by simpa using hkind
    · simp [ofKind]
    · simp [ofKind]

end Tagged

/-! ## The first flaw -/

lemma sizeOf_lt_of_isTagOf {j raw : Json} {kind : String} (h : j.IsTagOf kind raw) :
    sizeOf raw < sizeOf j := by
  obtain rfl | rfl := h <;> simp <;> omega

/-- A tagged value that cannot be read is flawed, if its items are that cannot be read. -/
lemma flawed_of_tagged {j raw : Json} {kind : String} (tag : j.IsTagOf kind raw)
    (h : (ofJson j).decode = .error e)
    (items : ∀ js, raw = .list js → ∀ i ∈ js, ∀ e, (ofJson i).decode = .error e → Flawed i e) :
    Flawed j e := by
  -- Kinds with items recurse, the others are decided by their content alone.
  by_cases hdecimal : kind = "decimal"
  · subst hdecimal
    rw [decode_ofJson_tagged tag, ofKind, Outcome.map_eq_error, toDecimal_ofJson_eq_error] at h
    obtain ⟨s, e, rfl, hs, rfl⟩ | ⟨js, rfl, hjs⟩ | ⟨rfl, rfl⟩ | ⟨fs, rfl, rfl⟩ := h
    · exact .decimal tag hs
    · exact .triple tag hjs
    · exact .nullDecimal tag
    · exact .objectDecimal tag
  by_cases hcalendar : kind ∈ ["datetime", "date", "time"]
  · obtain ⟨s, e, rfl, hs, rfl⟩ | ⟨hraw, rfl⟩ := (decode_calendar_eq_error hcalendar tag).mp h
    · exact .calendar tag hs
    · exact .notText tag hcalendar hraw
  by_cases hitems : kind ∈ ["tuple", "set"]
  · by_cases hraw : ∃ js, raw = .list js
    · obtain ⟨js, rfl⟩ := hraw
      obtain rfl | rfl : kind = "tuple" ∨ kind = "set" := by simpa using hitems
      · obtain ⟨before, i, after, rfl, hb, hi⟩ := (decode_tuple_eq_error tag).mp h
        exact .tupleItem tag hb (items _ rfl i (by simp) e hi)
      · obtain ⟨before, i, after, rfl, hb, hi⟩ := (decode_set_eq_error tag).mp h
        obtain hi | ⟨v, k, hv, hk, rfl⟩ := asElement_eq_error.mp hi
        · exact .setItem tag hb (items _ rfl i (by simp) e hi)
        · exact .element tag hb hv hk
    · obtain ⟨hnone, rfl⟩ :=
        (decode_eq_error_of_not_list hitems tag fun js hjs => hraw ⟨js, hjs⟩).mp h
      exact .notIterable tag hitems hnone
  · have hkind : kind ∉ kinds := by
      simp_all [kinds]
    obtain rfl := Except.error.inj ((decode_unknown hkind tag).symm.trans h)
    exact .kind tag hkind

/-- What cannot be read is flawed. -/
theorem flawed_of_decode : ∀ (j : Json) {e : DecodeError}, (ofJson j).decode = .error e → Flawed j e
  | .null, _, h | .bool _, _, h | .int _, _, h | .float _, _, h | .text _, _, h => nomatch h
  | .list _, _, h => by
    obtain ⟨before, j, after, hjs, hb, hj⟩ := decode_ofJson_list.mp h
    have hflaw := flawed_of_decode j hj
    rw [hjs]
    exact .item hb hflaw
  | .object fs, e, h => by
    by_cases htag : ∃ kind raw, IsTagOf (.object fs) kind raw
    · obtain ⟨kind, raw, tag⟩ := htag
      exact flawed_of_tagged tag h fun js hraw i hi e hdecode => flawed_of_decode i hdecode
    · have huntagged : ∀ kind raw, ¬ IsTagOf (.object fs) kind raw :=
        fun kind raw tag => htag ⟨kind, raw, tag⟩
      obtain ⟨before, ⟨name, j⟩, after, hfs, hb, hj⟩ := (decode_ofJson_untagged huntagged).mp h
      have hflaw := flawed_of_decode j hj
      rw [hfs] at huntagged ⊢
      exact .field huntagged hb hflaw
termination_by j => sizeOf j
-- What is recursed into: an item of a list, an item of a tagged tuple or set, and a field.
decreasing_by
  · rw [hjs]
    exact Nat.lt_trans (Outcome.sizeOf_reached_lt before j after) (by simp)
  · have hlist : sizeOf (Json.list js) < sizeOf (Json.object fs) := hraw ▸ sizeOf_lt_of_isTagOf tag
    have hitem := List.sizeOf_lt_of_mem hi
    simp only [Json.list.sizeOf_spec] at hlist
    omega
  · rw [hfs]
    have hfield := Outcome.sizeOf_reached_lt before (name, j) after
    simp only [Prod.mk.sizeOf_spec, Json.object.sizeOf_spec] at hfield ⊢
    omega

/-- **Why a compare value cannot be read.** Its first malformed value that is tagged says so. -/
theorem decode_ofJson_eq_error {j : Json} : (ofJson j).decode = .error e ↔ Flawed j e := by
  refine ⟨flawed_of_decode j, fun h => ?_⟩
  induction h with
  | kind tag h => exact decode_unknown h tag
  | decimal tag h =>
    rw [decode_ofJson_tagged tag, ofKind, Outcome.map_eq_error, toDecimal_ofJson_eq_error]
    exact .inl ⟨_, _, rfl, h, rfl⟩
  | triple tag h =>
    rw [decode_ofJson_tagged tag, ofKind, Outcome.map_eq_error, toDecimal_ofJson_eq_error]
    exact .inr (.inl ⟨_, rfl, h⟩)
  | nullDecimal tag =>
    rw [decode_ofJson_tagged tag]
    rfl
  | objectDecimal tag =>
    rw [decode_ofJson_tagged tag]
    rfl
  | @calendar j kind s e tag h =>
    have hkind : kind ∈ ["datetime", "date", "time"] := by
      obtain ⟨rfl, -⟩ | ⟨rfl, -⟩ | ⟨rfl, -⟩ := h <;> simp
    exact (decode_calendar_eq_error hkind tag).mpr (.inl ⟨s, e, rfl, h, rfl⟩)
  | notText tag hkind h => exact (decode_calendar_eq_error hkind tag).mpr (.inr ⟨h, rfl⟩)
  | notIterable tag hkind h => exact (decode_eq_error_of_not_list hkind tag h.2.1).mpr ⟨h, rfl⟩
  | tupleItem tag sound _ ih => exact (decode_tuple_eq_error tag).mpr ⟨_, _, _, rfl, sound, ih⟩
  | setItem tag sound _ ih =>
    exact (decode_set_eq_error tag).mpr ⟨_, _, _, rfl, sound, asElement_eq_error.mpr (.inl ih)⟩
  | element tag sound hread h =>
    exact (decode_set_eq_error tag).mpr
      ⟨_, _, _, rfl, sound, asElement_eq_error.mpr (.inr ⟨_, _, hread, h, rfl⟩)⟩
  | item sound _ ih => exact decode_ofJson_list.mpr ⟨_, _, _, rfl, sound, ih⟩
  | field untagged sound _ ih => exact (decode_ofJson_untagged untagged).mpr ⟨_, _, _, rfl, sound, ih⟩

end Value

end QueryTemplate
