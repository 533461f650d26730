import QueryTemplate.Proofs.Document.CompareValue

/-!
# Compare values that can be written

A value built from null, truth values, integers, texts, decimals, dates and times by lists, tuples,
sets and maps with texts as keys can be written, unless an integer in a set has too many digits
(`encode_of_storable`).  Of what a document does not keep, such a value can only hold offsets of
less than a second.

What is written never names a field twice, since the keys of a map differ.  Its integers are those
of the value (`isShort_encode`), and how deep it is nested is told by the value too
(`nesting_encode`).
-/

namespace QueryTemplate.Value

/-- A value of a kind that a document has a form for.  Only the key `$kind` is not left to maps. -/
def IsStorable : Value → Prop
  | .number (.float _) | .number (.fraction _) | .range _ | .bytes _ _ | .record _ _ => False
  | .map _ es => ∀ e ∈ es, ∃ name, e.1 = .text name ∧ name ≠ "$kind"
  | _ => True

/-- The value and every value inside it has a form in documents. -/
def Storable (v : Value) : Prop :=
  v.Everywhere IsStorable

/-- The offset of a time or moment, if there is one, is zero or at least a second. -/
def HasCoarseOffset : Value → Prop
  | .time t => t.IsCoarse
  | .moment m => m.time.IsCoarse
  | _ => True

/-- No offset inside the value is lost in its text. -/
def CoarseOffsets (v : Value) : Prop :=
  v.Everywhere HasCoarseOffset

lemma Everywhere.congr {p q r : Value → Prop} {v : Value} (h : v.Everywhere r)
    (hpq : ∀ w, r w → (p w ↔ q w)) : v.Everywhere p ↔ v.Everywhere q := by
  induction h with
  | intro here _ ih =>
    rw [everywhere_iff, everywhere_iff, hpq _ here]
    exact and_congr_right fun _ => forall₂_congr ih

/-- A storable value loses nothing but its short offsets. -/
theorem lossless_iff_of_storable {v : Value} (h : v.Storable) : v.Lossless ↔ v.CoarseOffsets := by
  refine h.congr fun w hw => ?_
  cases w with
  | number n =>
    cases n with
    | float x => exact hw.elim
    | _ => rfl
  | map readOnly es =>
    refine iff_of_true ?_ trivial
    rintro ⟨kind, raw, rfl | rfl⟩
    · obtain ⟨name, hname, hne⟩ := hw (.text "$kind", .text kind) (by simp)
      exact hne (Value.text.inj hname).symm
    · obtain ⟨name, hname, hne⟩ := hw (.text "$kind", .text kind) (by simp)
      exact hne (Value.text.inj hname).symm
  | _ => rfl

/-! ## Integers -/

/-- An integer is short enough for a document. -/
def IsLegible : Value → Prop
  | .number (.int i) => Json.IsShort i
  | _ => True

/-- The integers inside the value are short enough for a document. -/
def Legible (v : Value) : Prop :=
  v.Everywhere IsLegible

lemma hasManyDigits_of_isShort {i : ℤ} (h : Json.IsShort i) : hasManyDigits i = false := by
  have hlength : (Nat.toDigits 10 i.natAbs).length ≤ maxDigits := by
    refine le_trans ?_ (show (toString i).length ≤ maxDigits from h)
    rw [← String.length_toList, Json.toList_toString, List.length_append]
    exact Nat.le_add_left _ _
  have hlt : ∀ k, 0 < k → (Nat.toDigits 10 i.natAbs).length ≤ k → i.natAbs < Nat.pow 10 k :=
    fun k hk h => (Text.digitCount_lt_iff hk).mp h
  rw [hasManyDigits, decide_eq_false_iff_not, not_le]
  exact hlt _ (by decide) hlength

lemma formErrorAmong?_eq : ∀ xs : List Value, formErrorAmong? xs = xs.findSome? formError?
  | [] => rfl
  | x :: xs => by
    rw [formErrorAmong?, formErrorAmong?_eq xs, List.findSome?_cons]
    cases x.formError? <;> rfl

lemma formErrorAmong?_eq_none {xs : List Value} :
    formErrorAmong? xs = none ↔ ∀ x ∈ xs, x.formError? = none := by
  rw [formErrorAmong?_eq, List.findSome?_eq_none_iff]

lemma formErrorOfEntries?_eq_none : ∀ {es : List (Value × Value)},
    formErrorOfEntries? es = none ↔ ∀ e ∈ es, e.1.formError? = none ∧ e.2.formError? = none
  | [] => by simp [formErrorOfEntries?]
  | (k, v) :: es => by
    rw [formErrorOfEntries?, Option.or_eq_none_iff, Option.or_eq_none_iff,
      formErrorOfEntries?_eq_none, List.forall_mem_cons, and_assoc]

/-- A storable value has a form, if its integers are short enough. -/
lemma formError?_of_storable {v : Value} (h : v.Storable) (hlegible : v.Legible) :
    v.formError? = none := by
  induction h with
  | @intro v hv _ ih =>
    obtain ⟨hhere, hinside⟩ := everywhere_iff.mp hlegible
    have ih := fun w hw => ih w hw (hinside w hw)
    cases v with
    | number n =>
      cases n with
      | int i =>
        rw [formError?, Number.formError?, Number.hasManyDigits, hasManyDigits_of_isShort hhere]
        rfl
      | decimal d => rfl
      | _ => exact hv.elim
    | list xs | tuple xs | set frozen xs => exact formErrorAmong?_eq_none.mpr ih
    | map readOnly es =>
      refine formErrorOfEntries?_eq_none.mpr fun e he => ⟨?_, ih e.2 (List.mem_map_of_mem he)⟩
      obtain ⟨name, hname, -⟩ := hv e he
      rw [hname]
      rfl
    | range | record => exact hv.elim
    | _ => rfl

/-- The elements of a set have forms to be sorted by. -/
def IsSortable : Value → Prop
  | .set _ xs => ∀ x ∈ xs, x.formError? = none
  | _ => True

/-- So have those of every set inside the value. -/
def Sortable (v : Value) : Prop :=
  v.Everywhere IsSortable

lemma sortable_of_legible {v : Value} (h : v.Storable) (hlegible : v.Legible) : v.Sortable := by
  induction h with
  | @intro v _ inside ih =>
    obtain ⟨-, hinside⟩ := everywhere_iff.mp hlegible
    refine .intro ?_ fun w hw => ih w hw (hinside w hw)
    cases v with
    | set frozen xs => exact fun x hx => formError?_of_storable (inside x hx) (hinside x hx)
    | _ => trivial

/-- A storable value can be written, if the elements of its sets can be sorted. -/
theorem encode_of_storable {v : Value} (h : v.Storable) (hsortable : v.Sortable) :
    ∃ j, v.encode = .ok j := by
  induction h with
  | @intro v hv _ ih =>
    obtain ⟨hhere, hinside⟩ := everywhere_iff.mp hsortable
    have ih := fun w hw => ih w hw (hinside w hw)
    cases v with
    | null | bool b | text s | date d | time t | moment m => exact ⟨_, rfl⟩
    | number n =>
      cases n with
      | int i => exact ⟨_, rfl⟩
      | decimal d => exact ⟨_, rfl⟩
      | _ => exact hv.elim
    | list xs =>
      obtain ⟨js, hjs⟩ := Outcome.exists_forall₂ ih
      exact ⟨_, encode_list_eq_ok.mpr ⟨js, hjs, rfl⟩⟩
    | tuple xs =>
      obtain ⟨js, hjs⟩ := Outcome.exists_forall₂ ih
      exact ⟨_, encode_tuple_eq_ok.mpr ⟨js, hjs, rfl⟩⟩
    | set frozen xs =>
      obtain ⟨js, hjs⟩ := Outcome.exists_forall₂ fun x hx =>
        ih x ((inOrder_perm xs).mem_iff.mp hx)
      exact ⟨_, encode_set_eq_ok.mpr ⟨formErrorAmong?_eq_none.mpr hhere, js, hjs, rfl⟩⟩
    | map readOnly es =>
      have hentry : ∀ e ∈ es, ∃ f : String × Json, e.1 = .text f.1 ∧ e.2.encode = .ok f.2 := by
        intro e he
        obtain ⟨name, hname, -⟩ := hv e he
        obtain ⟨j, hj⟩ := ih e.2 (List.mem_map_of_mem he)
        exact ⟨(name, j), hname, hj⟩
      obtain ⟨fs, hfs⟩ := Outcome.exists_forall₂ hentry
      exact ⟨_, encode_map_eq_ok.mpr ⟨fs, hfs, rfl⟩⟩
    | range | bytes | record => exact hv.elim

lemma areShort_iff {js : List Json} :
    Json.areShort js = true ↔ ∀ j ∈ js, j.isShort = true := by
  induction js with
  | nil => simp [Json.areShort]
  | cons j js ih => rw [Json.areShort, Bool.and_eq_true, ih, List.forall_mem_cons]

lemma areShortFields_iff {fs : List (String × Json)} :
    Json.areShortFields fs = true ↔ ∀ f ∈ fs, f.2.isShort = true := by
  induction fs with
  | nil => simp [Json.areShortFields]
  | cons f fs ih =>
    obtain ⟨name, j⟩ := f
    rw [Json.areShortFields, Bool.and_eq_true, ih, List.forall_mem_cons]

lemma isShort_tagged (kind : String) (j : Json) : (tagged kind j).isShort = j.isShort := by
  simp [tagged, Json.isShort, Json.areShortFields]

lemma legible_iff_parts {v : Value} (h : v.IsLegible) :
    v.Legible ↔ ∀ w ∈ v.parts, w.Legible := by
  rw [Legible, everywhere_iff, and_iff_right h]
  rfl

/-- The integers of what is written are those of the value. -/
theorem isShort_encode {v : Value} {j : Json} (h : v.encode = .ok j) :
    j.isShort = true ↔ v.Legible := by
  induction v using parts_induction generalizing j with
  | step v ih =>
    cases v with
    | null | bool b | text s =>
      obtain rfl := Except.ok.inj h
      exact iff_of_true rfl ((everywhere_single rfl).mpr trivial)
    | number n =>
      rw [Legible, everywhere_single rfl]
      cases n with
      | fraction q => cases h
      | int i =>
        obtain rfl := Except.ok.inj h
        rw [Json.isShort, decide_eq_true_eq]
        rfl
      | _ =>
        obtain rfl := Except.ok.inj h
        exact iff_of_true rfl trivial
    | date d | time t | moment m =>
      obtain rfl := Except.ok.inj h
      exact iff_of_true rfl ((everywhere_single rfl).mpr trivial)
    | list xs =>
      obtain ⟨js, hjs, rfl⟩ := encode_list_eq_ok.mp h
      rw [Json.isShort, areShort_iff, legible_iff_parts (v := .list xs) trivial]
      exact Outcome.forall_iff_of_forall₂ hjs fun x hx j hj => ih x hx hj
    | tuple xs =>
      obtain ⟨js, hjs, rfl⟩ := encode_tuple_eq_ok.mp h
      rw [isShort_tagged, Json.isShort, areShort_iff,
        legible_iff_parts (v := .tuple xs) trivial]
      exact Outcome.forall_iff_of_forall₂ hjs fun x hx j hj => ih x hx hj
    | set frozen xs =>
      obtain ⟨-, js, hjs, rfl⟩ := encode_set_eq_ok.mp h
      have hmem : ∀ x, x ∈ inOrder xs ↔ x ∈ xs := fun x => (inOrder_perm xs).mem_iff
      rw [isShort_tagged, Json.isShort, areShort_iff,
        legible_iff_parts (v := .set frozen xs) trivial]
      refine (Outcome.forall_iff_of_forall₂ (p := Legible) hjs fun x hx j hj =>
        ih x ((hmem x).mp hx) hj).trans ?_
      exact forall_congr' fun x => imp_congr_left (hmem x)
    | map readOnly es =>
      obtain ⟨fs, hfs, rfl⟩ := encode_map_eq_ok.mp h
      rw [Json.isShort, areShortFields_iff, legible_iff_parts (v := .map readOnly es) trivial]
      refine (Outcome.forall_iff_of_forall₂ (p := fun e => e.2.Legible) hfs fun e he f hf =>
        ih e.2 (List.mem_map_of_mem he) hf.2).trans ?_
      exact List.forall_mem_map.symm
    | range | bytes | record => cases h

/-! ## Nesting -/

/-- The greatest of some numbers, or zero. -/
def deepest (ns : List ℕ) : ℕ :=
  ns.foldr max 0

lemma deepest_le {ns : List ℕ} {n : ℕ} : deepest ns ≤ n ↔ ∀ m ∈ ns, m ≤ n := by
  induction ns with
  | nil => simp [deepest]
  | cons m ns ih => rw [deepest, List.foldr_cons, max_le_iff, List.forall_mem_cons, ← ih, deepest]

mutual

/-- How deep a value is nested in a document. -/
def nesting : Value → ℕ
  | .number (.decimal _) | .date _ | .time _ | .moment _ => 1
  | .list xs => deepest (nestingEach xs)
  | .tuple xs | .set _ xs => deepest (nestingEach xs) + 1
  | .map _ es => deepest (nestingEntries es)
  | _ => 0
termination_by structural x => x

/-- How deep the list of each item is nested. -/
def nestingEach : List Value → List ℕ
  | [] => []
  | x :: xs => (nesting x + 1) :: nestingEach xs
termination_by structural x => x

/-- How deep the object of each entry is nested. -/
def nestingEntries : List (Value × Value) → List ℕ
  | [] => []
  | (_, v) :: es => (nesting v + 1) :: nestingEntries es
termination_by structural x => x

end

lemma nestingEach_eq : ∀ xs, nestingEach xs = xs.map fun x => x.nesting + 1
  | [] => rfl
  | x :: xs => congrArg ((x.nesting + 1) :: ·) (nestingEach_eq xs)

lemma nestingEntries_eq : ∀ es, nestingEntries es = es.map fun e => e.2.nesting + 1
  | [] => rfl
  | (_, v) :: es => congrArg ((v.nesting + 1) :: ·) (nestingEntries_eq es)

lemma nestingOfItems_eq (js : List Json) :
    Json.nestingOfItems js = deepest (js.map fun j => j.nesting + 1) := by
  induction js with
  | nil => rfl
  | cons j js ih => exact congrArg (max (j.nesting + 1)) ih

lemma nestingOfFields_eq (fs : List (String × Json)) :
    Json.nestingOfFields fs = deepest (fs.map fun f => f.2.nesting + 1) := by
  induction fs with
  | nil => rfl
  | cons f fs ih => exact congrArg (max (f.2.nesting + 1)) ih

lemma nesting_tagged (kind : String) (j : Json) : (tagged kind j).nesting = j.nesting + 1 := by
  simp [tagged, Json.nesting, Json.nestingOfFields]

lemma deepest_perm {ms ns : List ℕ} (h : ms.Perm ns) : deepest ms = deepest ns :=
  h.foldr_eq 0

/-- **How deep a written value is nested.** -/
theorem nesting_encode {v : Value} {j : Json} (h : v.encode = .ok j) : j.nesting = v.nesting := by
  induction v using parts_induction generalizing j with
  | step v ih =>
    have hitems : ∀ (xs : List Value) {js : List Json}, (∀ x ∈ xs, x ∈ v.parts) →
        xs.Forall₂ (fun x j => x.encode = .ok j) js →
        js.map (fun j => j.nesting + 1) = xs.map fun x => x.nesting + 1 := by
      intro xs js hxs hjs
      exact Outcome.map_eq_map_of_forall₂ hjs fun x hx j hj => congrArg (· + 1) (ih x (hxs x hx) hj)
    cases v with
    | null | bool b | text s =>
      obtain rfl := Except.ok.inj h
      rfl
    | number n =>
      cases n with
      | fraction q => cases h
      | decimal d =>
        obtain rfl := Except.ok.inj h
        exact nesting_tagged _ _
      | _ =>
        obtain rfl := Except.ok.inj h
        rfl
    | date d | time t | moment m =>
      obtain rfl := Except.ok.inj h
      exact nesting_tagged _ _
    | list xs =>
      obtain ⟨js, hjs, rfl⟩ := encode_list_eq_ok.mp h
      rw [Json.nesting, nestingOfItems_eq, nesting, nestingEach_eq,
        hitems xs (fun _ => id) hjs]
    | tuple xs =>
      obtain ⟨js, hjs, rfl⟩ := encode_tuple_eq_ok.mp h
      rw [nesting_tagged, Json.nesting, nestingOfItems_eq, nesting, nestingEach_eq,
        hitems xs (fun _ => id) hjs]
    | set frozen xs =>
      obtain ⟨-, js, hjs, rfl⟩ := encode_set_eq_ok.mp h
      rw [nesting_tagged, Json.nesting, nestingOfItems_eq, nesting, nestingEach_eq,
        hitems _ (fun x => (inOrder_perm xs).mem_iff.mp) hjs,
        deepest_perm ((inOrder_perm xs).map _)]
    | map readOnly es =>
      obtain ⟨fs, hfs, rfl⟩ := encode_map_eq_ok.mp h
      rw [Json.nesting, nestingOfFields_eq, nesting, nestingEntries_eq]
      exact congrArg deepest (Outcome.map_eq_map_of_forall₂ hfs fun e he f hf =>
        congrArg (· + 1) (ih e.2 (List.mem_map_of_mem he) hf.2))
    | range | bytes | record => cases h

/-! ## Names of fields -/

lemma namesOnceItems_iff (js : List Json) :
    Json.NamesOnceItems js ↔ ∀ j ∈ js, Json.NamesOnce j := by
  induction js with
  | nil => simp [Json.NamesOnceItems]
  | cons j js ih => rw [Json.NamesOnceItems, ih, List.forall_mem_cons]

lemma namesOnceFields_iff (fs : List (String × Json)) :
    Json.NamesOnceFields fs ↔ ∀ f ∈ fs, Json.NamesOnce f.2 := by
  induction fs with
  | nil => simp [Json.NamesOnceFields]
  | cons f fs ih =>
    obtain ⟨name, j⟩ := f
    rw [Json.NamesOnceFields, ih, List.forall_mem_cons]

lemma namesOnce_tagged {kind : String} {j : Json} (h : j.NamesOnce) :
    (tagged kind j).NamesOnce := by
  simp [tagged, Json.NamesOnce, Json.NamesOnceFields, h]

lemma isSameKey_text (s t : String) : isSameKey (.text s) (.text t) = (s == t) := rfl

/-- What is written never names a field twice. -/
theorem namesOnce_encode {v : Value} (hv : v.WellFormed) {j : Json} (h : v.encode = .ok j) :
    j.NamesOnce := by
  induction hv generalizing j with
  | @intro v hproper _ ih =>
    cases v with
    | null | bool b | text s =>
      obtain rfl := Except.ok.inj h
      trivial
    | number n =>
      cases n with
      | fraction q => cases h
      | decimal d =>
        obtain rfl := Except.ok.inj h
        exact namesOnce_tagged trivial
      | _ =>
        obtain rfl := Except.ok.inj h
        trivial
    | date d | time t | moment m =>
      obtain rfl := Except.ok.inj h
      exact namesOnce_tagged trivial
    | list xs =>
      obtain ⟨js, hjs, rfl⟩ := encode_list_eq_ok.mp h
      exact (namesOnceItems_iff js).mpr (Outcome.forall_of_forall₂ hjs fun x hx j hj => ih x hx hj)
    | tuple xs =>
      obtain ⟨js, hjs, rfl⟩ := encode_tuple_eq_ok.mp h
      exact namesOnce_tagged
        ((namesOnceItems_iff js).mpr (Outcome.forall_of_forall₂ hjs fun x hx j hj => ih x hx hj))
    | set frozen xs =>
      obtain ⟨-, js, hjs, rfl⟩ := encode_set_eq_ok.mp h
      have hitems : ∀ j ∈ js, j.NamesOnce := Outcome.forall_of_forall₂ hjs fun x hx j hj =>
        ih x ((inOrder_perm xs).mem_iff.mp hx) hj
      exact namesOnce_tagged ((namesOnceItems_iff js).mpr hitems)
    | map readOnly es =>
      obtain ⟨fs, hfs, rfl⟩ := encode_map_eq_ok.mp h
      have hvalues : ∀ f ∈ fs, f.2.NamesOnce :=
        Outcome.forall_of_forall₂ hfs fun e he f hf => ih e.2 (List.mem_map_of_mem he) hf.2
      have hkeys : es.map (·.1) = fs.map fun f => Value.text f.1 := by
        rw [← List.forall₂_eq_eq_eq, List.forall₂_map_left_iff, List.forall₂_map_right_iff]
        exact hfs.imp fun _ _ h => h.1
      refine ⟨?_, (namesOnceFields_iff fs).mpr hvalues⟩
      have hapart : (es.map (·.1)).Pairwise Apart := hproper
      rw [hkeys, List.pairwise_map] at hapart
      rw [List.Nodup, List.pairwise_map]
      refine hapart.imp fun h hname => ?_
      have hsame := h.1
      rw [hname, isSameKey_text] at hsame
      simp at hsame
    | range | bytes | record => cases h

end QueryTemplate.Value
