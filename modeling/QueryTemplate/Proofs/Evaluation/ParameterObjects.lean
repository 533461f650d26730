import Mathlib.Data.List.Basic
import QueryTemplate.Proofs.Value.Collect
import QueryTemplate.Proofs.Value.Unfolded
import QueryTemplate.Template.Eval

/-!
# Parameters handed in as objects

The same names and values can be handed in as a map, as a map that can only be read, or as a record
of any kind.  All of these are read as one binding, and every value is bound as it is, but for one
case: a record with validated fields is read deeply, so what it holds is bound as it is only where
no record shows inside, and it is not read at all where one shows in an element of a set or in a key
(`objects_interchangeable`).
-/

namespace QueryTemplate

/-! ## Objects -/

/-- The objects by which names and values can be handed in. -/
inductive Carrier where
  | map (readOnly : Bool)
  | record (kind : RecordKind)
  deriving DecidableEq

/-- The object that hands in the fields.  A map is made by writing them one after the other. -/
def Carrier.object (fields : List (String × Value)) : Carrier → Except KeyError Value
  | .map readOnly => Value.mapOf readOnly (fields.map fun f => (.text f.1, f.2))
  | .record kind => .ok (.record kind fields)

/-- Is the object read deeply?  Only a record with validated fields is. -/
def Carrier.isDeep : Carrier → Bool
  | .record (.model _) => true
  | _ => false

/-- What becomes of the value of a field. -/
def Carrier.bound : Carrier → Value → Except KeyError Value
  | .record (.model _), v => v.unfoldRecords
  | _, v => .ok v

namespace Carrier

variable {c : Carrier} {v : Value}

lemma bound_eq (c : Carrier) (v : Value) :
    c.bound v = if c.isDeep then v.unfoldRecords else .ok v := by
  fun_cases isDeep c with
  | case1 => rfl
  | case2 =>
    rw [if_neg Bool.false_ne_true, bound]
    assumption

/-- A value is bound as it is unless it is read deeply and a record shows in it. -/
lemma bound_eq_self_iff (h : v.HasFitKeys) :
    c.bound v = .ok v ↔ (c.isDeep = true → ¬ v.ShowsRecord) := by
  rw [bound_eq]
  split_ifs with hdeep <;> simp [hdeep, Value.unfoldRecords_eq_self_iff h]

lemma exists_bound_iff (h : v.HasFitKeys) :
    (∃ w, c.bound v = .ok w) ↔ (c.isDeep = true → ¬ v.ShowsRecordAsKey) := by
  rw [bound_eq]
  split_ifs with hdeep <;> simp [hdeep, Value.exists_unfoldRecords_iff h]

end Carrier

namespace Binding

section Fields

variable {fields : List (String × Value)} (hdistinct : (fields.map (·.1)).Nodup)

include hdistinct

/-- Under each name the value of its field is bound, and nothing else is. -/
lemma get?_ofFields {name : String} {v : Value} :
    (ofFields fields).get? name = some v ↔ (name, v) ∈ fields := by
  induction fields with
  | nil => simp [ofFields, get?, Value.entry?]
  | cons f fields ih =>
    obtain ⟨n, w⟩ := f
    obtain ⟨hn, hdistinct⟩ := List.nodup_cons.mp hdistinct
    have hget : (ofFields ((n, w) :: fields)).get? name =
        if n = name then some w else (ofFields fields).get? name := by
      simp only [ofFields, get?, Value.entry?, List.map_cons, List.findSome?_cons]
      split_ifs <;> rfl
    rw [hget, List.mem_cons, Prod.mk.injEq]
    split_ifs with h
    · obtain rfl := h
      have hlater : (n, v) ∉ fields := fun h => hn (List.mem_map.mpr ⟨_, h, rfl⟩)
      simp [hlater, eq_comm]
    · simp [ih hdistinct, Ne.symm h]

/-- A map of fields with different names holds them as they are. -/
lemma object_map (readOnly : Bool) : (Carrier.map readOnly).object fields =
    .ok (.map readOnly (fields.map fun f => (.text f.1, f.2))) := by
  refine Value.mapOf_eq (List.forall_mem_map.mpr fun f _ => rfl) ?_ readOnly
  rw [List.pairwise_map]
  refine (List.pairwise_map.mp hdistinct).imp fun h => ?_
  simpa [Value.isSameKey, Value.equalSingle] using h

end Fields

variable {fields : List (String × Value)} {c : Carrier}

/-- The fields with what becomes of their values. -/
def IsBound (c : Carrier) (fields : List (String × Value)) (b : Binding) : Prop :=
  fields.Forall₂ (fun f e => e.1 = .text f.1 ∧ c.bound f.2 = .ok e.2) b.entries

/-- Fields whose values are bound as they are. -/
lemma isBound_ofFields :
    IsBound c fields (ofFields fields) ↔ ∀ f ∈ fields, c.bound f.2 = .ok f.2 := by
  simp only [IsBound, ofFields, List.forall₂_map_right_iff, List.forall₂_same, true_and]

lemma exists_isBound_iff :
    (∃ b, IsBound c fields b) ↔ ∀ f ∈ fields, ∃ v, c.bound f.2 = .ok v := by
  refine Iff.trans ?_ (Value.exists_entries_iff (p := fun v w => c.bound v = .ok w))
  exact ⟨fun ⟨b, hb⟩ => ⟨b.entries, hb⟩, fun ⟨es, hes⟩ => ⟨⟨es⟩, hes⟩⟩

/-- Without reading deeply the fields are the entries. -/
lemma ofFields_eq_iff_isBound (h : c.isDeep = false) {b : Binding} :
    ofFields fields = b ↔ IsBound c fields b := by
  obtain ⟨es⟩ := b
  simp only [IsBound, Carrier.bound_eq, h, Bool.false_eq_true, if_false, Except.ok.injEq, ofFields,
    Binding.mk.injEq]
  rw [← List.forall₂_eq_eq_eq, List.forall₂_map_left_iff]
  refine Outcome.forall₂_congr_of_mem fun f _ e _ => ?_
  obtain ⟨k, v⟩ := e
  rw [Prod.mk.injEq, eq_comm (a := k)]

/-- What objects are read as. -/
lemma ofValue_object (hdistinct : (fields.map (·.1)).Nodup)
    (hpublic : ∀ f ∈ fields, f.1.startsWith "_" = false) (c : Carrier) :
    ∃ p, c.object fields = .ok p ∧ ∀ b, ofValue p = .ok b ↔ IsBound c fields b := by
  cases c with
  | map readOnly =>
    refine ⟨_, object_map hdistinct readOnly, fun b => ?_⟩
    rw [ofValue, Except.ok.injEq]
    exact ofFields_eq_iff_isBound rfl
  | record kind =>
    refine ⟨_, rfl, fun b => ?_⟩
    cases kind with
    | attributes shown =>
      have hall : (fields.filter fun f => !f.1.startsWith "_") = fields :=
        List.filter_eq_self.mpr fun f hf => by rw [hpublic f hf, Bool.not_false]
      rw [ofValue, hall, Except.ok.injEq]
      exact ofFields_eq_iff_isBound rfl
    | declared frozen =>
      rw [ofValue, Except.ok.injEq]
      exact ofFields_eq_iff_isBound rfl
    | model frozen =>
      rw [ofValue, Outcome.mapError_eq_ok, Outcome.map_eq_ok]
      simp only [Value.unfoldRecordFields_eq_ok]
      exact ⟨fun ⟨es, hes, hb⟩ => hb ▸ hes, fun hb => ⟨b.entries, hb, rfl⟩⟩

/-- **Parameter objects.** Whatever object hands in fields with different, public names, it binds
these names, and evaluation goes by the binding alone.  The values are bound as they are, unless the
object is a record with validated fields: that is read deeply, so it binds them as they are exactly
where no record shows in them, and binds nothing exactly where one shows in an element or a key. -/
theorem objects_interchangeable (hdistinct : (fields.map (·.1)).Nodup)
    (hpublic : ∀ f ∈ fields, f.1.startsWith "_" = false) (hfit : ∀ f ∈ fields, f.2.HasFitKeys) :
    (∀ name v, (ofFields fields).get? name = some v ↔ (name, v) ∈ fields) ∧
    ∀ c : Carrier, ∃ p, c.object fields = .ok p ∧
      (ofValue p = .ok (ofFields fields) ↔
        (c.isDeep = true → ∀ f ∈ fields, ¬ f.2.ShowsRecord)) ∧
      ((∃ b, ofValue p = .ok b) ↔
        (c.isDeep = true → ∀ f ∈ fields, ¬ f.2.ShowsRecordAsKey)) ∧
      ∀ b, ofValue p = .ok b → IsBound c fields b ∧ ∀ t : Template, t.evalWith p = t.eval b := by
  refine ⟨fun name v => get?_ofFields hdistinct, fun c => ?_⟩
  obtain ⟨p, hp, hread⟩ := ofValue_object hdistinct hpublic c
  refine ⟨p, hp, ?_, ?_, fun b hb => ⟨(hread b).mp hb, fun t => by rw [Template.evalWith, hb]⟩⟩
  · rw [hread, isBound_ofFields, forall₂_congr fun f hf => Carrier.bound_eq_self_iff (hfit f hf)]
    exact ⟨fun h hdeep f hf => h f hf hdeep, fun h f hf hdeep => h hdeep f hf⟩
  · simp only [hread]
    rw [exists_isBound_iff, forall₂_congr fun f hf => Carrier.exists_bound_iff (hfit f hf)]
    exact ⟨fun h hdeep f hf => h f hf hdeep, fun h f hf hdeep => h hdeep f hf⟩

/-- A name and an address, which is a record with declared fields. -/
def guest : List (String × Value) :=
  [("name", .text "Ada"), ("address", .record (.declared false) [("city", .text "Bern")])]

/-- A text for those whose address is a container that is not empty. -/
def letter : Template :=
  ⟨[.decision (.branch ⟨.nullOrEmpty "address" .notEmpty, "x", .null⟩)]⟩

lemma hasFitKeys_guest : ∀ f ∈ guest, f.2.HasFitKeys := by
  have htext : ∀ s, (Value.text s).HasFitKeys := fun s => .intro nofun nofun
  have haddress : (Value.record (.declared false) [("city", .text "Bern")]).HasFitKeys :=
    .intro nofun (List.forall_mem_singleton.mpr (htext "Bern"))
  exact List.forall_mem_cons.mpr ⟨htext "Ada", List.forall_mem_singleton.mpr haddress⟩

theorem guest_as_map :
    (guest.map (·.1)).Nodup ∧ (∀ f ∈ guest, f.1.startsWith "_" = false) ∧
      (∀ f ∈ guest, f.2.HasFitKeys) ∧
      ∃ p, (Carrier.map false).object guest = .ok p ∧ ofValue p = .ok (ofFields guest) := by
  have hdistinct : (guest.map (·.1)).Nodup := by decide
  have hpublic : ∀ f ∈ guest, f.1.startsWith "_" = false := by decide +kernel
  obtain ⟨p, hp, hsame, -⟩ :=
    (objects_interchangeable hdistinct hpublic hasFitKeys_guest).2 (.map false)
  exact ⟨hdistinct, hpublic, hasFitKeys_guest, p, hp, hsame.mpr nofun⟩

theorem not_always_interchangeable :
    ¬ ∀ fields : List (String × Value), (fields.map (·.1)).Nodup →
      (∀ f ∈ fields, f.1.startsWith "_" = false) → (∀ f ∈ fields, f.2.HasFitKeys) →
      ∀ (c d : Carrier) (p q : Value), c.object fields = .ok p → d.object fields = .ok q →
      ∀ t : Template, t.evalWith p = t.evalWith q := by
  intro h
  have hdistinct : (guest.map (·.1)).Nodup := by decide
  have hpublic : ∀ f ∈ guest, f.1.startsWith "_" = false := by decide +kernel
  have hsame := congrArg Traced.outcome
    (h guest hdistinct hpublic hasFitKeys_guest (.record (.model false)) (.record (.declared false))
      _ _ rfl rfl letter)
  revert hsame
  decide +kernel

end Binding

end QueryTemplate
