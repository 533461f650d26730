import Mathlib.Tactic.Common
import QueryTemplate.Document.Field

/-!
# Checks that let their input through

A check lets its input through exactly when each of its parts does.  The lemmas below say so for
every way in which checks are put together; what is let through is then found part by part.
-/

namespace QueryTemplate.Checked

variable {α β : Type}

@[simp] lemma toExcept_eq_ok {c : Checked α} {a : α} : c.toExcept = .ok a ↔ c = .ok a := by
  cases c <;> simp [toExcept]

lemma map_eq_ok {c : Checked α} {f : α → β} {b : β} :
    c.map f = .ok b ↔ ∃ a, c = .ok a ∧ f a = b := by
  cases c <;> simp [map]

@[simp] lemma under_eq_ok {c : Checked α} {step : Step} {a : α} :
    c.under step = .ok a ↔ c = .ok a := by
  cases c <;> simp [under]

lemma and_eq_ok {c : Checked α} {d : Checked β} {r : α × β} :
    c.and d = .ok r ↔ c = .ok r.1 ∧ d = .ok r.2 := by
  obtain ⟨a, b⟩ := r
  cases c <;> cases d <;> simp [Checked.and]

lemma bind_eq_ok {c : Checked α} {f : α → Checked β} {b : β} :
    c.bind f = .ok b ↔ ∃ a, c = .ok a ∧ f a = .ok b := by
  cases c <;> simp [Checked.bind]

@[simp] lemma fault_ne_ok {f : Fault} {a : α} : (fault f : Checked α) ≠ .ok a := by
  simp [fault]

/-- All items are let through together exactly when each is let through. -/
lemma all_eq_ok {cs : List (Checked α)} {as : List α} : all cs = .ok as ↔ cs = as.map .ok := by
  induction cs generalizing as with
  | nil => cases as <;> simp [all]
  | cons c cs ih =>
    rw [all, map_eq_ok]
    constructor
    · rintro ⟨⟨a, as⟩, h, rfl⟩
      obtain ⟨hc, hcs⟩ := and_eq_ok.mp h
      rw [List.map_cons, ← ih.mp hcs]
      exact congrArg (· :: cs) hc
    · intro h
      cases as with
      | nil => simp at h
      | cons a as =>
        obtain ⟨hc, hcs⟩ := List.cons.inj h
        exact ⟨(a, as), and_eq_ok.mpr ⟨hc, ih.mpr hcs⟩, rfl⟩

/-- Where an item stands does not matter to whether it is let through. -/
lemma indexed_eq_ok {cs : List (Checked α)} {as : List α} (start : ℕ) :
    indexed start cs = as.map .ok ↔ cs = as.map .ok := by
  induction cs generalizing start as with
  | nil => cases as <;> simp [indexed]
  | cons c cs ih =>
    cases as with
    | nil => simp [indexed]
    | cons a as =>
      rw [indexed, List.map_cons, List.cons_eq_cons, List.cons_eq_cons, under_eq_ok, ih]

lemma present_eq_ok {name : String} {es : List (Value × Value)} {check : Value → Checked α}
    {a : α} :
    present name es check = .ok a ↔ ∃ v, Value.entry? name es = some v ∧ check v = .ok a := by
  rw [present]
  cases Value.entry? name es <;> simp

lemma perhaps_eq_ok {name : String} {es : List (Value × Value)} {absent : α}
    {check : Value → Checked α} {a : α} :
    perhaps name es absent check = .ok a ↔
      (Value.entry? name es = none ∧ absent = a) ∨
        ∃ v, Value.entry? name es = some v ∧ check v = .ok a := by
  rw [perhaps]
  cases Value.entry? name es <;> simp

lemma required_eq_ok {name : String} {es : List (Value × Value)} {check : Value → Checked α}
    {a : α} :
    required name es check = .ok a ↔ ∃ v, Value.entry? name es = some v ∧ check v = .ok a := by
  rw [required, under_eq_ok, present_eq_ok]

lemma optional_eq_ok {name : String} {es : List (Value × Value)} {absent : α}
    {check : Value → Checked α} {a : α} :
    optional name es absent check = .ok a ↔
      (Value.entry? name es = none ∧ absent = a) ∨
        ∃ v, Value.entry? name es = some v ∧ check v = .ok a := by
  rw [optional, under_eq_ok, perhaps_eq_ok]

lemma fields_eq_ok {origin : Origin} {className : String} {v : Value}
    {check : List (Value × Value) → Checked α} {a : α} :
    fields origin className v check = .ok a ↔
      ∃ readOnly es, v = .map readOnly es ∧ check es = .ok a := by
  cases v <;> simp [fields]

section Tagged

variable {origin : Origin} {allowed : List (String × String)}
variable {check : String → List (Value × Value) → Checked α} {a : α}

/-- Only a map can have a tag that is let through. -/
lemma exists_map_of_tagged {v : Value} (h : tagged origin allowed v check = .ok a) :
    ∃ readOnly es, v = .map readOnly es := by
  cases v with
  | map readOnly es => exact ⟨readOnly, es, rfl⟩
  | _ =>
    simp only [tagged] at h
    repeat' split at h
    all_goals exact absurd h (by simp)

/-- What is let through of a map has one of the tags allowed. -/
lemma map_tagged_eq_ok {readOnly : Bool} {es : List (Value × Value)} :
    tagged origin allowed (.map readOnly es) check = .ok a ↔
      ∃ tag, Value.entry? "type" es = some (.text tag) ∧
        allowed.any (·.1 == tag) ∧ check tag es = .ok a := by
  rw [tagged]
  cases Value.entry? "type" es with
  | none => simp
  | some v =>
    cases v with
    | text tag =>
      simp only [Option.some.injEq, Value.text.injEq, exists_eq_left']
      split_ifs with htag
      · rw [under_eq_ok, and_iff_right htag]
      · exact iff_of_false fault_ne_ok fun h => htag h.1
    | _ => simp

/-- What has a tag is a map whose tag is one of those allowed. -/
lemma tagged_eq_ok {v : Value} :
    tagged origin allowed v check = .ok a ↔
      ∃ readOnly es tag, v = .map readOnly es ∧ Value.entry? "type" es = some (.text tag) ∧
        allowed.any (·.1 == tag) ∧ check tag es = .ok a := by
  constructor
  · intro h
    obtain ⟨readOnly, es, rfl⟩ := exists_map_of_tagged h
    obtain ⟨tag, htag⟩ := map_tagged_eq_ok.mp h
    exact ⟨readOnly, es, tag, rfl, htag⟩
  · rintro ⟨readOnly, es, tag, rfl, htag⟩
    exact map_tagged_eq_ok.mpr ⟨tag, htag⟩

end Tagged

end QueryTemplate.Checked
