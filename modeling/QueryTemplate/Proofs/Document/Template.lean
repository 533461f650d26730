import QueryTemplate.Document.Reader
import QueryTemplate.Proofs.Document.Condition
import QueryTemplate.Proofs.Evaluation.Contract

/-!
# Templates as they come back from a document

A template is written part by part and read part by part, so it comes back as it was, with its
compare values as they come back, exactly when a document keeps each of them.  How deep the document
is nested and whether its integers are short is told by the template too.
-/

namespace QueryTemplate

open Checked

/-! ## The parts that come back -/

/-- The alternative with its compare values as they come back. -/
def Alternative.restored (a : Alternative) : Alternative :=
  { a with condition := a.condition.restored }

/-- The branch with its compare values as they come back. -/
def Branch.restored (b : Branch) : Branch :=
  { b with condition := b.condition.restored }

namespace Chain

/-- The conditions of a chain, the one without a text last. -/
def conditions (c : Chain) : List Condition :=
  c.alternatives.map (·.condition) ++ c.dangling.toList

/-- The chain with its compare values as they come back. -/
def restored (c : Chain) : Chain :=
  { c with
    alternatives := c.alternatives.map Alternative.restored
    dangling := c.dangling.map Condition.restored }

end Chain

namespace Decision

/-- The conditions of a decision. -/
def conditions : Decision → List Condition
  | .branch b => [b.condition]
  | .chain c => c.conditions

/-- The decision with its compare values as they come back. -/
def restored : Decision → Decision
  | .branch b => .branch b.restored
  | .chain c => .chain c.restored

end Decision

/-- The segment with its compare values as they come back. -/
def Segment.restored : Segment → Segment
  | .literal s => .literal s
  | .decision d => .decision d.restored

/-- The conditions of a segment. -/
def Segment.conditions : Segment → List Condition
  | .literal _ => []
  | .decision d => d.conditions

namespace Template

/-- The conditions of a template, in order. -/
def conditions (t : Template) : List Condition :=
  t.segments.flatMap Segment.conditions

/-- The template with its compare values as they come back. -/
def restored (t : Template) : Template :=
  ⟨t.segments.map Segment.restored⟩

end Template

/-! ## Nesting -/

/-- How deep an alternative is nested in a document. -/
def Alternative.nesting (a : Alternative) : ℕ :=
  a.condition.nesting + 1

/-- How deep a branch is nested in a document. -/
def Branch.nesting (b : Branch) : ℕ :=
  b.condition.nesting + 1

/-- How deep a chain is nested in a document: its alternatives stand in a list. -/
def Chain.nesting (c : Chain) : ℕ :=
  max (Value.deepest (c.alternatives.map fun a => a.nesting + 1))
    (Value.deepest (c.dangling.toList.map Condition.nesting)) + 1

/-- How deep a decision is nested in a document. -/
def Decision.nesting : Decision → ℕ
  | .branch b => b.nesting
  | .chain c => c.nesting

/-- How deep a segment is nested in a document. -/
def Segment.nesting : Segment → ℕ
  | .literal _ => 1
  | .decision d => d.nesting + 1

/-- How deep the document of a template is nested. -/
def Template.nesting (t : Template) : ℕ :=
  Value.deepest (t.segments.map fun s => s.nesting + 1) + 1

/-! ## Values of conditions -/

namespace Condition

/-- Every compare value of a condition has the property. -/
def OnValues (p : Value → Prop) (c : Condition) : Prop :=
  ∀ v ∈ c.compareValues, p v

end Condition

/-! ## Writing and reading a part -/

namespace Checked

variable {α : Type} {name : String} {es : List (Value × Value)} {check : Value → Checked α}

lemma present_of_entry {v : Value} (h : Value.entry? name es = some v) :
    present name es check = check v := by
  rw [present, h]

lemma perhaps_of_entry {absent : α} {v : Value} (h : Value.entry? name es = some v) :
    perhaps name es absent check = check v := by
  rw [perhaps, h]

lemma each_list_eq_ok {origin : Origin} {vs : List Value} {as : List α} :
    each origin check (.list vs) = .ok as ↔ vs.map check = as.map .ok := by
  rw [each, items, Checked.bind, all_eq_ok, indexed_eq_ok]

end Checked

/-- The values of a written part can be written.  What was written names no field twice, has short
integers exactly when the values have, and is read as the part with its compare values as they come
back exactly when a document keeps these values. -/
structure ComesBack {α : Type} (check : Value → Checked α) (restored : α)
    (conditions : List Condition) (nesting : ℕ) (j : Json) : Prop where
  written : ∀ c ∈ conditions, c.OnValues fun v => ∃ i, v.encode = .ok i
  namesOnce : j.NamesOnce
  isShort_iff : j.isShort = true ↔ ∀ c ∈ conditions, c.OnValues Value.Legible
  nesting_eq : j.nesting = nesting
  read_iff : check j.given = .ok restored ↔ ∀ c ∈ conditions, c.OnValues Value.Lossless

lemma Condition.comesBack {c : Condition} {level : ℕ} {j : Json}
    (hv : c.OnValues Value.WellFormed) (h : c.part level = .ok j) :
    ComesBack (condition .document) c.restored [c] c.nesting j := by
  obtain ⟨-, hj⟩ := part_eq_ok.mp h
  refine ⟨List.forall_mem_singleton.mpr (exists_encode c hj), namesOnce_toJson c hv hj, ?_,
    nesting_toJson c hj, ?_⟩
  · rw [isShort_toJson c hj, List.forall_mem_singleton, OnValues]
  · rw [condition_toJson c hv hj, List.forall_mem_singleton, OnValues]

/-- The parts of a list come back together exactly when each does. -/
lemma ComesBack.list {α : Type} {check : Value → Checked α} {restored : α → α}
    {conditions : α → List Condition} {nesting : α → ℕ} {as : List α} {js : List Json}
    (h : as.Forall₂ (fun a j => ComesBack check (restored a) (conditions a) (nesting a) j) js) :
    ComesBack (each .document check) (as.map restored) (as.flatMap conditions)
      (Value.deepest (as.map fun a => nesting a + 1)) (.list js) := by
  have hconditions : ∀ p : Condition → Prop,
      (∀ c ∈ as.flatMap conditions, p c) ↔ ∀ a ∈ as, ∀ c ∈ conditions a, p c := by
    intro p
    simp only [List.mem_flatMap]
    exact ⟨fun h a ha c hc => h c ⟨a, ha, hc⟩, fun h c ⟨a, ha, hc⟩ => h a ha c hc⟩
  constructor
  · intro c hc
    obtain ⟨a, ha, hc⟩ := List.mem_flatMap.mp hc
    obtain ⟨j, hj⟩ := Outcome.exists_of_forall₂ h a ha
    exact hj.written c hc
  · exact (Value.namesOnceItems_iff js).mpr
      (Outcome.forall_of_forall₂ h fun _ _ _ hj => hj.namesOnce)
  · rw [Json.isShort, Value.areShort_iff, hconditions]
    exact Outcome.forall_iff_of_forall₂ h fun a _ j hj => hj.isShort_iff
  · rw [Json.nesting, Value.nestingOfItems_eq]
    exact congrArg Value.deepest
      (Outcome.map_eq_map_of_forall₂ h fun a _ j hj => congrArg (· + 1) hj.nesting_eq)
  · have hread : js.map (fun j => check j.given) = as.map (fun a => .ok (restored a)) ↔
        ∀ a ∈ as, ∀ c ∈ conditions a, c.OnValues Value.Lossless :=
      Outcome.map_eq_map_iff h fun a _ j hj => hj.read_iff
    rw [Json.given_list, each_list_eq_ok, List.map_map, List.map_map, hconditions]
    exact hread

theorem Alternative.comesBack {a : Alternative} {j : Json}
    (hv : a.condition.OnValues Value.WellFormed) (h : a.toJson = .ok j) :
    ComesBack (alternative .document) a.restored [a.condition] a.nesting j := by
  obtain ⟨i, hi, h⟩ := Outcome.bind_eq_ok.mp h
  obtain rfl := Except.ok.inj h
  obtain ⟨hwritten, honce, hshort, hnesting, hread⟩ := Condition.comesBack hv hi
  refine ⟨hwritten, ?_, ?_, ?_, ?_⟩
  · simp [Json.NamesOnce, Json.NamesOnceFields, honce]
  · simp [Json.isShort, Json.areShortFields, hshort]
  · simp [Json.nesting, Json.nestingOfFields, hnesting, nesting]
  · rw [← hread, Json.given_object, alternative]
    simp only [fields, alternativeOf, map_eq_ok, and_eq_ok, under_eq_ok]
    rw [present_of_entry rfl, present_of_entry rfl]
    simp [Alternative.restored]

lemma optionalText_given (s : Option String) :
    Checked.optionalText (optionalText s).given = .ok s := by
  cases s <;> rfl

/-- The text for the other case is written and read as a text or as nothing. -/
lemma elseText_amendedJson {v : Value} (h : v = .null ∨ ∃ s, v = .text s) :
    ∃ o, amendedJson v = .ok (optionalText o) ∧ (o.map Value.text).getD .null = v := by
  rcases h with rfl | ⟨s, rfl⟩
  · exact ⟨none, rfl, rfl⟩
  · exact ⟨some s, rfl, rfl⟩

lemma namesOnce_optionalText (s : Option String) : (optionalText s).NamesOnce := by
  cases s <;> trivial

lemma isShort_optionalText (s : Option String) : (optionalText s).isShort = true := by
  cases s <;> rfl

lemma nesting_optionalText (s : Option String) : (optionalText s).nesting = 0 := by
  cases s <;> rfl

theorem Branch.comesBack {b : Branch} {j : Json} (hv : b.condition.OnValues Value.WellFormed)
    (htexts : b.HasTexts) (h : b.toJson = .ok j) :
    ComesBack (decision .document) (.branch b.restored) [b.condition] b.nesting j := by
  obtain ⟨i, hi, h⟩ := Outcome.bind_eq_ok.mp h
  obtain ⟨hwritten, honce, hshort, hnesting, hread⟩ := Condition.comesBack hv hi
  obtain ⟨o, ho, helse⟩ := elseText_amendedJson htexts
  rw [ho] at h
  obtain rfl := Except.ok.inj h
  refine ⟨hwritten, ?_, ?_, ?_, ?_⟩
  · simp [Json.NamesOnce, Json.NamesOnceFields, honce, namesOnce_optionalText]
  · simp [Json.isShort, Json.areShortFields, hshort, isShort_optionalText]
  · simp [Json.nesting, Json.nestingOfFields, hnesting, nesting_optionalText, nesting]
  · rw [← hread, Json.given_object, decision, tagged_map_eq_ok rfl (by decide), if_pos rfl]
    simp only [branch, branchOf, map_eq_ok, and_eq_ok, under_eq_ok]
    rw [present_of_entry rfl, present_of_entry rfl, perhaps_of_entry rfl]
    simp [Branch.restored, optionalText_given, ← helse]

/-- The condition without a text as it is written, or its absence. -/
def danglingJson : Option Condition → Except WriteError Json
  | none => .ok .null
  | some d => d.part levelsOfDecision

lemma Chain.toJson_eq (c : Chain) : c.toJson = (do
    let alternatives ← c.alternatives.mapM Alternative.toJson
    let dangling ← danglingJson c.dangling
    .ok (.object [("type", .text "chain"), ("branches", .list alternatives),
      ("else_text", optionalText c.elseText), ("dangling", dangling)])) := by
  rw [Chain.toJson]
  cases c.dangling <;> rfl

/-- A condition is never given as null. -/
lemma condition_null {c : Condition} : condition .document .null ≠ .ok c := by
  simp [condition, tagged, fault]

/-- The condition without a text comes back like any other, and so does its absence. -/
lemma comesBack_dangling {o : Option Condition} {j : Json}
    (hv : ∀ c ∈ o, c.OnValues Value.WellFormed) (h : danglingJson o = .ok j) :
    ComesBack (optionalCondition .document) (o.map Condition.restored) o.toList
      (Value.deepest (o.toList.map Condition.nesting)) j := by
  cases o with
  | none =>
    obtain rfl : Json.null = j := Except.ok.inj h
    exact ⟨List.forall_mem_nil _, trivial, iff_of_true rfl (List.forall_mem_nil _), rfl,
      iff_of_true rfl (List.forall_mem_nil _)⟩
  | some d =>
    obtain ⟨hwritten, honce, hshort, hnesting, hread⟩ := Condition.comesBack (hv d rfl) h
    refine ⟨hwritten, honce, hshort, ?_, ?_⟩
    · simp [hnesting, Value.deepest]
    rw [Option.toList_some, ← hread, optionalCondition.eq_def]
    split
    · next hnull =>
      rw [hnull]
      exact iff_of_false (by simp) condition_null
    · simp [map_eq_ok]

theorem Chain.comesBack {c : Chain} {j : Json}
    (hv : ∀ d ∈ c.conditions, d.OnValues Value.WellFormed) (h : c.toJson = .ok j) :
    ComesBack (decision .document) (.chain c.restored) c.conditions c.nesting j := by
  rw [Chain.toJson_eq] at h
  obtain ⟨js, hjs, h⟩ := Outcome.bind_eq_ok.mp h
  obtain ⟨i, hi, h⟩ := Outcome.bind_eq_ok.mp h
  obtain rfl := Except.ok.inj h
  have halternatives : ComesBack (each .document (alternative .document))
      (c.alternatives.map Alternative.restored) (c.alternatives.flatMap fun a => [a.condition])
      (Value.deepest (c.alternatives.map fun a => a.nesting + 1)) (.list js) :=
    ComesBack.list <| Outcome.forall₂_imp_of_mem (Outcome.mapM_eq_ok.mp hjs) fun a ha j hj =>
      Alternative.comesBack (hv _ (List.mem_append_left _ (List.mem_map_of_mem ha))) hj
  have hdangling := comesBack_dangling
    (fun d hd => hv d (List.mem_append_right _ (Option.mem_toList.mpr hd))) hi
  have hconditions : c.conditions =
      (c.alternatives.flatMap fun a => [a.condition]) ++ c.dangling.toList := by
    rw [conditions, List.map_eq_flatMap]
  constructor
  · rw [hconditions]
    exact List.forall_mem_append.mpr ⟨halternatives.written, hdangling.written⟩
  · have honce := halternatives.namesOnce
    rw [Json.NamesOnce] at honce
    simp [Json.NamesOnce, Json.NamesOnceFields, hdangling.namesOnce, namesOnce_optionalText, honce]
  · rw [hconditions, List.forall_mem_append, ← halternatives.isShort_iff, ← hdangling.isShort_iff]
    simp [Json.isShort, Json.areShortFields, isShort_optionalText]
  · have hlist := halternatives.nesting_eq
    rw [Json.nesting] at hlist
    simp only [Json.nesting, Json.nestingOfFields, hlist, hdangling.nesting_eq,
      nesting_optionalText, nesting]
    omega
  · rw [hconditions, List.forall_mem_append, ← halternatives.read_iff, ← hdangling.read_iff,
      Json.given_object, decision, tagged_map_eq_ok rfl (by decide), if_neg (by decide)]
    simp only [chain, chainOf, map_eq_ok, and_eq_ok, under_eq_ok]
    rw [perhaps_of_entry rfl, perhaps_of_entry rfl, perhaps_of_entry rfl]
    simp [Chain.restored, optionalText_given]

theorem Decision.comesBack {d : Decision} {j : Json}
    (hv : ∀ c ∈ d.conditions, c.OnValues Value.WellFormed)
    (htexts : (Segment.decision d).HasTexts) (h : d.toJson = .ok j) :
    ComesBack (decision .document) d.restored d.conditions d.nesting j := by
  cases d with
  | branch b => exact Branch.comesBack (hv _ (List.mem_singleton_self _)) htexts h
  | chain c => exact Chain.comesBack hv h

theorem Segment.comesBack {s : Segment} {j : Json}
    (hv : ∀ c ∈ s.conditions, c.OnValues Value.WellFormed) (htexts : s.HasTexts)
    (h : s.toJson = .ok j) :
    ComesBack (Checked.segment .document) s.restored s.conditions s.nesting j := by
  cases s with
  | literal text =>
    obtain rfl := Except.ok.inj h
    refine ⟨List.forall_mem_nil _, ?_, iff_of_true rfl (List.forall_mem_nil _), rfl, ?_⟩
    · simp [Json.NamesOnce, Json.NamesOnceFields]
    · rw [Json.given_object, Checked.segment, tagged_map_eq_ok rfl (by decide), if_pos rfl]
      exact iff_of_true rfl (List.forall_mem_nil _)
  | decision d =>
    obtain ⟨i, hi, rfl⟩ := Outcome.map_eq_ok.mp h
    obtain ⟨hwritten, honce, hshort, hnesting, hread⟩ := Decision.comesBack hv htexts hi
    refine ⟨hwritten, ?_, ?_, ?_, ?_⟩
    · simp [Json.NamesOnce, Json.NamesOnceFields, honce]
    · simp [Json.isShort, Json.areShortFields, hshort, conditions]
    · simp [Json.nesting, Json.nestingOfFields, hnesting, nesting]
    · rw [conditions, ← hread, Json.given_object, Checked.segment, tagged_map_eq_ok rfl (by decide),
        if_neg (by decide)]
      simp only [required, map_eq_ok, under_eq_ok]
      rw [present_of_entry rfl]
      simp [restored]

/-- **A template that comes back.** -/
theorem Template.comesBack {t : Template} {j : Json}
    (hv : ∀ c ∈ t.conditions, c.OnValues Value.WellFormed) (htexts : ∀ s ∈ t.segments, s.HasTexts)
    (h : t.toJson = .ok j) :
    ComesBack (template .document) t.restored t.conditions t.nesting j := by
  obtain ⟨js, hjs, rfl⟩ := Outcome.map_eq_ok.mp h
  have hsegments : ComesBack (each .document (Checked.segment .document))
      (t.segments.map Segment.restored) t.conditions
      (Value.deepest (t.segments.map fun s => s.nesting + 1)) (.list js) :=
    ComesBack.list <| Outcome.forall₂_imp_of_mem (Outcome.mapM_eq_ok.mp hjs) fun s hs j hj =>
      Segment.comesBack (fun c hc => hv c (List.mem_flatMap.mpr ⟨s, hs, hc⟩)) (htexts s hs) hj
  refine ⟨hsegments.written, ?_, ?_, ?_, ?_⟩
  · have honce := hsegments.namesOnce
    rw [Json.NamesOnce] at honce
    simp [Json.NamesOnce, Json.NamesOnceFields, honce]
  · rw [← hsegments.isShort_iff]
    simp [Json.isShort, Json.areShortFields]
  · have hlist := hsegments.nesting_eq
    rw [Json.nesting] at hlist
    simp [Json.nesting, Json.nestingOfFields, hlist, nesting]
  · rw [← hsegments.read_iff, Json.given_object, template]
    simp only [fields, Checked.optional, map_eq_ok, under_eq_ok]
    rw [perhaps_of_entry rfl]
    simp [restored]

/-! ## What can be written -/

/-- What keeps no condition from being written as a part of a document. -/
structure Condition.Writable (c : Condition) : Prop where
  storable : c.OnValues Value.Storable
  sortable : c.OnValues Value.Sortable
  nesting_le : c.nesting ≤ Template.maxNesting

lemma Condition.Writable.exists_part {c : Condition} (h : c.Writable) {level : ℕ}
    (hlevel : level ≤ levelsOfAlternative) : ∃ j, c.part level = .ok j := by
  have hvalues : ∀ v ∈ c.compareValues, ∃ i, v.encode = .ok i := fun v hv =>
    Value.encode_of_storable (h.storable v hv) (h.sortable v hv)
  obtain ⟨j, hj⟩ := exists_toJson c hvalues
  have hlevels : level + c.nesting < maxLevels :=
    (Nat.add_le_add hlevel h.nesting_le).trans_lt (by decide)
  exact ⟨j, part_eq_ok.mpr ⟨writeError?_eq_none c hlevels hvalues, hj⟩⟩

lemma Alternative.exists_toJson {a : Alternative} (h : a.condition.Writable) :
    ∃ j, a.toJson = .ok j := by
  obtain ⟨i, hi⟩ := h.exists_part le_rfl
  exact ⟨_, Outcome.bind_eq_ok.mpr ⟨i, hi, rfl⟩⟩

lemma Branch.exists_toJson {b : Branch} (h : b.condition.Writable) (htexts : b.HasTexts) :
    ∃ j, b.toJson = .ok j := by
  obtain ⟨i, hi⟩ : ∃ i, b.condition.part levelsOfDecision = .ok i := h.exists_part (by decide)
  obtain ⟨o, ho, -⟩ := elseText_amendedJson htexts
  rw [Branch.toJson, hi, ho]
  exact ⟨_, rfl⟩

lemma Chain.exists_toJson {c : Chain} (h : ∀ d ∈ c.conditions, d.Writable) :
    ∃ j, c.toJson = .ok j := by
  obtain ⟨js, hjs⟩ := Outcome.exists_forall₂ fun a (ha : a ∈ c.alternatives) =>
    Alternative.exists_toJson (h _ (List.mem_append_left _ (List.mem_map_of_mem ha)))
  obtain ⟨i, hi⟩ : ∃ i, danglingJson c.dangling = .ok i := by
    cases hd : c.dangling with
    | none => exact ⟨_, rfl⟩
    | some d => exact (h d (by simp [conditions, hd])).exists_part (by decide)
  rw [Chain.toJson_eq, Outcome.mapM_eq_ok.mpr hjs, hi]
  exact ⟨_, rfl⟩

lemma Segment.exists_toJson {s : Segment} (h : ∀ c ∈ s.conditions, c.Writable)
    (htexts : s.HasTexts) : ∃ j, s.toJson = .ok j := by
  cases s with
  | literal text => exact ⟨_, rfl⟩
  | decision d =>
    have hd : ∃ j, d.toJson = .ok j := by
      cases d with
      | branch b => exact Branch.exists_toJson (h _ (List.mem_singleton_self _)) htexts
      | chain c => exact Chain.exists_toJson h
    obtain ⟨j, hj⟩ := hd
    exact ⟨_, Outcome.map_eq_ok.mpr ⟨j, hj, rfl⟩⟩

/-- A template can be written when its conditions can. -/
theorem Template.exists_toJson {t : Template} (h : ∀ c ∈ t.conditions, c.Writable)
    (htexts : ∀ s ∈ t.segments, s.HasTexts) : ∃ j, t.toJson = .ok j := by
  obtain ⟨js, hjs⟩ := Outcome.exists_forall₂ fun s (hs : s ∈ t.segments) =>
    Segment.exists_toJson (fun c hc => h c (List.mem_flatMap.mpr ⟨s, hs, hc⟩)) (htexts s hs)
  exact ⟨_, Outcome.map_eq_ok.mpr ⟨js, Outcome.mapM_eq_ok.mpr hjs, rfl⟩⟩

/-- No condition is nested deeper than the document it stands in. -/
lemma Segment.nesting_le {s : Segment} {c : Condition} (hc : c ∈ s.conditions) :
    c.nesting ≤ s.nesting := by
  cases s with
  | literal text => simp [conditions] at hc
  | decision d =>
    cases d with
    | branch b =>
      obtain rfl := List.mem_singleton.mp hc
      simp only [nesting, Decision.nesting, Branch.nesting]
      omega
    | chain chain =>
      simp only [nesting, Decision.nesting, Chain.nesting]
      rcases List.mem_append.mp hc with hc | hc
      · obtain ⟨a, ha, rfl⟩ := List.mem_map.mp hc
        have := Value.deepest_le.mp le_rfl (a.nesting + 1)
          (List.mem_map_of_mem (f := fun a => a.nesting + 1) ha)
        rw [Alternative.nesting] at this
        omega
      · have := Value.deepest_le.mp le_rfl c.nesting (List.mem_map_of_mem hc)
        omega

lemma Template.nesting_le {t : Template} {c : Condition} (hc : c ∈ t.conditions) :
    c.nesting ≤ t.nesting := by
  obtain ⟨s, hs, hc⟩ := List.mem_flatMap.mp hc
  have hsegment := Segment.nesting_le hc
  have := Value.deepest_le.mp le_rfl (s.nesting + 1)
    (List.mem_map_of_mem (f := fun s => s.nesting + 1) hs)
  rw [nesting]
  omega

end QueryTemplate
