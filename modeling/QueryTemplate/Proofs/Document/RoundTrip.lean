import QueryTemplate.Proofs.Document.Template

/-!
# Round trip of templates

A template whose compare values have a form in documents is written, and its document is read as the
template again, sets frozen and maps writable.  This fails where the document is nested too deep,
where an integer has too many digits to be read, and where an offset of less than a second is lost
in the text of a time, and nowhere else.
-/

namespace QueryTemplate.Template

variable {t : Template} {layout : Json.Layout} {s : String}

/-- Every compare value of the template has the property. -/
def OnValues (p : Value → Prop) (t : Template) : Prop :=
  ∀ c ∈ t.conditions, c.OnValues p

/-- A document is the text of the JSON of its template. -/
lemma document_eq_ok : t.document layout = .ok s ↔ ∃ j, t.toJson = .ok j ∧ j.render layout = s :=
  Outcome.map_eq_ok

/-- **When a document is read back.** It is no deeper than it may be, and it keeps every compare
value, integers of too many digits not among them. -/
theorem ofDocument_render (hv : t.OnValues Value.WellFormed) (htexts : ∀ s ∈ t.segments, s.HasTexts)
    {j : Json} (h : t.toJson = .ok j) (layout : Json.Layout) :
    ofDocument (j.render layout) = .ok t.restored ↔
      t.nesting ≤ maxNesting ∧ t.OnValues Value.Legible ∧ t.OnValues Value.Lossless := by
  obtain ⟨-, honce, hshort, hnesting, hread⟩ := comesBack hv htexts h
  rw [ofDocument, Json.read_render honce layout, OnValues, ← hshort, OnValues, ← hread, ← hnesting]
  cases j.isShort with
  | false => simp [Json.ifShort]
  | true =>
    simp only [Json.ifShort_true, Json.nesting_degraded, true_and]
    split_ifs with hdepth
    · rw [Checked.toExcept_eq_ok, and_iff_right hdepth]
      rfl
    · simp [hdepth]

/-- A template of storable values is written when its document can be read. -/
lemma exists_toJson_of_legible (htexts : ∀ s ∈ t.segments, s.HasTexts)
    (hstorable : t.OnValues Value.Storable) (hlegible : t.OnValues Value.Legible)
    (hnesting : t.nesting ≤ maxNesting) : ∃ j, t.toJson = .ok j := by
  refine exists_toJson (fun c hc => ⟨hstorable c hc, fun v hv => ?_, ?_⟩) htexts
  · exact Value.sortable_of_legible (hstorable c hc v hv) (hlegible c hc v hv)
  · exact (nesting_le hc).trans hnesting

/-- **Round trip.** A template of storable values is written and read as the template again exactly
when its document is not too deep, its integers are short enough and no offset is lost. -/
theorem document_round_trip (t : Template) (hmade : t.OnValues Value.WellFormed)
    (htexts : ∀ s ∈ t.segments, s.HasTexts) (hstorable : t.OnValues Value.Storable)
    (layout : Json.Layout) :
    (∃ s, t.document layout = .ok s ∧ ofDocument s = .ok t.restored) ↔
      t.nesting ≤ maxNesting ∧ t.OnValues Value.Legible ∧ t.OnValues Value.CoarseOffsets := by
  have hlossless : t.OnValues Value.Lossless ↔ t.OnValues Value.CoarseOffsets :=
    forall₂_congr fun c hc => forall₂_congr fun v hv =>
      Value.lossless_iff_of_storable (hstorable c hc v hv)
  rw [← hlossless]
  constructor
  · rintro ⟨s, hs, hread⟩
    obtain ⟨j, hj, rfl⟩ := document_eq_ok.mp hs
    exact (ofDocument_render hmade htexts hj layout).mp hread
  · rintro ⟨hnesting, hlegible, hkept⟩
    obtain ⟨j, hj⟩ := exists_toJson_of_legible htexts hstorable hlegible hnesting
    exact ⟨j.render layout, document_eq_ok.mpr ⟨j, hj, rfl⟩,
      (ofDocument_render hmade htexts hj layout).mpr ⟨hnesting, hlegible, hkept⟩⟩

/-! ## Templates with one compare value -/

/-- A text under the condition that a parameter has the value. -/
def comparing (v : Value) : Template :=
  ⟨[.decision (.branch ⟨.compare "a" .eq v, "x", .null⟩)]⟩

lemma comparing_onValues {p : Value → Prop} {v : Value} : (comparing v).OnValues p ↔ p v := by
  simp [comparing, OnValues, conditions, Segment.conditions, Decision.conditions,
    Condition.OnValues, Condition.compareValues]

lemma comparing_hasTexts {v : Value} : ∀ s ∈ (comparing v).segments, s.HasTexts :=
  List.forall_mem_singleton.mpr (.inl rfl)

/-- The JSON of its condition. -/
def conditionJson (j : Json) : Json :=
  .object [("type", .text "compare"), ("name", .text "a"), ("op", .text "=="), ("value", j)]

/-- The JSON of such a template. -/
def comparingJson (j : Json) : Json :=
  .object [("segments", .list [.object [("type", .text "decision"),
    ("decision", .object [("type", .text "branch"), ("condition", conditionJson j),
      ("text", .text "x"), ("else_text", .null)])]])]

lemma namesOnce_comparingJson {j : Json} (h : j.NamesOnce) : (comparingJson j).NamesOnce := by
  simp [comparingJson, conditionJson, Json.NamesOnce, Json.NamesOnceItems, Json.NamesOnceFields, h]

lemma comparing_toJson {v : Value} {j : Json} (h : v.encode = .ok j)
    (hheight : levelsOfDecision + (conditionJson j).height ≤ maxLevels) :
    (comparing v).toJson = .ok (comparingJson j) := by
  have hj : (Condition.compare "a" .eq v).toJson = .ok (conditionJson j) := by
    rw [Condition.toJson, h]
    rfl
  have hpart : (Condition.compare "a" .eq v).part levelsOfDecision = .ok (conditionJson j) :=
    Condition.part_eq_ok.mpr ⟨Condition.writeError?_of_toJson (by simp) hj hheight, hj⟩
  rw [comparing, toJson, List.mapM_cons, Segment.toJson, Decision.toJson, Branch.toJson, hpart]
  rfl

/-- A price or none. -/
def offers : Value :=
  .set false [.number (.decimal (.finite false 150 (-2))), .text "free"]

lemma everywhere_offers {p : Value → Prop} (h : p offers)
    (hprice : p (.number (.decimal (.finite false 150 (-2))))) (hfree : p (.text "free")) :
    offers.Everywhere p := by
  refine .intro h fun w hw => ?_
  obtain rfl | rfl : w = .number (.decimal (.finite false 150 (-2))) ∨ w = .text "free" := by
    simpa [offers, Value.parts, Value.items?] using hw
  · exact (Value.everywhere_single rfl).mpr hprice
  · exact (Value.everywhere_single rfl).mpr hfree

lemma wellFormed_offers : offers.WellFormed := by
  have hprice : Decimal.InRange (.finite false 150 (-2)) := by decide
  refine everywhere_offers ⟨?_, ?_⟩ hprice trivial
  · simp
    decide
  · simp [Value.Apart]
    decide

theorem offers_round_trip :
    (∃ s, (comparing offers).document .compact = .ok s ∧
      ofDocument s = .ok (comparing offers).restored) ↔
      (comparing offers).nesting ≤ maxNesting ∧ (comparing offers).OnValues Value.Legible ∧
        (comparing offers).OnValues Value.CoarseOffsets :=
  document_round_trip (comparing offers) (comparing_onValues.mpr wellFormed_offers)
    comparing_hasTexts (comparing_onValues.mpr (everywhere_offers trivial trivial trivial)) .compact

/-- Noon at an offset of a millionth of a second. -/
def shiftedNoon : Moment :=
  ⟨⟨2020, 1, 1, by decide⟩, ⟨12, 0, 0, 0, by decide, some ⟨1, by decide⟩⟩⟩

/-- A moment that is written comes back at another offset. -/
theorem not_every_template_comes_back :
    ¬ ∀ t : Template, t.OnValues Value.WellFormed → (∀ s ∈ t.segments, s.HasTexts) →
      t.OnValues Value.Storable → ∀ layout, ∃ s, t.document layout = .ok s ∧
        ofDocument s = .ok t.restored := by
  intro h
  have hvalue : ∀ {p : Value → Prop}, p (.moment shiftedNoon) →
      (comparing (.moment shiftedNoon)).OnValues fun v => v.Everywhere p :=
    fun hp => comparing_onValues.mpr ((Value.everywhere_single rfl).mpr hp)
  have hmade : (comparing (.moment shiftedNoon)).OnValues Value.WellFormed := hvalue trivial
  obtain ⟨s, hs, hread⟩ := h _ hmade comparing_hasTexts (hvalue trivial) .compact
  obtain ⟨j, hj, rfl⟩ := document_eq_ok.mp hs
  obtain ⟨-, -, hlossless⟩ := (ofDocument_render hmade comparing_hasTexts hj .compact).mp hread
  have hcoarse : shiftedNoon.time.IsCoarse :=
    (Value.everywhere_single (v := .moment shiftedNoon) rfl).mp (comparing_onValues.mp hlossless)
  exact absurd (hcoarse _ rfl) (by decide)

end QueryTemplate.Template
