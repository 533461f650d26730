import QueryTemplate.Proofs.Document.Breaks

/-!
# Branches made at once and in steps

A branch is made at once from a text, a condition and a text for the other case, or in steps: from
its text and its condition first, and then amended with the text for the other case.  Made at once
everything is checked; an amended text is not.  So the two ways come to the same end exactly where
the amended text is a text or null, or where the branch is refused before it is amended
(`made_alike_iff`).
-/

namespace QueryTemplate

namespace Branch

/-- The branch made from a text and a condition, and then amended. -/
def makeInSteps (text : Value) (condition : Draft) (elseText : Value) : Checked Branch :=
  (make text condition .null).map (·.otherwise elseText)

/-- Both ways refuse their input with issues, or both make one branch, whose text for the other
case is a text or nothing. -/
inductive MadeAlike : Checked Branch → Checked Branch → Prop where
  | refused (is js : List Issue) : MadeAlike (.issues is) (.issues js)
  | made {br : Branch} (h : br.HasTexts) : MadeAlike (.ok br) (.ok br)

/-- The value can stand for the other case without a check. -/
def IsElseText (v : Value) : Prop :=
  v = .null ∨ ∃ s, v = .text s

/-! ## Checking the text for the other case -/

lemma optionalText_of_isElseText {v : Value} (h : IsElseText v) :
    ∃ o, Checked.optionalText v = .ok o ∧ (o.map Value.text).getD .null = v := by
  obtain rfl | ⟨s, rfl⟩ := h
  · exact ⟨none, rfl, rfl⟩
  · exact ⟨some s, rfl, rfl⟩

/-- The check of a text for the other case is never broken off. -/
lemma optionalText_ne_broken {v : Value} {e : DecodeError} :
    Checked.optionalText v ≠ .broken e := by
  rw [ne_eq, ← Checked.breakage?_eq_some, Checked.breakage?_optionalText]
  exact nofun

section Checks

variable {condition : Checked Condition} {text : Checked String} {o : Checked (Option String)}

/-- What breaks the check off, or is refused, does so whatever stands for the other case. -/
lemma branchOf_of_broken {e : DecodeError}
    (h : Checked.branchOf condition text (.ok none) = .broken e)
    (ho : ∀ e, o ≠ .broken e) : Checked.branchOf condition text o = .broken e := by
  cases condition <;> cases text <;> cases o <;>
    simp_all [Checked.branchOf, Checked.and, Checked.under, Checked.map]

lemma exists_issues_branchOf {is : List Issue}
    (h : Checked.branchOf condition text (.ok none) = .issues is)
    (ho : ∀ e, o ≠ .broken e) : ∃ js, Checked.branchOf condition text o = .issues js := by
  cases condition <;> cases text <;> cases o <;>
    simp_all [Checked.branchOf, Checked.and, Checked.under, Checked.map]

/-- A branch that is made without a text for the other case is made with any that passes its own
check, and refused with any other. -/
lemma branchOf_of_ok {br : Branch} (h : Checked.branchOf condition text (.ok none) = .ok br) :
    Checked.branchOf condition text o =
      (o.under (.field "else_text")).map fun s => br.otherwise ((s.map Value.text).getD .null) := by
  obtain ⟨⟨c, s, n⟩, hr, rfl⟩ := Checked.map_eq_ok.mp h
  obtain ⟨hc, hr⟩ := Checked.and_eq_ok.mp hr
  obtain ⟨hs, -⟩ := Checked.and_eq_ok.mp hr
  obtain rfl := Checked.under_eq_ok.mp hc
  obtain rfl := Checked.under_eq_ok.mp hs
  cases o <;> rfl

end Checks

variable {text v : Value} {c : Draft}

lemma hasTexts_of_make {br : Branch} (h : make text c v = .ok br) : br.HasTexts :=
  Checked.hasTexts_of_branchOf h

/-- A branch that can be made is alike both ways exactly when what it is amended with is a text or
null. -/
lemma madeAlike_iff_of_ok {br : Branch} (h : make text c .null = .ok br) :
    MadeAlike (make text c v) (makeInSteps text c v) ↔ IsElseText v := by
  have hsteps : makeInSteps text c v = .ok (br.otherwise v) := by
    rw [makeInSteps, h, Checked.map]
  rw [hsteps]
  constructor
  · generalize make text c v = once
    intro halike
    cases halike with
    | made htexts => exact htexts
  · intro hv
    obtain ⟨o, ho, hback⟩ := optionalText_of_isElseText hv
    have hmake : make text c v = .ok (br.otherwise v) := by
      rw [make, ho, branchOf_of_ok h]
      exact congrArg (fun w => Checked.ok (br.otherwise w)) hback
    rw [hmake]
    exact .made hv

/-! ## Templates of one branch -/

/-- The template whose only part is the branch. -/
def alone (br : Branch) : Template :=
  ⟨[.decision (.branch br)]⟩

/-- The template of the branch is evaluated to a text unless its condition fails, is written exactly
when its condition is, and comes back from its document unless this is too deep, holds an integer of
too many digits or loses a compare value. -/
structure Usable (br : Branch) : Prop where
  evaluates (b : Binding) : (∃ s, (br.alone.eval b).outcome = .ok s) ∨
    ∃ e, br.condition.eval b = .error e ∧ (br.alone.eval b).outcome = .error (.eval e)
  written : (∃ j, br.alone.toJson = .ok j) ↔ ∃ i, br.condition.part levelsOfDecision = .ok i
  comesBack (hv : br.condition.OnValues Value.WellFormed) {j : Json}
    (hj : br.alone.toJson = .ok j) (layout : Json.Layout) :
    Template.ofDocument (j.render layout) = .ok br.alone.restored ↔
      j.nesting ≤ Template.maxNesting ∧ br.condition.OnValues Value.Legible ∧
        br.condition.OnValues Value.Lossless

lemma alone_hasTexts {br : Branch} (h : br.HasTexts) : ∀ s ∈ br.alone.segments, s.HasTexts :=
  List.forall_mem_singleton.mpr h

lemma alone_onValues {br : Branch} {p : Value → Prop} :
    br.alone.OnValues p ↔ br.condition.OnValues p := by
  simp [alone, Template.OnValues, Template.conditions, Segment.conditions, Decision.conditions]

lemma alone_written {br : Branch} (h : br.HasTexts) :
    (∃ j, br.alone.toJson = .ok j) ↔ ∃ i, br.condition.part levelsOfDecision = .ok i := by
  obtain ⟨o, ho, -⟩ := elseText_amendedJson h
  rw [alone, Template.toJson, List.mapM_cons, Segment.toJson, Decision.toJson, Branch.toJson, ho]
  cases br.condition.part levelsOfDecision with
  | error e =>
    refine iff_of_false ?_ ?_
    · rintro ⟨j, hj⟩
      cases hj
    · rintro ⟨i, hi⟩
      cases hi
  | ok i => exact iff_of_true ⟨_, rfl⟩ ⟨i, rfl⟩

/-- Only its condition makes the template of a branch fail. -/
lemma eval_eq_error_of_alone {br : Branch} {b : Binding} {e : EvalError}
    (h : br.alone.Fails b e) : br.condition.eval b = .error e := by
  obtain ⟨before, s, after, hsplit, -, hs⟩ := h
  have hmem : s ∈ br.alone.segments := by rw [hsplit]; simp
  obtain rfl := List.mem_singleton.mp hmem
  exact Condition.eval_eq_error.mpr hs

/-- A branch with texts for both cases is usable. -/
lemma usable_of_hasTexts {br : Branch} (h : br.HasTexts) : br.Usable where
  evaluates b := by
    obtain hs | ⟨e, hfails, he⟩ := Template.eval_of_hasTexts (alone_hasTexts h) b
    · exact .inl hs
    · exact .inr ⟨e, eval_eq_error_of_alone hfails, he⟩
  written := alone_written h
  comesBack hv j hj layout := by
    rw [Template.ofDocument_render (alone_onValues.mpr hv) (alone_hasTexts h) hj, alone_onValues,
      alone_onValues, (Template.comesBack (alone_onValues.mpr hv) (alone_hasTexts h) hj).nesting_eq]

/-! ## The two ways -/

/-- **The two ways of making a branch.** They come to the same end exactly when no compare value of
the condition breaks the check off and, once text and condition are accepted, the other case is
given as a text or null.  A branch that is made at once is usable. -/
theorem made_alike_iff (text : Value) (c : Draft) (v : Value) :
    (MadeAlike (make text c v) (makeInSteps text c v) ↔
      (∀ e, make text c .null ≠ .broken e) ∧
        ((∃ br, make text c .null = .ok br) → IsElseText v)) ∧
    ∀ br, make text c v = .ok br → br.HasTexts ∧ br.Usable := by
  refine ⟨?_, fun br h => ⟨hasTexts_of_make h, usable_of_hasTexts (hasTexts_of_make h)⟩⟩
  cases h : make text c .null with
  | ok br => simp [madeAlike_iff_of_ok h]
  | issues is =>
    obtain ⟨js, hjs⟩ : ∃ js, make text c v = .issues js :=
      exists_issues_branchOf h fun _ => optionalText_ne_broken
    have halike : MadeAlike (make text c v) (makeInSteps text c v) := by
      rw [makeInSteps, hjs, h]
      exact .refused js is
    simp [halike]
  | broken e =>
    have he : make text c v = .broken e := branchOf_of_broken h fun _ => optionalText_ne_broken
    have hnot : ¬ MadeAlike (make text c v) (makeInSteps text c v) := by
      rw [he]
      exact nofun
    simp [hnot]

/-- A branch may be amended with a number, which it is not made with at once. -/
theorem not_always_made_alike :
    ¬ ∀ (text : Value) (c : Draft) (v : Value),
      (∀ e, make text c .null ≠ .broken e) → MadeAlike (make text c v) (makeInSteps text c v) := by
  intro h
  have hmake : make (.text "x") (.built (.hasParam ⟨"a", []⟩)) .null =
      .ok ⟨.hasParam ⟨"a", []⟩, "x", .null⟩ := rfl
  have halike := h (.text "x") (.built (.hasParam ⟨"a", []⟩)) (.int 5) (by simp [hmake])
  obtain hnull | ⟨s, hs⟩ := (madeAlike_iff_of_ok hmake).mp halike
  · cases hnull
  · cases hs

end Branch

end QueryTemplate
