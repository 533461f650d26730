import QueryTemplate.Condition.Factory
import QueryTemplate.Document.Reader
import QueryTemplate.Proofs.Document.Checked
import QueryTemplate.Proofs.Evaluation.Failure
import QueryTemplate.Template.Format

/-!
# What evaluating a template ends with

However a template was made, its decisions stand for texts.  So for a binding taken from a map its
evaluation ends with a text or with an error of its first decision that fails, and that error is a
missing parameter unless a comparison has no answer.
-/

namespace QueryTemplate

/-! ## Templates that were checked -/

/-- A part that may be compiled: its texts and conditions were checked when it was made. -/
inductive Part.Authored : Part → Prop where
  | text (s : String) : Authored (.text s)
  | clause {text elseText : Value} {c : Draft} {br : Branch}
      (made : Branch.make text c elseText = .ok br) : Authored (.branch br)
  | otherwise {br : Branch} (made : Authored (.branch br)) (s : String) :
      Authored (.branch (br.otherwise (.text s)))
  | chain (c : Chain) : Authored (.chain c)
  | builder (c : ChainBuilder) : Authored (.builder c)

/-- A template that was compiled from checked parts, or read from a document or a value. -/
inductive Template.Validated : Template → Prop where
  | parts {ps : List Part} {t : Template} (authored : ∀ p ∈ ps, p.Authored)
      (compiled : (Template.ofParts ps).outcome = .ok t) : Validated t
  | format {source : String} {units : List (String × Part)} {t : Template}
      (authored : ∀ u ∈ units, u.2.Authored)
      (compiled : (Template.ofFormat source units).outcome = .ok t) : Validated t
  | document {source : String} {t : Template} (read : Template.ofDocument source = .ok t) :
      Validated t
  | value {v : Value} {t : Template} (read : Template.ofValue v = .ok t) : Validated t

/-- The text for the other case is a text or nothing. -/
def Branch.HasTexts (br : Branch) : Prop :=
  br.elseText = .null ∨ ∃ s, br.elseText = .text s

/-- Whatever the segment stands for is a text. -/
def Segment.HasTexts : Segment → Prop
  | .literal _ | .decision (.chain _) => True
  | .decision (.branch br) => br.HasTexts

lemma Checked.hasTexts_of_branchOf {condition : Checked Condition} {text : Checked String}
    {elseText : Checked (Option String)} {br : Branch}
    (h : Checked.branchOf condition text elseText = .ok br) : br.HasTexts := by
  obtain ⟨⟨c, s, o⟩, -, rfl⟩ := Checked.map_eq_ok.mp h
  cases o with
  | none => exact .inl rfl
  | some s => exact .inr ⟨s, rfl⟩

lemma Checked.hasTexts_of_segment {origin : Origin} {v : Value} {s : Segment}
    (h : Checked.segment origin v = .ok s) : s.HasTexts := by
  obtain ⟨_, es, tag, rfl, -, -, h⟩ := Checked.tagged_eq_ok.mp h
  split_ifs at h
  · obtain ⟨_, -, rfl⟩ := Checked.map_eq_ok.mp h
    trivial
  · obtain ⟨d, hd, rfl⟩ := Checked.map_eq_ok.mp h
    obtain ⟨w, -, hw⟩ := Checked.required_eq_ok.mp hd
    obtain ⟨_, es, tag, rfl, -, -, hd⟩ := Checked.tagged_eq_ok.mp hw
    split_ifs at hd
    · obtain ⟨br, hbr, rfl⟩ := Checked.map_eq_ok.mp hd
      exact Checked.hasTexts_of_branchOf hbr
    · obtain ⟨_, -, rfl⟩ := Checked.map_eq_ok.mp hd
      trivial

lemma Checked.hasTexts_of_template {origin : Origin} {v : Value} {t : Template}
    (h : Checked.template origin v = .ok t) : ∀ s ∈ t.segments, s.HasTexts := by
  obtain ⟨_, es, rfl, h⟩ := Checked.fields_eq_ok.mp h
  obtain ⟨ss, hss, rfl⟩ := Checked.map_eq_ok.mp h
  rcases Checked.optional_eq_ok.mp hss with ⟨-, rfl⟩ | ⟨w, -, hw⟩
  · simp
  · obtain ⟨xs, -, hx⟩ := Checked.bind_eq_ok.mp hw
    have hs := (Checked.indexed_eq_ok 0).mp (Checked.all_eq_ok.mp hx)
    intro s hm
    have hm : Checked.ok s ∈ xs.map (Checked.segment origin) := hs ▸ List.mem_map_of_mem hm
    obtain ⟨x, -, hx⟩ := List.mem_map.mp hm
    exact Checked.hasTexts_of_segment hx

lemma Part.Authored.hasTexts {p : Part} (h : p.Authored) {s : Segment}
    (hs : p.segment.outcome = .ok s) : s.HasTexts := by
  cases h with
  | text =>
    obtain rfl : Segment.literal _ = s := by simpa [Part.segment, Traced.ok] using hs
    trivial
  | clause made =>
    obtain rfl : Segment.decision (.branch _) = s := by simpa [Part.segment, Traced.ok] using hs
    exact Checked.hasTexts_of_branchOf made
  | otherwise _ text =>
    obtain rfl : Segment.decision (.branch _) = s := by simpa [Part.segment, Traced.ok] using hs
    exact .inr ⟨text, rfl⟩
  | chain =>
    obtain rfl : Segment.decision (.chain _) = s := by simpa [Part.segment, Traced.ok] using hs
    trivial
  | builder c =>
    rw [Part.segment] at hs
    cases hb : c.build with
    | error e => simp [hb, Traced.error] at hs
    | ok chain =>
      simp only [hb] at hs
      split at hs
      · simp [Traced.error] at hs
      · obtain rfl : Segment.decision (.chain chain) = s := by simpa using hs
        trivial

lemma Part.hasTexts_of_segments {ps : List Part} {ss : List Segment} (h : ∀ p ∈ ps, p.Authored)
    (hss : (Part.segments ps).outcome = .ok ss) : ∀ s ∈ ss, s.HasTexts := by
  induction ps generalizing ss with
  | nil =>
    obtain rfl : [] = ss := by simpa [Part.segments, Traced.ok] using hss
    simp
  | cons p ps ih =>
    obtain ⟨hp, hps⟩ := List.forall_mem_cons.mp h
    obtain ⟨s, hs, hrest⟩ := Traced.bind_eq_ok.mp hss
    obtain ⟨rest, hr, hcons⟩ := Traced.bind_eq_ok.mp hrest
    obtain rfl : s :: rest = ss := by simpa [Traced.ok] using hcons
    exact List.forall_mem_cons.mpr ⟨hp.hasTexts hs, ih hps hr⟩

lemma Segment.hasTexts_cons {s : Segment} {ss : List Segment} (hs : s.HasTexts)
    (h : ∀ r ∈ ss, r.HasTexts) : ∀ r ∈ s.cons ss, r.HasTexts := by
  fun_cases Segment.cons s ss with
  | case1 s t rest => exact List.forall_mem_cons.mpr ⟨trivial, (List.forall_mem_cons.mp h).2⟩
  | case2 => exact h
  | case3 | case4 => exact List.forall_mem_cons.mpr ⟨hs, h⟩

lemma Segment.hasTexts_of_normalize {ss : List Segment} (h : ∀ s ∈ ss, s.HasTexts) :
    ∀ s ∈ Segment.normalize ss, s.HasTexts := by
  induction ss with
  | nil => simp [Segment.normalize]
  | cons s ss ih =>
    obtain ⟨hs, hss⟩ := List.forall_mem_cons.mp h
    exact Segment.hasTexts_cons hs (ih hss)

lemma Template.hasTexts_of_parts {ps : List Part} {t : Template} (h : ∀ p ∈ ps, p.Authored)
    (ht : (Template.ofParts ps).outcome = .ok t) : ∀ s ∈ t.segments, s.HasTexts := by
  obtain ⟨ss, hss, hn⟩ := Traced.bind_eq_ok.mp ht
  obtain rfl : Template.mk (Segment.normalize ss) = t := by simpa [Traced.ok] using hn
  exact Segment.hasTexts_of_normalize (Part.hasTexts_of_segments h hss)

/-- The parts of a format are its own texts and units. -/
lemma Part.authored_of_format {source : String} {units : List (String × Part)} {ps : List Part}
    (h : ∀ u ∈ units, u.2.Authored) (hps : Part.ofFormat source units = .ok ps) :
    ∀ p ∈ ps, p.Authored := by
  rw [Part.ofFormat] at hps
  split_ifs at hps with hr
  · simp at hps
  obtain ⟨pieces, -, hps⟩ := Outcome.bind_eq_ok.mp hps
  obtain ⟨qs, hqs, hps⟩ := Outcome.bind_eq_ok.mp hps
  dsimp only at hps
  split_ifs at hps
  obtain rfl : qs = ps := by simpa using hps
  intro p hp
  obtain ⟨piece, -, hpiece⟩ := Outcome.exists_of_mem_mapM hqs hp
  cases piece with
  | character c =>
    obtain rfl : Part.text (String.singleton c) = p := by simpa [FormatPiece.part] using hpiece
    exact .text _
  | field name qualified =>
    rw [FormatPiece.part] at hpiece
    split_ifs at hpiece
    cases hu : units.find? (·.1 == String.ofList name) with
    | none => simp [hu] at hpiece
    | some u =>
      obtain rfl : u.2 = p := by simpa [hu] using hpiece
      exact h u (List.mem_of_find?_eq_some hu)

theorem Template.Validated.hasTexts {t : Template} (h : t.Validated) :
    ∀ s ∈ t.segments, s.HasTexts := by
  cases h with
  | parts ha hc => exact Template.hasTexts_of_parts ha hc
  | format ha hc =>
    obtain ⟨ps, hps, ht⟩ := Traced.bind_eq_ok.mp hc
    exact Template.hasTexts_of_parts (Part.authored_of_format ha hps) ht
  | @document source t read =>
    rw [Template.ofDocument] at read
    cases hj : Json.read .document source with
    | error e => simp [hj] at read
    | ok j =>
      simp only [hj] at read
      split_ifs at read
      exact Checked.hasTexts_of_template (Checked.toExcept_eq_ok.mp read)
  | value read => exact Checked.hasTexts_of_template (Checked.toExcept_eq_ok.mp read)

/-! ## What decisions stand for -/

lemma Branch.text_of_resolve {br : Branch} {b : Binding} {v : Value} (h : br.HasTexts)
    (hv : br.resolve b = .ok v) : ∃ s, v = .text s := by
  obtain ⟨holds, -, rfl⟩ := Outcome.map_eq_ok.mp hv
  split_ifs with h₁ h₂
  · exact ⟨_, rfl⟩
  · rcases h with h | ⟨s, h⟩
    · simp [h, Value.isTruthy] at h₂
    · exact ⟨s, h⟩
  · exact ⟨_, rfl⟩

lemma Segment.texts_of_resolveAll {b : Binding} {ss : List Segment} {vs : List Value}
    (h : ∀ s ∈ ss, s.HasTexts) (hvs : (Segment.resolveAll b ss).outcome = .ok vs) :
    ∀ v ∈ vs, ∃ s, v = .text s := by
  induction ss generalizing vs with
  | nil =>
    obtain rfl : [] = vs := by simpa [Segment.resolveAll, Traced.ok] using hvs
    simp
  | cons s ss ih =>
    obtain ⟨hs, hss⟩ := List.forall_mem_cons.mp h
    cases s with
    | literal text =>
      obtain ⟨rest, hr, hcons⟩ := Traced.bind_eq_ok.mp hvs
      obtain rfl : .text text :: rest = vs := by simpa [Traced.ok] using hcons
      exact List.forall_mem_cons.mpr ⟨⟨text, rfl⟩, ih hss hr⟩
    | decision d =>
      obtain ⟨v, hv, hrest⟩ := Traced.bind_eq_ok.mp hvs
      obtain ⟨rest, hr, hcons⟩ := Traced.bind_eq_ok.mp hrest
      obtain rfl : v :: rest = vs := by simpa [Traced.ok] using hcons
      refine List.forall_mem_cons.mpr ⟨?_, ih hss hr⟩
      cases d with
      | branch br => exact Branch.text_of_resolve hs hv
      | chain c =>
        rw [Decision.resolve] at hv
        cases hc : c.choose b with
        | error e => simp [hc, Traced.error] at hv
        | ok choice =>
          obtain rfl : .text choice.text = v := by simpa [hc] using hv
          exact ⟨_, rfl⟩

lemma joinTexts_of_texts {vs : List Value} (h : ∀ v ∈ vs, ∃ s, v = .text s) (index : ℕ) :
    ∃ s, joinTexts index vs = .ok s := by
  induction vs generalizing index with
  | nil => exact ⟨"", rfl⟩
  | cons v vs ih =>
    obtain ⟨⟨s, rfl⟩, hvs⟩ := List.forall_mem_cons.mp h
    obtain ⟨rest, hr⟩ := ih hvs (index + 1)
    exact ⟨s ++ rest, by rw [joinTexts, hr]; rfl⟩

lemma joinTexts_ne_eval {e : EvalError} : ∀ (index : ℕ) (vs : List Value),
    joinTexts index vs ≠ .error (.eval e) := by
  intro index vs
  fun_induction joinTexts index vs with
  | case1 => simp
  | case2 index s vs ih => exact fun h => ih (Outcome.map_eq_error.mp h)
  | case3 => simp

namespace Template

/-- A template whose decisions stand for texts has a text, or its first decision that fails says
why not. -/
theorem eval_of_hasTexts {t : Template} (h : ∀ s ∈ t.segments, s.HasTexts) (b : Binding) :
    (∃ s, (t.eval b).outcome = .ok s) ∨
      ∃ e, t.Fails b e ∧ (t.eval b).outcome = .error (.eval e) := by
  cases hv : (Segment.resolveAll b t.segments).outcome with
  | error e =>
    refine .inr ⟨e, (Segment.resolveAll_eq_error _).mp hv, ?_⟩
    exact Traced.bind_eq_error.mpr (.inl (by simp [Traced.mapError, hv, Except.mapError]))
  | ok vs =>
    obtain ⟨s, hs⟩ := joinTexts_of_texts (Segment.texts_of_resolveAll h hv) 0
    refine .inl ⟨Text.tidy s, ?_⟩
    refine Traced.bind_eq_ok.mpr ⟨vs, by simp [Traced.mapError, hv, Except.mapError], ?_⟩
    simp [Traced.lift, hs, Except.map]

/-- The error of a template is that of its first decision that fails. -/
theorem eval_eq_error {t : Template} {b : Binding} {e : EvalError} :
    (t.eval b).outcome = .error (.eval e) ↔ t.Fails b e := by
  rw [Fails, ← Segment.resolveAll_eq_error, eval, Traced.bind_eq_error]
  rw [Traced.mapError]
  rcases (Segment.resolveAll b t.segments).outcome with e' | vs
  · simp [Except.mapError]
  · simp only [Except.mapError, reduceCtorEq, false_or, iff_false]
    rintro ⟨ws, -, hw⟩
    rw [Traced.lift, Outcome.map_eq_error] at hw
    exact joinTexts_ne_eval 0 ws hw

/-- Evaluating a validated template for a map ends with a text or a missing parameter, unless its
first decision that fails does so otherwise: it gets to a comparison without an answer or to items
that are too many to count, or it is an incomplete chain whose condition cannot be reported.  In any
case the error is that of this decision. -/
theorem evaluation_ends {t : Template} (ht : t.Validated) (readOnly : Bool)
    (es : List (Value × Value)) :
    (((∃ s, (t.evalWith (.map readOnly es)).outcome = .ok s) ∨
        ∃ name, (t.evalWith (.map readOnly es)).outcome = .error (.eval (.missingParameter name))) ↔
      ¬ t.Fails ⟨es⟩ .undefinedComparison ∧ ¬ t.Fails ⟨es⟩ .tooManyItems ∧
        ∀ e, ¬ t.Fails ⟨es⟩ (.noForm e)) ∧
    ∀ e, t.Fails ⟨es⟩ e ↔ (t.evalWith (.map readOnly es)).outcome = .error (.eval e) := by
  have hw : t.evalWith (.map readOnly es) = t.eval ⟨es⟩ := rfl
  rw [hw]
  refine ⟨⟨?_, fun ⟨hcomparison, hmany, hform⟩ => ?_⟩, fun e => eval_eq_error.symm⟩
  · simp only [← eval_eq_error]
    rintro (⟨s, hs⟩ | ⟨name, hs⟩) <;> simp [hs]
  · rcases eval_of_hasTexts ht.hasTexts ⟨es⟩ with h | ⟨e, hfails, h⟩
    · exact .inl h
    · cases e with
      | missingParameter name => exact .inr ⟨name, h⟩
      | undefinedComparison => exact absurd hfails hcomparison
      | tooManyItems => exact absurd hfails hmany
      | noForm e => exact absurd hfails (hform e)

/-- A text under the condition that a parameter is greater than a decimal that is no number. -/
def aboveNowhere : Template :=
  ⟨[.decision (.branch
    ⟨.compare "a" .gt (.number (.decimal (.nan false false 0 none))), "x", .null⟩)]⟩

lemma aboveNowhere_validated : aboveNowhere.Validated := by
  have made : Branch.make (.text "x")
      (.built (.compare "a" .gt (.number (.decimal (.nan false false 0 none))))) .null =
      .ok ⟨.compare "a" .gt (.number (.decimal (.nan false false 0 none))), "x", .null⟩ := rfl
  exact .parts (List.forall_mem_singleton.mpr (.clause made)) rfl

/-- The condition has no answer once the parameter is a number. -/
theorem evaluation_ends_nowhere :
    aboveNowhere.Validated ∧
      (aboveNowhere.evalWith (.map false [(.text "a", .int 1)])).outcome =
        .error (.eval .undefinedComparison) := by
  refine ⟨aboveNowhere_validated, ((evaluation_ends aboveNowhere_validated false _).2 _).mp ?_⟩
  refine ⟨[], _, [], rfl, by simp,
    .compare (v := .int 1) (e := .undefined .undefined) rfl (.order rfl ?_)⟩
  exact ⟨_, _, rfl, rfl, .inr rfl, .inr rfl⟩

/-- So a map may make a validated template end with neither a text nor a missing parameter. -/
theorem not_always_text_or_missing :
    ¬ ∀ t : Template, t.Validated → ∀ (readOnly : Bool) (es : List (Value × Value)),
      (∃ s, (t.evalWith (.map readOnly es)).outcome = .ok s) ∨
        ∃ name, (t.evalWith (.map readOnly es)).outcome =
          .error (.eval (.missingParameter name)) := by
  intro h
  have hn : (aboveNowhere.evalWith (.map false [(.text "a", .int 1)])).outcome =
      .error (.eval .undefinedComparison) := rfl
  rcases h aboveNowhere aboveNowhere_validated false [(.text "a", .int 1)] with ⟨s, hs⟩ | ⟨name, hs⟩
  · rw [hn] at hs
    simp at hs
  · rw [hn] at hs
    simp at hs

end Template

end QueryTemplate
