import QueryTemplate.Engine.Fragment
import QueryTemplate.Proofs.Evaluation.Contract
import QueryTemplate.Proofs.Template.NormalForm

/-!
# The normal form keeps the meaning

A segment in front of others changes their text, and their engine text, by what it stands for alone
(`textOf_cons`, `engineTextOf_cons`).  Putting it in front of a normal form does the same, whether it
is joined with the literal behind it or dropped, so normalizing changes neither text.

A branch may be amended with a value that is no text.  The error about it counts segments, so the
normal form may count fewer; everything else about the error stays (`TemplateError.placeless`).
-/

namespace QueryTemplate

/-- The error without the place of the part it is about. -/
def TemplateError.placeless : TemplateError → TemplateError
  | .notText _ typeName => .notText 0 typeName
  | e => e

namespace Segment

variable {b : Binding} {s : Segment} {ss rs : List Segment}

/-- What a segment stands for under a binding. -/
def resolve (b : Binding) : Segment → Traced EvalError Value
  | .literal s => .ok (.text s)
  | .decision d => d.resolve b

/-! ## The text -/

lemma resolveAll_cons (s : Segment) (ss : List Segment) :
    resolveAll b (s :: ss) =
      (s.resolve b).bind fun v => (resolveAll b ss).bind fun vs => .ok (v :: vs) := by
  cases s <;> rfl

/-- What segments stand for is found one after the other, up to the first error. -/
lemma outcome_resolveAll (ss : List Segment) :
    (resolveAll b ss).outcome = ss.mapM fun s => (s.resolve b).outcome := by
  induction ss with
  | nil => rfl
  | cons s ss ih =>
    rw [resolveAll_cons, Traced.outcome_bind, List.mapM_cons, ← ih]
    refine bind_congr fun v => ?_
    rw [Traced.outcome_bind]
    rfl

/-- Where the counting starts matters to the place in the error alone. -/
lemma joinTexts_placeless (i j : ℕ) (vs : List Value) :
    (joinTexts i vs).mapError TemplateError.placeless =
      (joinTexts j vs).mapError TemplateError.placeless := by
  fun_induction joinTexts i vs generalizing j with
  | case1 => rfl
  | case2 i s vs ih => rw [joinTexts, Outcome.mapError_map, Outcome.mapError_map, ih (j + 1)]
  | case3 i v vs hv => rw [joinTexts]; rfl; exact hv

/-- The text of segments before it is tidied. -/
def textOf (b : Binding) (ss : List Segment) : Traced TemplateError String :=
  ((resolveAll b ss).mapError .eval).bind fun vs =>
    .lift ((joinTexts 0 vs).mapError TemplateError.placeless)

end Segment

/-- A value in front of a text that is still to come.  An error of a condition is met before the
texts are put together. -/
def Value.before (v : Value) (rest : Except TemplateError String) : Except TemplateError String :=
  match v, rest with
  | .text s, rest => rest.map (s ++ ·)
  | _, .error (.eval e) => .error (.eval e)
  | v, _ => .error (.notText 0 v.qualifiedTypeName)

namespace Segment

variable {b : Binding} {s : Segment} {ss rs : List Segment}

lemma joinTexts_cons (v : Value) (vs : List Value) :
    (joinTexts 0 (v :: vs)).mapError TemplateError.placeless =
      v.before ((joinTexts 0 vs).mapError TemplateError.placeless) := by
  have hne : ∀ e, (joinTexts 0 vs).mapError TemplateError.placeless ≠ .error (.eval e) := by
    intro e he
    obtain ⟨e', he', hplace⟩ := Outcome.mapError_eq_error.mp he
    cases e' <;> simp [TemplateError.placeless] at hplace
    exact joinTexts_ne_eval 0 vs he'
  cases v with
  | text s => rw [joinTexts, Outcome.mapError_map, joinTexts_placeless 1 0, Value.before]
  | _ =>
    rcases h : (joinTexts 0 vs).mapError TemplateError.placeless with (_ | e | _) | t
    case error.eval => exact absurd h (hne e)
    all_goals rfl

/-- What a segment adds to the text of those behind it. -/
lemma textOf_cons (s : Segment) (ss : List Segment) :
    textOf b (s :: ss) = ((s.resolve b).mapError .eval).bind fun v =>
      ⟨v.before (textOf b ss).outcome, (textOf b ss).notices⟩ := by
  rw [textOf, textOf, resolveAll_cons]
  rcases s.resolve b with ⟨e | v, ns⟩
  · rfl
  · rcases resolveAll b ss with ⟨e | vs, ms⟩
    · cases v <;> simp [Traced.bind, Traced.mapError, Except.mapError, Value.before, Except.map]
    · simp [Traced.bind, Traced.mapError, Except.mapError, Traced.lift, Traced.ok]
      exact joinTexts_cons v vs

lemma textOf_literal (s : String) (ss : List Segment) :
    textOf b (.literal s :: ss) =
      ⟨(textOf b ss).outcome.map (s ++ ·), (textOf b ss).notices⟩ :=
  textOf_cons (.literal s) ss

/-- Joining a literal with the one behind it, or dropping it when it is empty, keeps the text. -/
lemma textOf_put (s : Segment) (ss : List Segment) : textOf b (s.cons ss) = textOf b (s :: ss) := by
  rcases put_cases s ss with ⟨r, t, rest, rfl, rfl, h⟩ | ⟨rfl, h⟩ | ⟨-, -, h⟩
  · rw [h, textOf_literal, textOf_literal, textOf_literal, Outcome.map_map]
    simp only [String.append_assoc]
  · rw [h, textOf_literal]
    simp
  · rw [h]

theorem textOf_normalize (ss : List Segment) : textOf b (normalize ss) = textOf b ss := by
  induction ss with
  | nil => rfl
  | cons s ss ih => rw [normalize, textOf_put, textOf_cons, textOf_cons, ih]

/-! ## The engine text -/

/-- The engine text of segments. -/
def engineTextOf (ss : List Segment) : Except EngineError String :=
  (ss.mapM engineText).map String.join

lemma engineTextOf_cons (s : Segment) (ss : List Segment) :
    engineTextOf (s :: ss) = s.engineText >>= fun t => (engineTextOf ss).map (t ++ ·) := by
  rw [engineTextOf, engineTextOf, List.mapM_cons]
  rcases s.engineText with e | t
  · rfl
  · rcases ss.mapM engineText with e | ts
    · rfl
    · simp [pure, Except.pure, Except.map, String.join_cons]

lemma engineTextOf_literal (s : String) (ss : List Segment) :
    engineTextOf (.literal s :: ss) = (engineTextOf ss).map (s ++ ·) :=
  engineTextOf_cons (.literal s) ss

lemma engineTextOf_put (s : Segment) (ss : List Segment) :
    engineTextOf (s.cons ss) = engineTextOf (s :: ss) := by
  rcases put_cases s ss with ⟨r, t, rest, rfl, rfl, h⟩ | ⟨rfl, h⟩ | ⟨-, -, h⟩
  · rw [h, engineTextOf_literal, engineTextOf_literal, engineTextOf_literal, Outcome.map_map]
    simp only [String.append_assoc]
  · rw [h, engineTextOf_literal]
    simp
  · rw [h]

theorem engineTextOf_normalize (ss : List Segment) :
    engineTextOf (normalize ss) = engineTextOf ss := by
  induction ss with
  | nil => rfl
  | cons s ss ih => rw [normalize, engineTextOf_put, engineTextOf_cons, engineTextOf_cons, ih]

end Segment

namespace Template

variable {b : Binding} {t : Template}

/-- But for places in errors, the text of a template is that of its segments, tidied. -/
lemma eval_placeless (t : Template) (b : Binding) :
    (t.eval b).mapError TemplateError.placeless =
      (Segment.textOf b t.segments).bind fun s => .ok (Text.tidy s) := by
  rw [eval, Segment.textOf]
  rcases Segment.resolveAll b t.segments with ⟨e | vs, ns⟩
  · rfl
  · rcases h : joinTexts 0 vs with e | s <;>
      simp [Traced.bind, Traced.mapError, Traced.lift, Traced.ok, Except.mapError, Except.map, h]

lemma eval_normalize_placeless (ss : List Segment) (b : Binding) :
    (eval ⟨Segment.normalize ss⟩ b).mapError TemplateError.placeless =
      (eval ⟨ss⟩ b).mapError TemplateError.placeless := by
  rw [eval_placeless, eval_placeless, Segment.textOf_normalize]

end Template

section Placeless

variable {x y : Except TemplateError String}
  (h : x.mapError TemplateError.placeless = y.mapError TemplateError.placeless)

include h

/-! Outcomes that are the same but for places have the same texts and the same kinds of errors. -/

lemma eq_ok_congr (s : String) : x = .ok s ↔ y = .ok s := by
  rw [← Outcome.mapError_eq_ok (f := TemplateError.placeless), h, Outcome.mapError_eq_ok]

lemma eq_eval_congr (e : EvalError) : x = .error (.eval e) ↔ y = .error (.eval e) := by
  have hplaced (z : Except TemplateError String) :
      z.mapError TemplateError.placeless = .error (.eval e) ↔ z = .error (.eval e) := by
    rcases z with (_ | _ | _) | s <;> simp [Except.mapError, TemplateError.placeless]
  rw [← hplaced, h, hplaced]

lemma eq_notText_congr (n : String) :
    (∃ i, x = .error (.notText i n)) ↔ ∃ i, y = .error (.notText i n) := by
  have hplaced (z : Except TemplateError String) :
      z.mapError TemplateError.placeless = .error (.notText 0 n) ↔
        ∃ i, z = .error (.notText i n) := by
    rcases z with (_ | _ | _) | s <;> simp [Except.mapError, TemplateError.placeless]
  rw [← hplaced, h, hplaced]

end Placeless

/-! ## Texts and errors -/

/-- Values are all texts, or there is a first that is none. -/
lemma exists_texts (vs : List Value) :
    (∃ texts : List String, vs = texts.map .text) ∨
      ∃ (texts : List String) (v : Value) (rest : List Value),
        vs = texts.map .text ++ v :: rest ∧ ∀ s, v ≠ .text s := by
  induction vs with
  | nil => exact .inl ⟨[], rfl⟩
  | cons v vs ih =>
    by_cases hv : ∃ s, v = .text s
    · obtain ⟨s, rfl⟩ := hv
      rcases ih with ⟨texts, rfl⟩ | ⟨texts, v, rest, rfl, hv⟩
      · exact .inl ⟨s :: texts, rfl⟩
      · exact .inr ⟨s :: texts, v, rest, rfl, hv⟩
    · exact .inr ⟨[], v, vs, rfl, fun s hs => hv ⟨s, hs⟩⟩

lemma joinTexts_texts (i : ℕ) (texts : List String) :
    joinTexts i (texts.map .text) = .ok (String.join texts) := by
  induction texts generalizing i with
  | nil => rfl
  | cons s texts ih => rw [List.map_cons, joinTexts, ih, String.join_cons]; rfl

lemma joinTexts_notText (i : ℕ) (texts : List String) {v : Value} (hv : ∀ s, v ≠ .text s)
    (rest : List Value) :
    joinTexts i (texts.map .text ++ v :: rest) =
      .error (.notText (i + texts.length) v.qualifiedTypeName) := by
  induction texts generalizing i with
  | nil =>
    cases v with
    | text s => exact absurd rfl (hv s)
    | _ => rfl
  | cons s texts ih =>
    rw [List.map_cons, List.cons_append, joinTexts, ih, List.length_cons, Nat.add_right_comm]
    rfl

namespace Template

variable {b : Binding} {ss : List Segment}

/-- A template of texts has the same text, error and notices in normal form. -/
lemma eval_normalize (h : ∀ s ∈ ss, s.HasTexts) (b : Binding) :
    eval ⟨Segment.normalize ss⟩ b = eval ⟨ss⟩ b := by
  obtain ⟨hplaceless, hnotices⟩ := Traced.mk.inj (eval_normalize_placeless ss b)
  refine Traced.ext ?_ hnotices
  rcases eval_of_hasTexts (t := ⟨ss⟩) h b with ⟨s, hs⟩ | ⟨e, -, he⟩
  · rw [hs]
    exact (eq_ok_congr hplaceless s).mpr hs
  · rw [he]
    exact (eq_eval_congr hplaceless e).mpr he

section Segments

variable (b ss)

/-- Segments have the text that is joined of what they stand for. -/
lemma eval_eq_ok (s : String) :
    (eval ⟨ss⟩ b).outcome = .ok s ↔ ∃ texts : List String,
      ss.mapM (fun s => (s.resolve b).outcome) = .ok (texts.map .text) ∧
        s = Text.tidy (String.join texts) := by
  rw [eval, Traced.bind_eq_ok]
  simp only [Traced.mapError, Outcome.mapError_eq_ok, Segment.outcome_resolveAll, Traced.lift,
    Outcome.map_eq_ok]
  constructor
  · rintro ⟨vs, h, r, hr, rfl⟩
    rcases exists_texts vs with ⟨texts, rfl⟩ | ⟨texts, v, rest, rfl, hv⟩
    · rw [joinTexts_texts] at hr
      cases hr
      exact ⟨texts, h, rfl⟩
    · rw [joinTexts_notText 0 texts hv rest] at hr
      cases hr
  · rintro ⟨texts, h, rfl⟩
    exact ⟨_, h, _, joinTexts_texts 0 texts, rfl⟩

/-- The first decision that fails decides the error. -/
lemma eval_eq_eval_error (e : EvalError) :
    (eval ⟨ss⟩ b).outcome = .error (.eval e) ↔
      ss.mapM (fun s => (s.resolve b).outcome) = .error e := by
  rw [eval, Traced.bind_eq_error]
  simp only [Traced.mapError, Outcome.mapError_eq_ok, Outcome.mapError_eq_error,
    Segment.outcome_resolveAll, Traced.lift, Outcome.map_eq_error]
  constructor
  · rintro (⟨e', h, he⟩ | ⟨vs, -, h⟩)
    · cases he
      exact h
    · exact absurd h (joinTexts_ne_eval 0 vs)
  · exact fun h => .inl ⟨e, h, rfl⟩

/-- If none fails, the first value that is no text does. -/
lemma eval_eq_notText (n : String) :
    (∃ i, (eval ⟨ss⟩ b).outcome = .error (.notText i n)) ↔
      ∃ (texts : List String) (v : Value) (rest : List Value),
        ss.mapM (fun s => (s.resolve b).outcome) = .ok (texts.map .text ++ v :: rest) ∧
          (∀ s, v ≠ .text s) ∧ n = v.qualifiedTypeName := by
  simp only [eval, Traced.bind_eq_error, Traced.mapError, Outcome.mapError_eq_ok,
    Outcome.mapError_eq_error, Segment.outcome_resolveAll, Traced.lift, Outcome.map_eq_error]
  constructor
  · rintro ⟨i, ⟨e, -, he⟩ | ⟨vs, h, hvs⟩⟩
    · cases he
    · rcases exists_texts vs with ⟨texts, rfl⟩ | ⟨texts, v, rest, rfl, hv⟩
      · rw [joinTexts_texts] at hvs
        cases hvs
      · rw [joinTexts_notText 0 texts hv rest] at hvs
        cases hvs
        exact ⟨texts, v, rest, h, hv, rfl⟩
  · rintro ⟨texts, v, rest, h, hv, rfl⟩
    exact ⟨_, .inr ⟨_, h, joinTexts_notText 0 texts hv rest⟩⟩

end Segments

end Template

/-! ## Compiling again -/

/-- The part that gives the segment. -/
def Segment.part : Segment → Part
  | .literal s => .text s
  | .decision (.branch b) => .branch b
  | .decision (.chain c) => .chain c

lemma Segment.segment_part (s : Segment) : s.part.segment = .ok s := by
  rcases s with s | b | c <;> rfl

lemma Part.segments_parts (ss : List Segment) : segments (ss.map Segment.part) = .ok ss := by
  induction ss with
  | nil => rfl
  | cons s ss ih =>
    rw [List.map_cons, segments, s.segment_part, ih]
    rfl

namespace Template

/-- The segments of a template, compiled again, are its normal form; nothing is reported. -/
lemma ofParts_parts (t : Template) :
    ofParts (t.segments.map Segment.part) = .ok ⟨Segment.normalize t.segments⟩ := by
  rw [ofParts, Part.segments_parts]
  rfl

lemma engineText_normalize (t : Template) :
    engineText ⟨Segment.normalize t.segments⟩ = t.engineText :=
  Segment.engineTextOf_normalize t.segments

lemma evalWith_normalize_placeless (t : Template) (params : Value) :
    (evalWith ⟨Segment.normalize t.segments⟩ params).mapError TemplateError.placeless =
      (t.evalWith params).mapError TemplateError.placeless := by
  rw [evalWith, evalWith]
  rcases Binding.ofValue params with e | b
  · rfl
  · exact eval_normalize_placeless t.segments b

lemma evalWith_normalize {t : Template} (h : ∀ s ∈ t.segments, s.HasTexts) (params : Value) :
    evalWith ⟨Segment.normalize t.segments⟩ params = t.evalWith params := by
  rw [evalWith, evalWith]
  rcases Binding.ofValue params with e | b
  · rfl
  · exact eval_normalize h b

open Segment in
/-- **Compiling parts keeps their meaning.**  The template is in normal form and holds the texts and
decisions of the parts in order; two lists of parts compile to equal templates exactly when they
coincide once builders are closed, empty texts dropped and neighbouring texts joined.  Under every
binding the text is that of the parts put together and tidied, and the error is the first that is met
on the way.  So compiling the segments of any template again changes neither its text nor its engine
text; only the error about an amended value that is no text counts the segments anew. -/
theorem ofParts_keeps_meaning {ps qs : List Part} {t u : Template}
    (ht : (ofParts ps).outcome = .ok t) (hu : (ofParts qs).outcome = .ok u) :
    (∃ ss rs, ps.Forall₂ Part.Gives ss ∧ qs.Forall₂ Part.Gives rs ∧
      IsNormal t.segments ∧ content t.segments = content ss ∧
      (t = u ↔ joined ss = joined rs) ∧ (t = u ↔ content ss = content rs) ∧
      (t.equal u = .ok true ↔
        (joined ss).Forall₂ (Corresponds fun d e => d.equal e = .ok true) (joined rs)) ∧
      ∀ b : Binding,
        (∀ s, (t.eval b).outcome = .ok s ↔ ∃ texts : List String,
          ss.mapM (fun s => (s.resolve b).outcome) = .ok (texts.map .text) ∧
            s = Text.tidy (String.join texts)) ∧
        (∀ e, (t.eval b).outcome = .error (.eval e) ↔
          ss.mapM (fun s => (s.resolve b).outcome) = .error e) ∧
        (∀ n, (∃ i, (t.eval b).outcome = .error (.notText i n)) ↔
          ∃ (texts : List String) (v : Value) (rest : List Value),
            ss.mapM (fun s => (s.resolve b).outcome) = .ok (texts.map .text ++ v :: rest) ∧
              (∀ s, v ≠ .text s) ∧ n = v.qualifiedTypeName)) ∧
    ∀ r : Template, ∃ r', ofParts (r.segments.map Segment.part) = .ok r' ∧
      r'.engineText = r.engineText ∧
      ∀ params : Value,
        (r'.evalWith params).mapError TemplateError.placeless =
            (r.evalWith params).mapError TemplateError.placeless ∧
          ((∀ s ∈ r.segments, s.HasTexts) → r'.evalWith params = r.evalWith params) := by
  obtain ⟨ss, hss, rfl⟩ := ofParts_eq_ok.mp ht
  obtain ⟨rs, hrs, rfl⟩ := ofParts_eq_ok.mp hu
  refine ⟨⟨ss, rs, hss, hrs, isNormal_normalize ss, content_normalize ss, ?_, ?_, ?_, fun b => ?_⟩,
    fun r => ?_⟩
  · rw [Template.mk.injEq, normalize_eq_joined, normalize_eq_joined]
  · rw [Template.mk.injEq, normalize_eq_iff]
  · rw [Template.equal, equalAll_eq_true, normalize_eq_joined, normalize_eq_joined]
  · obtain ⟨hplaceless, -⟩ := Traced.mk.inj (eval_normalize_placeless ss b)
    exact ⟨fun s => (eq_ok_congr hplaceless s).trans (eval_eq_ok b ss s),
      fun e => (eq_eval_congr hplaceless e).trans (eval_eq_eval_error b ss e),
      fun n => (eq_notText_congr hplaceless n).trans (eval_eq_notText b ss n)⟩
  · exact ⟨_, ofParts_parts r, engineText_normalize r, fun params =>
      ⟨evalWith_normalize_placeless r params, fun h => evalWith_normalize h params⟩⟩

/-- A statement with a condition on one of its lines. -/
def limited : Template :=
  ⟨[.literal "SELECT *\n", .decision (.chain ⟨[⟨.hasParam ⟨"a", []⟩, "WHERE a"⟩], none, none⟩),
    .literal "\nLIMIT 1"]⟩

/-- The statement in pieces, some of them empty, with its chain still being built. -/
def limitedPieces : List Part :=
  [.text "SELECT ", .text "*\n", .text "",
    .builder (ChainBuilder.empty.run [.when (.built (.hasParam ⟨"a", []⟩)), .then (.text "WHERE a")]),
    .text "\n", .text "LIMIT 1", .text ""]

/-- Its pieces compile to the statement itself, which loses the line of a condition that fails. -/
theorem limited_of_pieces :
    (ofParts limitedPieces).outcome = .ok limited ∧
      (ofParts (limited.segments.map Segment.part)).outcome = .ok limited ∧
      Segment.IsNormal limited.segments ∧
      (limited.eval .empty).outcome = .ok "SELECT *\nLIMIT 1" := by
  have hpieces : (ofParts limitedPieces).outcome = .ok limited := rfl
  have hparts : (ofParts (limited.segments.map Segment.part)).outcome = .ok limited := rfl
  obtain ⟨⟨ss, -, hss, -, hnormal, -, -, -, -, heval⟩, -⟩ := ofParts_keeps_meaning hpieces hparts
  obtain rfl : [.literal "SELECT ", .literal "*\n", .literal "", limited.segments[1],
      .literal "\n", .literal "LIMIT 1", .literal ""] = ss :=
    Except.ok.inj (Part.segments_eq_ok.mpr hss)
  refine ⟨hpieces, hparts, hnormal, ((heval .empty).1 _).mpr
    ⟨["SELECT ", "*\n", "", "", "\n", "LIMIT 1", ""], rfl, by decide +kernel⟩⟩

end Template

end QueryTemplate
