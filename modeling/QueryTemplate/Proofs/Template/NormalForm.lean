import Mathlib.Data.List.Chain
import Mathlib.Data.List.Forall2
import QueryTemplate.Proofs.Traced
import QueryTemplate.Template.Compile
import QueryTemplate.Template.Equality

/-!
# The normal form of segments

What segments hold is a sequence of characters and decisions, their `content`.  The normal form
holds the same (`content_normalize`) and depends on nothing else (`normalize_eq_gather`), so parts
compile to the same template exactly when they hold the same, however their literals were cut.  It
is what dropping the empty literals and then joining neighbouring ones leaves (`normalize_eq_joined`).
-/

namespace QueryTemplate

namespace Segment

variable {s : Segment} {ss rs xs ys : List Segment}

/-- Is this a literal? -/
def isLiteral : Segment → Bool
  | .literal _ => true
  | .decision _ => false

/-- Is this a literal without characters? -/
def isVoid : Segment → Bool
  | .literal s => s == ""
  | .decision _ => false

/-- No literal is empty, and no two literals are neighbours. -/
structure IsNormal (ss : List Segment) : Prop where
  filled : ∀ s ∈ ss, ¬ s.isVoid
  apart : ss.IsChain fun s t => ¬ (s.isLiteral ∧ t.isLiteral)

/-- The characters of a literal, or the decision. -/
def items : Segment → List (Char ⊕ Decision)
  | .literal s => s.toList.map .inl
  | .decision d => [.inr d]

/-- What segments hold, in order. -/
def content (ss : List Segment) : List (Char ⊕ Decision) :=
  ss.flatMap items

@[simp] lemma content_nil : content [] = [] := rfl

@[simp] lemma content_cons (s : Segment) (ss : List Segment) :
    content (s :: ss) = s.items ++ content ss := rfl

@[simp] lemma items_literal_append (s t : String) :
    items (.literal (s ++ t)) = items (.literal s) ++ items (.literal t) := by
  simp [items]

/-! ## One segment in front -/

/-- A literal in front joins the literal behind it; otherwise an empty one is dropped, and everything
else is kept. -/
lemma put_cases (s : Segment) (ss : List Segment) :
    (∃ r t rest, s = .literal r ∧ ss = .literal t :: rest ∧
        s.cons ss = .literal (r ++ t) :: rest) ∨
      (s = .literal "" ∧ s.cons ss = ss) ∨
      (¬ s.isVoid ∧ (s.isLiteral → ∀ r ∈ ss.head?, ¬ r.isLiteral) ∧ s.cons ss = s :: ss) := by
  rcases s with s | d
  · rcases ss with _ | ⟨t | d, rest⟩
    · by_cases hs : s = "" <;> simp [Segment.cons, isVoid, hs]
    · exact .inl ⟨s, t, rest, rfl, rfl, rfl⟩
    · by_cases hs : s = "" <;> simp [Segment.cons, isVoid, isLiteral, hs]
  · exact .inr (.inr ⟨by simp [isVoid], by simp [isLiteral], rfl⟩)

/-- A segment in front adds what it holds. -/
lemma content_put (s : Segment) (ss : List Segment) :
    content (s.cons ss) = s.items ++ content ss := by
  rcases put_cases s ss with ⟨r, t, rest, rfl, rfl, h⟩ | ⟨rfl, h⟩ | ⟨-, -, h⟩ <;>
    simp [h, items]

lemma isNormal_put (h : IsNormal ss) (s : Segment) : IsNormal (s.cons ss) := by
  rcases put_cases s ss with ⟨r, t, rest, rfl, rfl, hput⟩ | ⟨rfl, hput⟩ | ⟨hs, hhead, hput⟩
  · obtain ⟨ht, hrest⟩ := List.forall_mem_cons.mp h.filled
    obtain ⟨hhead, hchain⟩ := List.isChain_cons.mp h.apart
    rw [hput]
    refine ⟨List.forall_mem_cons.mpr ⟨fun hrt => ht ?_, hrest⟩, List.isChain_cons.mpr ⟨hhead, hchain⟩⟩
    simp only [isVoid, beq_iff_eq, String.append_eq_empty_iff] at hrt ⊢
    exact hrt.2
  · rwa [hput]
  · rw [hput]
    exact ⟨List.forall_mem_cons.mpr ⟨hs, h.filled⟩,
      h.apart.cons fun r hr => by simpa using (hhead · r hr)⟩

@[simp] lemma put_empty (ss : List Segment) : cons (.literal "") ss = ss := by
  rcases put_cases (.literal "") ss with ⟨r, t, rest, hr, rfl, h⟩ | ⟨-, h⟩ | ⟨hs, -⟩
  · cases hr
    simp [h]
  · exact h
  · simp [isVoid] at hs

/-- Two literals in front of the same segments are one. -/
lemma put_put_literal (s t : String) (ss : List Segment) :
    cons (.literal s) (cons (.literal t) ss) = cons (.literal (s ++ t)) ss := by
  rcases ss with _ | ⟨r | d, ss⟩
  · by_cases ht : t = "" <;> simp [Segment.cons, ht]
  · simp [Segment.cons, String.append_assoc]
  · by_cases ht : t = "" <;> simp [Segment.cons, ht]

/-! ## All segments -/

theorem content_normalize (ss : List Segment) : content (normalize ss) = content ss := by
  induction ss with
  | nil => rfl
  | cons s ss ih => rw [normalize, content_put, ih, content_cons]

theorem isNormal_normalize (ss : List Segment) : IsNormal (normalize ss) := by
  induction ss with
  | nil => exact ⟨by simp [normalize], .nil⟩
  | cons s ss ih => exact isNormal_put ih s

/-- The normal form that holds the items. -/
def gather : List (Char ⊕ Decision) → List Segment
  | [] => []
  | .inl c :: items => cons (.literal (String.singleton c)) (gather items)
  | .inr d :: items => .decision d :: gather items

lemma gather_append_literal (s : List Char) (items : List (Char ⊕ Decision)) :
    gather (s.map .inl ++ items) = cons (.literal (String.ofList s)) (gather items) := by
  induction s with
  | nil => simp
  | cons c s ih =>
    rw [List.map_cons, List.cons_append, gather, ih, put_put_literal, ← String.ofList_cons]

/-- The normal form depends on what the segments hold alone. -/
theorem normalize_eq_gather (ss : List Segment) : normalize ss = gather (content ss) := by
  induction ss with
  | nil => rfl
  | cons s ss ih =>
    rw [normalize, ih, content_cons]
    cases s with
    | literal s => rw [items, gather_append_literal, String.ofList_toList]
    | decision d => rfl

/-- Segments have the same normal form exactly when they hold the same. -/
theorem normalize_eq_iff : normalize ss = normalize rs ↔ content ss = content rs := by
  constructor
  · intro h
    rw [← content_normalize ss, h, content_normalize]
  · intro h
    rw [normalize_eq_gather, h, ← normalize_eq_gather]

/-! ## Dropping and joining -/

/-- Neighbouring literals joined, from the front. -/
def join : List Segment → List Segment
  | .literal s :: .literal t :: rest => join (.literal (s ++ t) :: rest)
  | s :: rest => s :: join rest
  | [] => []
termination_by ss => ss.length

/-- A filled literal in front is joined with what is behind it. -/
lemma join_literal {s : String} (hs : s ≠ "") (hss : ∀ r ∈ ss, ¬ r.isVoid) :
    join (.literal s :: ss) = cons (.literal s) (join ss) := by
  induction ss generalizing s with
  | nil => simp [join, Segment.cons, hs]
  | cons r ss ih =>
    obtain ⟨hr, hrest⟩ := List.forall_mem_cons.mp hss
    cases r with
    | literal t =>
      have ht : t ≠ "" := by simpa [isVoid] using hr
      rw [join, ih (s := s ++ t) (by simp [hs]) hrest, ih ht hrest, put_put_literal]
    | decision d => simp [join, Segment.cons, hs]

/-- The segments without the empty literals, neighbouring literals joined. -/
def joined (ss : List Segment) : List Segment :=
  join (ss.filter (!·.isVoid))

/-- Normalizing is dropping the empty literals and joining the others. -/
theorem normalize_eq_joined (ss : List Segment) : normalize ss = joined ss := by
  induction ss with
  | nil => simp [normalize, joined, join]
  | cons s ss ih =>
    rw [normalize, ih, joined, joined, List.filter_cons]
    cases s with
    | literal s =>
      by_cases hs : s = ""
      · simp [isVoid, hs]
      · have hkept : ∀ r ∈ ss.filter (!·.isVoid), ¬ r.isVoid := fun r hr => by
          simpa only [Bool.not_eq_true', Bool.not_eq_true] using (List.mem_filter.mp hr).2
        rw [if_pos (by simp [isVoid, hs]), join_literal hs hkept]
    | decision d => simp [isVoid, join, Segment.cons]

/-! ## Equality -/

/-- Both are literals with the same text, or both are decisions that are related. -/
def Corresponds (R : Decision → Decision → Prop) : Segment → Segment → Prop
  | .literal s, .literal t => s = t
  | .decision d, .decision e => R d e
  | _, _ => False

lemma andThen_eq_true {x y : Except Number.Undefined Bool} :
    andThen x y = .ok true ↔ x = .ok true ∧ y = .ok true := by
  rcases x with e | _ | _ <;> simp [andThen]

/-- Segments count as equal exactly where they correspond one by one. -/
lemma equalAll_eq_true :
    equalAll xs ys = .ok true ↔ xs.Forall₂ (Corresponds fun d e => d.equal e = .ok true) ys := by
  fun_induction equalAll xs ys with
  | case1 => simp
  | case2 s xs t ys ih => simp [andThen_eq_true, ih, Corresponds]
  | case3 d xs e ys ih => simp [andThen_eq_true, ih, Corresponds]
  | case4 xs ys hnil hliteral hdecision =>
    refine iff_of_false (by simp) fun h => ?_
    cases h with
    | nil => exact hnil rfl rfl
    | @cons x y xs ys hxy _ =>
      rcases x with s | d <;> rcases y with t | e
      · exact hliteral s xs t ys rfl rfl
      · exact hxy
      · exact hxy
      · exact hdecision d xs e ys rfl rfl

end Segment

/-! ## Parts -/

/-- The segment that a part gives.  A builder is closed, and a condition that is left without a text
is reported, so it has to have a form. -/
inductive Part.Gives : Part → Segment → Prop where
  | text (s : String) : Gives (.text s) (.literal s)
  | branch (b : Branch) : Gives (.branch b) (.decision (.branch b))
  | chain (c : Chain) : Gives (.chain c) (.decision (.chain c))
  | builder {b : ChainBuilder} {c : Chain} (built : b.build = .ok c)
      (shown : c.dangling.bind Condition.formError? = none) :
      Gives (.builder b) (.decision (.chain c))

namespace Part

variable {p : Part} {s : Segment} {ps : List Part} {ss : List Segment}

lemma gives_of_segment (h : p.segment.outcome = .ok s) : p.Gives s := by
  cases p with
  | text r =>
    cases h
    exact .text r
  | branch br =>
    cases h
    exact .branch br
  | chain c =>
    cases h
    exact .chain c
  | builder b =>
    rw [segment] at h
    cases hb : b.build with
    | error e => simp [hb, Traced.error] at h
    | ok c =>
      simp only [hb] at h
      split at h
      · cases h
      · next hshown =>
        obtain rfl := Except.ok.inj h
        exact .builder hb hshown
  | unguarded t =>
    rw [segment] at h
    split at h <;> cases h
  | other t => cases h

lemma segment_eq_ok : p.segment.outcome = .ok s ↔ p.Gives s := by
  refine ⟨gives_of_segment, fun h => ?_⟩
  cases h with
  | builder built shown => simp [segment, built, shown]
  | _ => rfl

/-- Parts compile exactly when each of them gives a segment. -/
lemma segments_eq_ok : (segments ps).outcome = .ok ss ↔ ps.Forall₂ Gives ss := by
  induction ps generalizing ss with
  | nil => simp [segments, Traced.ok, eq_comm]
  | cons p ps ih =>
    rw [segments, Traced.bind_eq_ok, List.forall₂_cons_left_iff]
    refine exists_congr fun s => ?_
    rw [Traced.bind_eq_ok, segment_eq_ok]
    constructor
    · rintro ⟨hs, rest, hrest, h⟩
      obtain rfl : s :: rest = ss := by simpa [Traced.ok] using h
      exact ⟨rest, hs, ih.mp hrest, rfl⟩
    · rintro ⟨rest, hs, hrest, rfl⟩
      exact ⟨hs, rest, ih.mpr hrest, rfl⟩

end Part

/-- What parts compile to is the normal form of what they give. -/
lemma Template.ofParts_eq_ok {ps : List Part} {t : Template} :
    (ofParts ps).outcome = .ok t ↔
      ∃ ss, ps.Forall₂ Part.Gives ss ∧ t = ⟨Segment.normalize ss⟩ := by
  rw [ofParts, Traced.bind_eq_ok]
  refine exists_congr fun ss => and_congr Part.segments_eq_ok ?_
  simp [Traced.ok, eq_comm]

end QueryTemplate
