import QueryTemplate.Engine.Fragment
import QueryTemplate.Proofs.Document.RoundTrip
import QueryTemplate.Proofs.Engine.Predicates
import QueryTemplate.Proofs.Value.Reordered

/-!
# What is written does not depend on the order of sets

Two templates are alike if they differ at most in their compare values, and these are related.  If
they are related as values are that differ in the order of their sets, then the templates have one
document, and one engine text as long as no record shows the order.  Where the one cannot be
written, neither can the other, and for the same reason.
-/

namespace QueryTemplate

/-! ## Templates that differ in their compare values -/

/-- The conditions differ at most in their compare values, and these are related. -/
inductive Condition.Alike (r : Value → Value → Prop) : Condition → Condition → Prop where
  | refl (c : Condition) : Alike r c c
  | compare (name : String) (op : Operator) {v w : Value} (h : r v w) :
      Alike r (.compare name op v) (.compare name op w)
  | noneOf {cs ds : List Condition} (length : cs.length = ds.length)
      (inner : ∀ p ∈ cs.zip ds, Alike r p.1 p.2) : Alike r (.noneOf cs) (.noneOf ds)

/-- The alternatives have one text and conditions that are alike. -/
structure Alternative.Alike (r : Value → Value → Prop) (a b : Alternative) : Prop where
  condition : a.condition.Alike r b.condition
  text : a.text = b.text

/-- The decisions have the same texts and conditions that are alike. -/
inductive Decision.Alike (r : Value → Value → Prop) : Decision → Decision → Prop where
  | branch {c d : Condition} (condition : c.Alike r d) (text : String) (elseText : Value) :
      Alike r (.branch ⟨c, text, elseText⟩) (.branch ⟨d, text, elseText⟩)
  | chain {as bs : List Alternative} (alternatives : as.Forall₂ (Alternative.Alike r) bs)
      (elseText : Option String) {c d : Option Condition}
      (dangling : Option.Rel (Condition.Alike r) c d) :
      Alike r (.chain ⟨as, elseText, c⟩) (.chain ⟨bs, elseText, d⟩)

/-- The segments are one text, or decisions that are alike. -/
inductive Segment.Alike (r : Value → Value → Prop) : Segment → Segment → Prop where
  | literal (s : String) : Alike r (.literal s) (.literal s)
  | decision {d e : Decision} (h : d.Alike r e) : Alike r (.decision d) (.decision e)

/-- The segments of the templates are alike in order. -/
def Template.Alike (r : Value → Value → Prop) (t u : Template) : Prop :=
  t.segments.Forall₂ (Segment.Alike r) u.segments

lemma map_congr_of_forall₂ {α β : Type} {f : α → β} {xs ys : List α}
    (h : xs.Forall₂ (fun x y => f x = f y) ys) : xs.map f = ys.map f :=
  (Outcome.map_eq_map_of_forall₂ h fun _ _ _ h => h.symm).symm

lemma mapM_congr {α β ε : Type} {f : α → Except ε β} {xs ys : List α}
    (h : xs.map f = ys.map f) : xs.mapM f = ys.mapM f := by
  have hid : ∀ zs : List α, zs.mapM f = (zs.map f).mapM id := by
    intro zs
    rw [List.mapM_map]
    rfl
  rw [hid, hid, h]

/-! ## Documents -/

section Documents

variable {r : Value → Value → Prop}

lemma Condition.toJsonAll_eq (cs : List Condition) : toJsonAll cs = cs.mapM toJson := by
  induction cs with
  | nil => rfl
  | cons c cs ih =>
    rw [toJsonAll, ih, List.mapM_cons]
    rfl

lemma Condition.writeErrorAmong?_eq (level : ℕ) (cs : List Condition) :
    writeErrorAmong? level cs = (cs.map (writeError? level)).findSome? id := by
  induction cs with
  | nil => rfl
  | cons c cs ih =>
    rw [writeErrorAmong?, ih, List.map_cons, List.findSome?_cons]
    cases c.writeError? level <;> rfl

variable (hr : ∀ v w, r v w → v.encode = w.encode)

include hr

lemma Condition.Alike.toJson_eq {c d : Condition} (h : c.Alike r d) : c.toJson = d.toJson := by
  induction h with
  | refl => rfl
  | compare name op h => rw [toJson, toJson, hr _ _ h]
  | noneOf length _ ih =>
    rw [toJson, toJson, toJsonAll_eq, toJsonAll_eq,
      mapM_congr (Value.map_eq_map_of_zip length ih)]

lemma Condition.Alike.writeError?_eq {c d : Condition} (h : c.Alike r d) (level : ℕ) :
    c.writeError? level = d.writeError? level := by
  induction h generalizing level with
  | refl => rfl
  | compare name op h =>
    have hsingle : ∀ v cs, Condition.compare name op v ≠ .noneOf cs := by simp
    rw [writeError?_single (hsingle _), writeError?_single (hsingle _),
      (Alike.compare name op h).toJson_eq hr]
  | noneOf length _ ih =>
    rw [writeError?, writeError?, writeErrorAmong?_eq, writeErrorAmong?_eq,
      Value.map_eq_map_of_zip length fun p hp => ih p hp (level + 2)]

lemma Condition.Alike.part_eq {c d : Condition} (h : c.Alike r d) (level : ℕ) :
    c.part level = d.part level := by
  rw [Condition.part, Condition.part, h.writeError?_eq hr, h.toJson_eq hr]

lemma Alternative.Alike.toJson_eq {a b : Alternative} (h : a.Alike r b) :
    a.toJson = b.toJson := by
  rw [Alternative.toJson, Alternative.toJson, h.condition.part_eq hr, h.text]

lemma Decision.Alike.toJson_eq {d e : Decision} (h : d.Alike r e) : d.toJson = e.toJson := by
  cases h with
  | branch condition text elseText =>
    rw [Decision.toJson, Decision.toJson, Branch.toJson, Branch.toJson, condition.part_eq hr]
  | chain alternatives elseText dangling =>
    rw [Decision.toJson, Decision.toJson, Chain.toJson_eq, Chain.toJson_eq,
      mapM_congr (map_congr_of_forall₂ (alternatives.imp fun _ _ h => h.toJson_eq hr))]
    cases dangling with
    | some h => rw [danglingJson, danglingJson, h.part_eq hr]
    | none => rfl

lemma Segment.Alike.toJson_eq {s t : Segment} (h : s.Alike r t) : s.toJson = t.toJson := by
  cases h with
  | literal => rfl
  | decision h => rw [Segment.toJson, Segment.toJson, h.toJson_eq hr]

/-- Templates whose compare values are written alike have one document. -/
theorem Template.Alike.document_eq {t u : Template} (h : t.Alike r u) (layout : Json.Layout) :
    t.document layout = u.document layout := by
  rw [document, document, toJson, toJson,
    mapM_congr (map_congr_of_forall₂ (List.Forall₂.imp (fun _ _ h => h.toJson_eq hr) h))]

end Documents

/-! ## Engine texts -/

section EngineTexts

open Engine

variable {r : Value → Value → Prop}

lemma Condition.predicateErrorAmong?_eq (cs : List Condition) :
    predicateErrorAmong? cs = (cs.map predicateError?).findSome? id := by
  induction cs with
  | nil => rfl
  | cons c cs ih =>
    rw [predicateErrorAmong?, ih, List.map_cons, List.findSome?_cons]
    cases predicateError? c <;> rfl

/-- The predicate that denies conditions depends on their predicates only. -/
lemma Condition.predicate_noneOf_congr {cs ds : List Condition}
    (h : cs.map predicate = ds.map predicate) :
    predicate (.noneOf cs) = predicate (.noneOf ds) := by
  have hpredicate : ∀ es : List Condition, predicate (.noneOf es) =
      if (es.map predicate).isEmpty then "true"
      else " and ".intercalate ((es.map predicate).map fun t => "!(" ++ t ++ ")") := by
    intro es
    rw [predicate, negations_eq, List.isEmpty_map, List.map_map]
    rfl
  rw [hpredicate, hpredicate, h]

variable (hr : ∀ v w, r v w → v.shape = w.shape ∧ Engine.literal v = Engine.literal w ∧
  literalError? v = literalError? w)

include hr

lemma Condition.Alike.predicate_eq {c d : Condition} (h : c.Alike r d) :
    predicate c = predicate d := by
  induction h with
  | refl => rfl
  | compare name op h =>
    obtain ⟨hshape, hliteral, -⟩ := hr _ _ h
    simp only [predicate, comparison, hshape, hliteral]
  | noneOf length _ ih => exact predicate_noneOf_congr (Value.map_eq_map_of_zip length ih)

lemma Condition.Alike.predicateError?_eq {c d : Condition} (h : c.Alike r d) :
    predicateError? c = predicateError? d := by
  induction h with
  | refl => rfl
  | compare name op h => exact (hr _ _ h).2.2
  | noneOf length _ ih =>
    rw [predicateError?, predicateError?, predicateErrorAmong?_eq, predicateErrorAmong?_eq,
      Value.map_eq_map_of_zip length ih]

lemma alternativeFragments_congr {as bs : List Alternative}
    (h : as.Forall₂ (Alternative.Alike r) bs) (earlier : List String) :
    alternativeFragments earlier as = alternativeFragments earlier bs := by
  induction h generalizing earlier with
  | nil => rfl
  | cons h _ ih =>
    rw [alternativeFragments, alternativeFragments, h.condition.predicate_eq hr, h.text, ih]

lemma Decision.Alike.engineText_eq {d e : Decision} (h : d.Alike r e) :
    d.engineText = e.engineText := by
  cases h with
  | branch condition text elseText =>
    rw [Decision.engineText, Decision.engineText, Branch.engineText, Branch.engineText,
      condition.predicate_eq hr, condition.predicateError?_eq hr]
    rfl
  | @chain as bs alternatives elseText c d dangling =>
    have hcomplete : c.isNone = d.isNone := by
      cases dangling <;> rfl
    have hconditions : ∀ {β : Type} {f : Condition → β},
        (∀ {a b : Condition}, a.Alike r b → f a = f b) →
        (as.map (·.condition)).map f = (bs.map (·.condition)).map f := by
      intro β f hf
      rw [List.map_map, List.map_map]
      exact map_congr_of_forall₂ (alternatives.imp fun _ _ h => hf h.condition)
    have herror : predicateErrorAmong? (as.map (·.condition)) =
        predicateErrorAmong? (bs.map (·.condition)) := by
      rw [Condition.predicateErrorAmong?_eq, Condition.predicateErrorAmong?_eq,
        hconditions fun h => h.predicateError?_eq hr]
    have hfragments : chainFragments ⟨as, elseText, c⟩ = chainFragments ⟨bs, elseText, d⟩ := by
      rw [chainFragments, chainFragments, alternativeFragments_congr hr alternatives,
        Chain.elseCondition, Chain.elseCondition,
        Condition.predicate_noneOf_congr (hconditions fun h => h.predicate_eq hr)]
    rw [Decision.engineText, Decision.engineText, Chain.engineText, Chain.engineText,
      Chain.isComplete, Chain.isComplete, hcomplete, hfragments]
    simp only [herror]

lemma Segment.Alike.engineText_eq {s t : Segment} (h : s.Alike r t) :
    s.engineText = t.engineText := by
  cases h with
  | literal => rfl
  | decision h => exact h.engineText_eq hr

/-- Templates whose compare values are shown alike have one engine text. -/
theorem Template.Alike.engineText_eq {t u : Template} (h : t.Alike r u) :
    t.engineText = u.engineText := by
  rw [engineText, engineText,
    mapM_congr (map_congr_of_forall₂ (List.Forall₂.imp (fun _ _ h => h.engineText_eq hr) h))]

end EngineTexts

/-! ## The order of sets -/

namespace Value

variable {xs ys : List Value}

/-- A set of simple values can be written, if they have forms to be sorted by. -/
lemma exists_encode_set (hxs : ∀ x ∈ xs, x.Simple) (hform : ∀ x ∈ xs, x.formError? = none)
    (frozen : Bool) : ∃ j, (Value.set frozen xs).encode = .ok j :=
  encode_of_storable (.intro trivial fun x hx => (hxs x hx).storable)
    (.intro hform fun x hx => (hxs x hx).everywhere fun y hy => by cases hy <;> trivial)

/-- **Sets of unequal simple values** can be built of their elements in any order, and are written
alike. -/
lemma sets_written_alike (hxs : ∀ x ∈ xs, x.Simple)
    (hne : xs.Pairwise fun x y => x.equal y = .ok false) (h : xs.Perm ys) (frozen : Bool) :
    setOf frozen xs = .ok (.set frozen xs) ∧ setOf frozen ys = .ok (.set frozen ys) ∧
      (Value.set frozen xs).encode = (Value.set frozen ys).encode ∧
      Engine.literalError? (.set frozen xs) = Engine.literalError? (.set frozen ys) ∧
      Engine.literal (.set frozen xs) = Engine.literal (.set frozen ys) ∧
      ((∀ x ∈ xs, x.formError? = none) → (∃ j, (Value.set frozen xs).encode = .ok j) ∧
        Engine.literalError? (.set frozen xs) = none) := by
  have hapart := pairwise_apart hxs hne
  have hys : ∀ y ∈ ys, y.Simple := fun y hy => hxs y (h.mem_iff.mpr hy)
  have hapart' : ys.Pairwise Apart := (h.pairwise_iff fun h => ⟨h.2, h.1⟩).mp hapart
  have hsame : ∀ opened, Reordered opened (.set frozen xs) (.set frozen ys) :=
    fun _ => .set frozen hxs h
  refine ⟨setOf_of_simple hxs hapart frozen, setOf_of_simple hys hapart' frozen,
    (hsame _).encode_eq, Engine.literalError?_eq (hsame _), Engine.literal_eq (hsame _),
    fun hform => ?_⟩
  refine ⟨exists_encode_set hxs hform frozen, ?_⟩
  rw [Engine.literalError?, Engine.literalErrorAmong?_of_simple hxs,
    formErrorAmong?_eq_none.mpr hform]
  rfl

end Value

namespace Template

/-- **The order of sets is not seen.** Unequal simple values make one set in any order, as it is
written, and it is written unless one of them has no form.  So templates that differ at most in the
order in which such sets came have one document, and one engine text unless a record that is shown
holds such a set. -/
theorem set_order_unseen :
    (∀ (frozen : Bool) (xs ys : List Value), (∀ x ∈ xs, x.Simple) →
      (xs.Pairwise fun x y => x.equal y = .ok false) → xs.Perm ys →
      Value.setOf frozen xs = .ok (.set frozen xs) ∧
        Value.setOf frozen ys = .ok (.set frozen ys) ∧
        (Value.set frozen xs).encode = (Value.set frozen ys).encode ∧
        Engine.literalError? (.set frozen xs) = Engine.literalError? (.set frozen ys) ∧
        Engine.literal (.set frozen xs) = Engine.literal (.set frozen ys) ∧
        ((∀ x ∈ xs, x.formError? = none) → (∃ j, (Value.set frozen xs).encode = .ok j) ∧
          Engine.literalError? (.set frozen xs) = none)) ∧
    (∀ t u : Template, t.Alike (Value.Reordered RecordKind.SameClass) u →
      ∀ layout, t.document layout = u.document layout) ∧
    ∀ t u : Template, t.Alike (Value.Reordered fun _ _ => False) u → t.engineText = u.engineText :=
  ⟨fun frozen _ _ hxs hne h => Value.sets_written_alike hxs hne h frozen,
    fun _ _ h layout => h.document_eq (fun _ _ => Value.Reordered.encode_eq) layout,
    fun _ _ h => h.engineText_eq fun _ _ h =>
      ⟨h.shape_eq, Engine.literal_eq h, Engine.literalError?_eq h⟩⟩

/-- Two numbers and a text with an apostrophe make one set both ways, and one template. -/
theorem row_order_unseen :
    ((Value.set true [.int 8, .int 0, .text "it's"]).encode =
          (Value.set true [.text "it's", .int 0, .int 8]).encode ∧
        Engine.literal (.set true [.int 8, .int 0, .text "it's"]) =
          Engine.literal (.set true [.text "it's", .int 0, .int 8]) ∧
        Engine.literalError? (.set true [.int 8, .int 0, .text "it's"]) = none) ∧
    (∀ layout, (comparing (.set false [.int 8, .int 0])).document layout =
      (comparing (.set false [.int 0, .int 8])).document layout) ∧
    (comparing (.set false [.int 8, .int 0])).engineText =
      (comparing (.set false [.int 0, .int 8])).engineText := by
  have hnumbers : ∀ opened, (comparing (.set false [.int 8, .int 0])).Alike
      (Value.Reordered opened) (comparing (.set false [.int 0, .int 8])) := fun opened =>
    .cons (.decision (.branch (.compare "a" .eq
      (.set false (by simpa using ⟨.int 8, .int 0⟩) (.swap _ _ _))) "x" .null)) .nil
  refine ⟨?_, set_order_unseen.2.1 _ _ (hnumbers _), set_order_unseen.2.2 _ _ (hnumbers _)⟩
  obtain ⟨-, -, hencode, -, hliteral, hwritten⟩ :=
    set_order_unseen.1 true [.int 8, .int 0, .text "it's"] [.text "it's", .int 0, .int 8]
      (by simpa using ⟨.int 8, .int 0, .text "it's"⟩)
      (by
        simp only [List.pairwise_cons, List.forall_mem_cons]
        exact ⟨⟨rfl, rfl, nofun⟩, ⟨rfl, nofun⟩, nofun, .nil⟩)
      (List.reverse_perm [Value.text "it's", .int 0, .int 8])
  exact ⟨hencode, hliteral, (hwritten (by decide +kernel)).2⟩

/-- A record with validated fields that holds the set of two numbers. -/
def holding (xs : List Value) : Value :=
  .record (.model false) [("s", .set false xs)]

/-- Where a record shows the order of a set, the engine text does. -/
theorem order_shown_by_record :
    ¬ ∀ t u : Template, t.Alike (Value.Reordered RecordKind.SameClass) u →
      t.engineText = u.engineText := by
  intro h
  have halike : (comparing (holding [.int 0, .int 8])).Alike (Value.Reordered RecordKind.SameClass)
      (comparing (holding [.int 8, .int 0])) := by
    have hset : Value.Reordered RecordKind.SameClass (.set false [.int 0, .int 8])
        (.set false [.int 8, .int 0]) :=
      .set false (by simpa using ⟨.int 0, .int 8⟩) (.swap _ _ _)
    have hclass : RecordKind.SameClass (.model false) (.model false) := rfl
    have hrecord : Value.Reordered RecordKind.SameClass (holding [.int 0, .int 8])
        (holding [.int 8, .int 0]) :=
      .record hclass rfl (by simp) (by simpa using hset)
    exact .cons (.decision (.branch (.compare "a" .eq hrecord) "x" .null)) .nil
  have htext := h _ _ halike
  exact absurd htext (by decide +kernel)

end Template

end QueryTemplate
