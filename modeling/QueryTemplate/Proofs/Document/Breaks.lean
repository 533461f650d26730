import QueryTemplate.Proofs.Document.Flaws
import QueryTemplate.Proofs.Document.RoundTrip

/-!
# Checks that are broken off

Only a compare value can break a check off, and parts are checked in the order of the document.  So
a document that is not refused with its issues ends with the error of the first compare value that
is flawed in a way that does not count as an issue.
-/

namespace QueryTemplate

namespace Checked

variable {α β : Type}

/-- The error that a check was broken off with. -/
def breakage? : Checked α → Option DecodeError
  | .broken e => some e
  | _ => none

@[simp] lemma breakage?_ok (a : α) : (ok a).breakage? = none := rfl

@[simp] lemma breakage?_fault (f : Fault) : (fault f : Checked α).breakage? = none := rfl

lemma breakage?_eq_some {c : Checked α} {e : DecodeError} :
    c.breakage? = some e ↔ c = .broken e := by
  cases c <;> simp [breakage?]

@[simp] lemma breakage?_map (c : Checked α) (f : α → β) : (c.map f).breakage? = c.breakage? := by
  cases c <;> rfl

@[simp] lemma breakage?_under (c : Checked α) (step : Step) :
    (c.under step).breakage? = c.breakage? := by
  cases c <;> rfl

/-- A check that goes on behind issues is broken off by the first of its parts that is. -/
@[simp] lemma breakage?_and (c : Checked α) (d : Checked β) :
    (c.and d).breakage? = c.breakage?.or d.breakage? := by
  cases c <;> cases d <;> rfl

lemma breakage?_bind (c : Checked α) {f : α → Checked β} (h : ∀ a, (f a).breakage? = none) :
    (c.bind f).breakage? = c.breakage? := by
  cases c with
  | ok a => exact h a
  | _ => rfl

lemma breakage?_all (cs : List (Checked α)) : (all cs).breakage? = cs.findSome? breakage? := by
  induction cs with
  | nil => rfl
  | cons c cs ih =>
    rw [all, breakage?_map, breakage?_and, ih, List.findSome?_cons]
    cases c.breakage? <;> rfl

lemma breakage?_indexed (start : ℕ) (cs : List (Checked α)) :
    (indexed start cs).findSome? breakage? = cs.findSome? breakage? := by
  induction cs generalizing start with
  | nil => rfl
  | cons c cs ih => rw [indexed, List.findSome?_cons, List.findSome?_cons, breakage?_under, ih]

/-! ## Checks that are never broken off -/

@[simp] lemma breakage?_text (v : Value) : (text v).breakage? = none := by
  cases v with
  | bytes growable data =>
    rw [text]
    cases Text.ofBytes data <;> rfl
  | _ => rfl

@[simp] lemma breakage?_optionalText (v : Value) : (optionalText v).breakage? = none := by
  cases v with
  | null => rfl
  | _ => rw [optionalText, breakage?_map, breakage?_text]; simp

lemma breakage?_items (origin : Origin) (v : Value) : (items origin v).breakage? = none := by
  fun_cases items origin v <;> rfl

@[simp] lemma breakage?_oneOf (values : List α) (word : α → String) (v : Value) :
    (oneOf values word v).breakage? = none := by
  simp only [oneOf]
  split <;> rfl

lemma breakage?_boolOfInt (i : ℤ) : (boolOfInt i).breakage? = none := by
  fun_cases boolOfInt i <;> rfl

lemma breakage?_boolOfNumber (origin : Origin) (n : Number) :
    (boolOfNumber origin n).breakage? = none := by
  fun_cases boolOfNumber origin n with
  | case1 | case3 => exact breakage?_boolOfInt _
  | case2 | case4 | case5 => rfl

lemma breakage?_boolOfWord (s : String) : (boolOfWord s).breakage? = none := by
  simp only [boolOfWord]
  split_ifs <;> rfl

@[simp] lemma breakage?_bool (origin : Origin) (v : Value) : (bool origin v).breakage? = none := by
  fun_cases bool origin v with
  | case2 n => exact breakage?_boolOfNumber origin n
  | case3 s | case4 _ s => exact breakage?_boolOfWord s
  | _ => rfl

@[simp] lemma breakage?_names (origin : Origin) (v : Value) :
    (names origin v).breakage? = none := by
  rw [names, breakage?_bind, breakage?_items]
  intro xs
  have htexts : (all (indexed 0 (xs.map text))).breakage? = none := by
    rw [breakage?_all, breakage?_indexed, List.findSome?_map]
    simp
  rw [breakage?_bind]
  · simp only [breakage?_and, htexts, Option.none_or]
    split_ifs <;> rfl
  · intro r
    cases Names.ofList? r.1 <;> rfl

@[simp] lemma breakage?_expression (v : Value) : (expression v).breakage? = none := by
  rw [expression, breakage?_bind, breakage?_text]
  intro s
  split <;> rfl

/-! ## Fields of a document -/

section Fields

variable {name : String} {fs : List (String × Json)} {check : Value → Checked α}

/-- A field of the value that an object denotes is the value of its field. -/
lemma entry?_ofJsonFields (name : String) (fs : List (String × Json)) :
    Value.entry? name (Value.ofJsonFields fs) =
      (Json.field? name (.object fs)).map Value.ofJson := by
  induction fs with
  | nil => rfl
  | cons f fs ih =>
    rw [Value.entry?] at ih
    rw [Value.entry?, Value.ofJsonFields, List.findSome?_cons, ih, Json.field?, Json.field?,
      List.find?_cons]
    by_cases h : f.1 = name
    · simp [h]
    · simp [h, beq_eq_false_iff_ne.mpr h]

/-- A field breaks the check off as its value does. -/
lemma breakage?_present :
    (present name (Value.ofJsonFields fs) check).breakage? =
      (Json.field? name (.object fs)).bind fun j => (check (Value.ofJson j)).breakage? := by
  rw [present, entry?_ofJsonFields]
  cases Json.field? name (.object fs) <;> rfl

lemma breakage?_perhaps {absent : α} :
    (perhaps name (Value.ofJsonFields fs) absent check).breakage? =
      (Json.field? name (.object fs)).bind fun j => (check (Value.ofJson j)).breakage? := by
  rw [perhaps, entry?_ofJsonFields]
  cases Json.field? name (.object fs) <;> rfl

lemma breakage?_required :
    (required name (Value.ofJsonFields fs) check).breakage? =
      (Json.field? name (.object fs)).bind fun j => (check (Value.ofJson j)).breakage? := by
  rw [required, breakage?_under, breakage?_present]

lemma breakage?_optional {absent : α} :
    (optional name (Value.ofJsonFields fs) absent check).breakage? =
      (Json.field? name (.object fs)).bind fun j => (check (Value.ofJson j)).breakage? := by
  rw [optional, breakage?_under, breakage?_perhaps]

end Fields

end Checked

/-! ## The compare values of a document -/

namespace Json

/-- The tag of an object. -/
def tag? (j : Json) : Option String :=
  match j.field? "type" with
  | some (.text tag) => some tag
  | _ => none

/-- The items of a list. -/
def listed : Json → List Json
  | .list js => js
  | _ => []

/-- What a field holds of some values. -/
def held (name : String) (values : Json → List Json) (j : Json) : List Json :=
  (j.field? name).elim [] values

/-- What an object holds of some values that depend on its tag. -/
def told (values : String → List Json) (j : Json) : List Json :=
  j.tag?.elim [] values

mutual

/-- The values that a described condition compares with, in order. -/
def conditionValues : Json → List Json
  | .object fs =>
    told (fun tag =>
      if tag = "compare" then held "value" (fun j => [j]) (.object fs)
      else if tag = "none_of" then innerValues fs
      else []) (.object fs)
  | _ => []
termination_by structural x => x

/-- The values that the inner conditions among the fields compare with. -/
def innerValues : List (String × Json) → List Json
  | [] => []
  | (name, j) :: fs => if name = "conditions" then itemValues j else innerValues fs
termination_by structural x => x

/-- The values that the conditions of a list compare with. -/
def itemValues : Json → List Json
  | .list js => eachValues js
  | _ => []
termination_by structural x => x

/-- The values that conditions compare with. -/
def eachValues : List Json → List Json
  | [] => []
  | j :: js => conditionValues j ++ eachValues js
termination_by structural x => x

end

/-- The values that a described alternative compares with. -/
def alternativeValues (j : Json) : List Json :=
  held "condition" conditionValues j

/-- The values that a described decision compares with. -/
def decisionValues (j : Json) : List Json :=
  told (fun tag =>
    if tag = "branch" then held "condition" conditionValues j
    else if tag = "chain" then
      held "branches" (fun i => i.listed.flatMap alternativeValues) j ++
        held "dangling" conditionValues j
    else []) j

/-- The values that a described segment compares with. -/
def segmentValues (j : Json) : List Json :=
  told (fun tag => if tag = "decision" then held "decision" decisionValues j else []) j

/-- The values that a described template compares with, in the order of the document. -/
def compareValues (j : Json) : List Json :=
  held "segments" (fun i => i.listed.flatMap segmentValues) j

/-- The error of a compare value that does not count as an issue. -/
def flaw? (j : Json) : Option DecodeError :=
  (Checked.compareValue (Value.ofJson j)).breakage?

lemma flaw?_eq_some {j : Json} {e : DecodeError} :
    j.flaw? = some e ↔ j.Flawed e ∧ e.isIssue = false := by
  rw [← Value.decode_ofJson_eq_error, flaw?, Checked.compareValue]
  cases (Value.ofJson j).decode with
  | ok v => simp
  | error e' =>
    rw [Except.error.injEq]
    dsimp only
    split_ifs with hissue
    · refine iff_of_false (by simp) ?_
      rintro ⟨rfl, hnot⟩
      exact absurd (hissue.symm.trans hnot) (by decide)
    · rw [Checked.breakage?_eq_some, Checked.broken.injEq]
      refine ⟨fun h => ⟨h, ?_⟩, fun h => h.1⟩
      rw [← h]
      exact Bool.eq_false_iff.mpr hissue

end Json

/-! ## Conditions -/

namespace Checked

open Json

variable {α : Type} {fs : List (String × Json)}

lemma findSome?_held {β : Type} (f : Json → Option β) (name : String) (values : Json → List Json)
    (j : Json) :
    (held name values j).findSome? f = (j.field? name).bind fun i => (values i).findSome? f := by
  rw [held]
  cases j.field? name <;> rfl

lemma findSome?_told {β : Type} (f : Json → Option β) (values : String → List Json) (j : Json) :
    (told values j).findSome? f = j.tag?.bind fun tag => (values tag).findSome? f := by
  rw [told]
  cases j.tag? <;> rfl

/-- Without other conditions in it, only the compare value of a condition can break its check off. -/
lemma breakage?_simpleCondition (tag : String) :
    (simpleCondition .document tag (Value.ofJsonFields fs)).breakage? =
      if tag = "compare" then (Json.field? "value" (.object fs)).bind flaw? else none := by
  fun_cases simpleCondition .document tag (Value.ofJsonFields fs) with
  | case7 =>
    rw [compareOf, breakage?_map, breakage?_and, breakage?_and, breakage?_optional, if_pos rfl]
    simp only [breakage?_required, breakage?_text, breakage?_oneOf, Option.bind_fun_none,
      Option.none_or]
    rfl
  | case10 =>
    rw [if_neg ‹tag = "compare" → False›]
    simp [breakage?_required]
  | _ => simp [breakage?_required, breakage?_optional]

/-- An object with an allowed tag breaks its check off as its tag says. -/
lemma breakage?_tagged_object {origin : Origin} {allowed : List (String × String)}
    {check : String → List (Value × Value) → Checked α} :
    (tagged origin allowed (.map false (Value.ofJsonFields fs)) check).breakage? =
      (tag? (.object fs)).bind fun tag =>
        if allowed.any (·.1 == tag) then (check tag (Value.ofJsonFields fs)).breakage? else none := by
  rw [tagged, entry?_ofJsonFields, tag?]
  cases Json.field? "type" (.object fs) with
  | none => rfl
  | some j =>
    cases j with
    | text tag =>
      simp only [Option.map_some, Value.ofJson, Option.bind_some]
      split_ifs
      · exact breakage?_under _ _
      · rfl
    | _ => rfl

mutual

/-- The check of a condition is broken off by the first compare value that is flawed so. -/
theorem breakage?_condition : ∀ j : Json,
    (condition .document (Value.ofJson j)).breakage? = (conditionValues j).findSome? flaw?
  | .object fs => by
    rw [Value.ofJson, condition, breakage?_tagged_object, conditionValues]
    rw [findSome?_told]
    refine congrArg (Option.bind _) (funext fun tag => ?_)
    -- Only two tags lead to compare values; both are among those allowed.
    by_cases hnone : tag = "none_of"
    · subst hnone
      exact (breakage?_map _ _).trans (breakage?_innerConditions fs)
    rw [if_neg hnone, if_neg hnone, breakage?_simpleCondition]
    by_cases hcompare : tag = "compare"
    · subst hcompare
      rw [if_pos (by decide), if_pos rfl, if_pos rfl, findSome?_held]
      simp
    · rw [if_neg hcompare, if_neg hcompare, ite_self]
      rfl
  | .null | .bool _ | .int _ | .float _ | .text _ | .list _ => rfl
termination_by structural x => x

/-- The check of inner conditions is broken off by the first compare value that is flawed so. -/
theorem breakage?_innerConditions : ∀ fs : List (String × Json),
    (innerConditions .document (Value.ofJsonFields fs)).breakage? =
      (innerValues fs).findSome? flaw?
  | [] => rfl
  | (name, j) :: fs => by
    rw [Value.ofJsonFields, innerConditions, innerValues]
    by_cases h : name = "conditions"
    · subst h
      exact (breakage?_under _ _).trans (breakage?_conditionItems j)
    · have hkey : isConditionsKey (.text name) = false := by
        rw [isConditionsKey]
        simpa using h
      rw [hkey, if_neg Bool.false_ne_true, if_neg h, breakage?_innerConditions fs]
termination_by structural x => x

theorem breakage?_conditionItems : ∀ j : Json,
    (conditionItems .document (Value.ofJson j)).breakage? = (itemValues j).findSome? flaw?
  | .list js => by
    rw [Value.ofJson, conditionItems, breakage?_all, breakage?_indexed, itemValues,
      breakage?_conditionEach]
  | .null | .bool _ | .int _ | .float _ | .text _ | .object _ => rfl
termination_by structural x => x

theorem breakage?_conditionEach : ∀ js : List Json,
    (conditionEach .document (Value.ofJsonItems js)).findSome? breakage? =
      (eachValues js).findSome? flaw?
  | [] => rfl
  | j :: js => by
    rw [Value.ofJsonItems, conditionEach, List.findSome?_cons, eachValues, List.findSome?_append,
      breakage?_condition j, breakage?_conditionEach js]
    cases (conditionValues j).findSome? flaw? <;> rfl
termination_by structural x => x

end

/-! ## Decisions and templates -/

/-- Where each item breaks its check off by its own compare values, the list does by all. -/
lemma breakage?_each {check : Value → Checked α} {values : Json → List Json}
    (h : ∀ j, (check (Value.ofJson j)).breakage? = (values j).findSome? flaw?) (j : Json) :
    (each .document check (Value.ofJson j)).breakage? =
      (j.listed.flatMap values).findSome? flaw? := by
  cases j with
  | list js =>
    rw [Value.ofJson, each, items, bind, breakage?_all, breakage?_indexed, Value.ofJsonItems_eq,
      List.map_map, List.findSome?_map, listed]
    induction js with
    | nil => rfl
    | cons j js ih =>
      rw [List.findSome?_cons, List.flatMap_cons, List.findSome?_append, ← ih, ← h,
        Function.comp_apply, Function.comp_apply]
      cases (check (Value.ofJson j)).breakage? <;> rfl
  | _ => rfl

lemma breakage?_optionalCondition (j : Json) :
    (optionalCondition .document (Value.ofJson j)).breakage? =
      (conditionValues j).findSome? flaw? := by
  rw [← breakage?_condition]
  cases j with
  | null => rfl
  | _ =>
    rw [optionalCondition, breakage?_map]
    simp [Value.ofJson, Value.int]

lemma breakage?_alternative (j : Json) :
    (alternative .document (Value.ofJson j)).breakage? = (alternativeValues j).findSome? flaw? := by
  cases j with
  | object fs =>
    rw [Value.ofJson, alternative, fields, alternativeOf, alternativeValues, findSome?_held]
    simp [breakage?_present, breakage?_condition]
  | _ => rfl

lemma breakage?_branch :
    (branch .document (Value.ofJsonFields fs)).breakage? =
      (held "condition" conditionValues (.object fs)).findSome? flaw? := by
  rw [branch, branchOf, findSome?_held]
  simp [breakage?_present, breakage?_perhaps, breakage?_condition]

lemma breakage?_chain :
    (chain .document (Value.ofJsonFields fs)).breakage? =
      (held "branches" (fun i => i.listed.flatMap alternativeValues) (.object fs) ++
        held "dangling" conditionValues (.object fs)).findSome? flaw? := by
  rw [chain, chainOf, List.findSome?_append, findSome?_held, findSome?_held]
  simp [breakage?_perhaps, breakage?_each breakage?_alternative, breakage?_optionalCondition]

lemma breakage?_decision (j : Json) :
    (decision .document (Value.ofJson j)).breakage? = (decisionValues j).findSome? flaw? := by
  cases j with
  | object fs =>
    rw [Value.ofJson, decision, breakage?_tagged_object, decisionValues, findSome?_told]
    refine congrArg (Option.bind _) (funext fun tag => ?_)
    by_cases hbranch : tag = "branch"
    · subst hbranch
      exact (breakage?_map _ _).trans breakage?_branch
    by_cases hchain : tag = "chain"
    · subst hchain
      exact (breakage?_map _ _).trans breakage?_chain
    · have hallowed : [("branch", "Branch"), ("chain", "BranchChain")].any (·.1 == tag) = false := by
        simp [Ne.symm hbranch, Ne.symm hchain]
      rw [hallowed, if_neg Bool.false_ne_true, if_neg hbranch, if_neg hchain]
      rfl
  | _ => rfl

lemma breakage?_segment (j : Json) :
    (segment .document (Value.ofJson j)).breakage? = (segmentValues j).findSome? flaw? := by
  cases j with
  | object fs =>
    rw [Value.ofJson, segment, breakage?_tagged_object, segmentValues, findSome?_told]
    refine congrArg (Option.bind _) (funext fun tag => ?_)
    by_cases hdecision : tag = "decision"
    · subst hdecision
      refine (breakage?_map _ _).trans ?_
      rw [breakage?_required, if_pos rfl, findSome?_held]
      exact congrArg (Option.bind _) (funext breakage?_decision)
    rw [if_neg hdecision]
    by_cases hliteral : tag = "literal"
    · subst hliteral
      refine (breakage?_map _ _).trans ?_
      simp [breakage?_required]
    · have hallowed : [("literal", "LiteralSegment"), ("decision", "DecisionSegment")].any
          (·.1 == tag) = false := by
        simp [Ne.symm hliteral, Ne.symm hdecision]
      rw [hallowed]
      rfl
  | _ => rfl

/-- The check of a document is broken off by the first compare value that is flawed so. -/
theorem breakage?_template (j : Json) :
    (template .document (Value.ofJson j)).breakage? = j.compareValues.findSome? flaw? := by
  cases j with
  | object fs =>
    rw [Value.ofJson, template, fields, breakage?_map, breakage?_optional, compareValues,
      findSome?_held]
    exact congrArg (Option.bind _) (funext fun j => breakage?_each breakage?_segment j)
  | _ => rfl

end Checked

/-! ## Reading a document -/

namespace Template

/-- Reading ends with a template, or the document is refused: it is no JSON that may be read, or it
has issues. -/
inductive ReadOrRefused : Except InputError Template → Prop where
  | read (t : Template) : ReadOrRefused (.ok t)
  | notJson : ReadOrRefused (.error .notJson)
  | issues (is : List Issue) : ReadOrRefused (.error (.issues is))

lemma readOrRefused_iff {r : Except InputError Template} :
    ReadOrRefused r ↔ ∀ e, r ≠ .error (.decode e) := by
  constructor
  · rintro (t | _ | is) <;> simp
  · intro h
    match r with
    | .ok t => exact .read t
    | .error .notJson => exact .notJson
    | .error (.issues is) => exact .issues is
    | .error (.decode e) => exact absurd rfl (h e)

/-- The values that the document compares with, if it is JSON that may be read. -/
def comparedIn (source : String) : List Json :=
  match Json.read .document source with
  | .ok j => if j.nesting ≤ maxNesting then j.compareValues else []
  | .error _ => []

lemma toExcept_eq_decode {α : Type} {c : Checked α} {e : DecodeError} :
    c.toExcept = .error (.decode e) ↔ c.breakage? = some e := by
  cases c <;> simp [Checked.toExcept, Checked.breakage?]

lemma ofDocument_eq_decode {source : String} {e : DecodeError} :
    ofDocument source = .error (.decode e) ↔
      (comparedIn source).findSome? Json.flaw? = some e := by
  rw [ofDocument, comparedIn]
  cases Json.read .document source with
  | error e => simp
  | ok j =>
    dsimp only
    split_ifs
    · rw [toExcept_eq_decode, Checked.breakage?_template]
    · simp

/-- **How reading a document ends.** It ends with a template, or the document is refused, unless it
compares with a value whose first flaw is none that counts as an issue: a text that is no decimal
number, a number that is too large, content of a wrong type, or an element that no set can have.
Then it ends with the flaw of the first such value. -/
theorem reading_ends (source : String) :
    (ReadOrRefused (ofDocument source) ↔
      ∀ w ∈ comparedIn source, ∀ e, w.Flawed e → e.isIssue = true) ∧
    ∀ e, ofDocument source = .error (.decode e) ↔
      ∃ before w after, comparedIn source = before ++ w :: after ∧
        (∀ b ∈ before, ∀ e', b.Flawed e' → e'.isIssue = true) ∧
        w.Flawed e ∧ e.isIssue = false := by
  have hnone : ∀ w : Json, w.flaw? = none ↔ ∀ e, w.Flawed e → e.isIssue = true := by
    intro w
    rw [Option.eq_none_iff_forall_ne_some]
    refine forall_congr' fun e => ?_
    rw [ne_eq, Json.flaw?_eq_some, not_and, Bool.not_eq_false]
  refine ⟨?_, fun e => ?_⟩
  · simp only [readOrRefused_iff, ne_eq, ofDocument_eq_decode]
    rw [← Option.eq_none_iff_forall_ne_some, List.findSome?_eq_none_iff]
    exact forall₂_congr fun w _ => hnone w
  · rw [ofDocument_eq_decode, List.findSome?_eq_some_iff]
    simp only [hnone, Json.flaw?_eq_some]
    refine exists_congr fun before => exists_congr fun w => exists_congr fun after => ?_
    exact and_congr_right fun _ => and_comm

/-- A text that is no decimal number makes reading end with neither. -/
theorem not_every_document_read_or_refused : ¬ ∀ source, ReadOrRefused (ofDocument source) := by
  intro h
  have honce : (comparingJson (Value.tagged "decimal" (.text "x"))).NamesOnce :=
    namesOnce_comparingJson (by simp [Value.tagged, Json.NamesOnce, Json.NamesOnceFields])
  have hread := readOrRefused_iff.mp
    (h ((comparingJson (Value.tagged "decimal" (.text "x"))).render .compact))
    (.decimal .malformed)
  rw [ofDocument, Json.read_render honce] at hread
  exact hread rfl

end Template

end QueryTemplate
