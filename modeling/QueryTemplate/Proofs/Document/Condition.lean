import QueryTemplate.Document.ConditionReader
import QueryTemplate.Document.Writer
import QueryTemplate.Proofs.Document.Checked
import QueryTemplate.Proofs.Document.Storable

/-!
# Conditions as they come back from a document

A written condition is read as the same condition with its compare values as they come back, and
that exactly when a document keeps each of these values.  Everything else, names, expressions,
operators and the words for modes, is read as it was written.
-/

namespace QueryTemplate

namespace Checked

variable {α : Type}

/-! ## Fields -/

@[simp] lemma text_text (s : String) : text (.text s) = .ok s := rfl

/-- Texts that are written are read as texts. -/
lemma names_toJson (ns : Names) : names .document ns.toJson.given = .ok ns := by
  have houtcomes : (ns.toList.map Value.text).map text = ns.toList.map .ok := by
    rw [List.map_map]
    rfl
  have hall : all (indexed 0 ((ns.toList.map Value.text).map text)) = .ok ns.toList :=
    all_eq_ok.mpr ((indexed_eq_ok 0).mpr houtcomes)
  have hfew : ((ns.toList.map Value.text).map text).any isOk = true := by
    rw [houtcomes]
    rfl
  have hgiven : ns.toJson.given = .list (ns.toList.map Value.text) := by
    rw [Names.toJson, Json.given_list, List.map_map]
    rfl
  simp only [hgiven, names, items, bind, hall, hfew]
  rfl

lemma expression_source (e : Expression) : expression (.text e.source) = .ok e := by
  have hread : Expression.ofSource e.source = .ok e := by
    unfold Expression.ofSource
    split
    · next tree h => exact congrArg Except.ok (Expression.ext_source rfl)
    · next err h => rw [e.parse_source] at h; cases h
  rw [expression, text_text, bind, hread]

lemma oneOf_word {values : List α} {word : α → String} {a : α} (hmem : a ∈ values)
    (hword : ∀ b ∈ values, word b = word a → b = a) : oneOf values word (.text (word a)) = .ok a := by
  have hfind : values.find? (fun b => word b == word a) = some a := by
    have hsome : (values.find? fun b => word b == word a).isSome = true :=
      List.find?_isSome.mpr ⟨a, hmem, beq_self_eq_true (word a)⟩
    obtain ⟨b, hb⟩ := Option.isSome_iff_exists.mp hsome
    have hb' : (word b == word a) = true := List.find?_some (p := fun b => word b == word a) hb
    rw [hb, hword b (List.mem_of_find?_eq_some hb) (eq_of_beq hb')]
  simp [oneOf, hfind]

@[simp] lemma compareValue_eq_ok {v w : Value} : compareValue v = .ok w ↔ v.decode = .ok w := by
  rw [compareValue]
  cases v.decode with
  | ok a => simp
  | error e =>
    simp only [reduceCtorEq, iff_false]
    split_ifs <;> simp [fault]

/-- A map whose tag is allowed is checked as its tag says. -/
lemma tagged_map_eq_ok {origin : Origin} {allowed : List (String × String)} {readOnly : Bool}
    {es : List (Value × Value)} {tag : String}
    {check : String → List (Value × Value) → Checked α} {a : α}
    (htag : Value.entry? "type" es = some (.text tag)) (hallowed : allowed.any (·.1 == tag) = true) :
    tagged origin allowed (.map readOnly es) check = .ok a ↔ check tag es = .ok a := by
  simp only [tagged, htag, hallowed, if_true, under_eq_ok]

end Checked

/-! ## The condition that comes back -/

namespace Condition

mutual

/-- The compare values of a condition and of those it denies. -/
def compareValues : Condition → List Value
  | .compare _ _ v => [v]
  | .noneOf cs => compareValuesOf cs
  | _ => []
termination_by structural x => x

/-- The compare values of conditions. -/
def compareValuesOf : List Condition → List Value
  | [] => []
  | c :: cs => compareValues c ++ compareValuesOf cs
termination_by structural x => x

end

mutual

/-- The condition with its compare values as they come back. -/
def restored : Condition → Condition
  | .compare name op v => .compare name op v.restored
  | .noneOf cs => .noneOf (restoredEach cs)
  | c => c
termination_by structural x => x

/-- The conditions with their compare values as they come back. -/
def restoredEach : List Condition → List Condition
  | [] => []
  | c :: cs => restored c :: restoredEach cs
termination_by structural x => x

end

open Checked

/-- A condition that holds no others is read by its tag. -/
lemma condition_object {fs : List (String × Json)} {tag : String} {c : Condition}
    (htag : Value.entry? "type" (fs.map fun f => (.text f.1, f.2.given)) = some (.text tag))
    (hallowed : conditionTags.any (·.1 == tag) = true) (hne : tag ≠ "none_of") :
    condition .document (Json.object fs).given = .ok c ↔
      simpleCondition .document tag (fs.map fun f => (.text f.1, f.2.given)) = .ok c := by
  rw [Json.given_object, condition, tagged_map_eq_ok htag hallowed, if_neg hne]

section Plain

variable {tag : String}

/-- The conditions on names differ only in their tag. -/
lemma condition_names {make : Names → Condition} (hallowed : conditionTags.any (·.1 == tag) = true)
    (hne : tag ≠ "none_of") (hcheck : ∀ es, simpleCondition .document tag es =
      (required "names" es (names .document)).map make) (ns : Names) :
    condition .document (Json.object [("type", .text tag), ("names", ns.toJson)]).given =
      .ok (make ns) := by
  rw [condition_object rfl hallowed hne, hcheck, map_eq_ok]
  exact ⟨ns, required_eq_ok.mpr ⟨_, rfl, names_toJson ns⟩, rfl⟩

/-- So do those on an expression. -/
lemma condition_expression {make : Expression → Condition}
    (hallowed : conditionTags.any (·.1 == tag) = true) (hne : tag ≠ "none_of")
    (hcheck : ∀ es, simpleCondition .document tag es =
      (required "expression" es expression).map make) (e : Expression) :
    condition .document (Json.object [("expression", .text e.source), ("type", .text tag)]).given =
      .ok (make e) := by
  rw [condition_object rfl hallowed hne, hcheck, map_eq_ok]
  exact ⟨e, required_eq_ok.mpr ⟨_, rfl, expression_source e⟩, rfl⟩

lemma condition_contains (ns : Names) (mode : Quantity) :
    condition .document (Json.object [("type", .text "contains"), ("names", ns.toJson),
      ("mode", .text mode.text)]).given = .ok (.contains ns mode) := by
  rw [condition_object rfl (by decide) (by decide)]
  have hmode : oneOf Quantity.values Quantity.text (.text mode.text) = .ok mode :=
    oneOf_word (by cases mode <;> decide) (by cases mode <;> decide +kernel)
  refine map_eq_ok.mpr ⟨(ns, mode), and_eq_ok.mpr ⟨?_, ?_⟩, rfl⟩
  · exact required_eq_ok.mpr ⟨_, rfl, names_toJson ns⟩
  · exact optional_eq_ok.mpr (.inr ⟨_, rfl, hmode⟩)

lemma condition_nullOrEmpty (name : String) (status : Emptiness) :
    condition .document (Json.object [("type", .text "null_or_empty"), ("name", .text name),
      ("status", .text status.text)]).given = .ok (.nullOrEmpty name status) := by
  rw [condition_object rfl (by decide) (by decide)]
  have hstatus : oneOf Emptiness.values Emptiness.text (.text status.text) = .ok status :=
    oneOf_word (by cases status <;> decide) (by cases status <;> decide +kernel)
  refine map_eq_ok.mpr ⟨(name, status), and_eq_ok.mpr ⟨?_, ?_⟩, rfl⟩
  · exact required_eq_ok.mpr ⟨_, rfl, text_text name⟩
  · exact required_eq_ok.mpr ⟨_, rfl, hstatus⟩

lemma condition_literal (b : Bool) :
    condition .document (Json.object [("type", .text "literal"), ("value", .bool b)]).given =
      .ok (.literal b) := by
  have hcheck : ∀ es, simpleCondition .document "literal" es =
      (required "value" es (Checked.bool .document)).map .literal := by
    intro es
    rw [simpleCondition]
    all_goals decide
  rw [condition_object rfl (by decide) (by decide), hcheck, map_eq_ok]
  exact ⟨b, required_eq_ok.mpr ⟨_, rfl, rfl⟩, rfl⟩

end Plain

/-- A comparison with these fields is made exactly when its value is read. -/
lemma simpleCondition_compare {origin : Origin} {es : List (Value × Value)} {name : String}
    {op : Operator} {given v : Value} (hname : Value.entry? "name" es = some (.text name))
    (hop : Value.entry? "op" es = some (.text op.text))
    (hvalue : Value.entry? "value" es = some given) :
    simpleCondition origin "compare" es = .ok (.compare name op v) ↔ given.decode = .ok v := by
  have hname : required "name" es text = .ok name := required_eq_ok.mpr ⟨_, hname, rfl⟩
  have hop : required "op" es (oneOf Operator.all Operator.text) = .ok op :=
    required_eq_ok.mpr ⟨_, hop, oneOf_word (Operator.mem_all op) (by cases op <;> decide +kernel)⟩
  have hvalue : optional "value" es .null compareValue = .ok v ↔ given.decode = .ok v := by
    rw [Checked.optional, perhaps, hvalue, under_eq_ok, compareValue_eq_ok]
  simp only [simpleCondition, compareOf, map_eq_ok, and_eq_ok, hname, hop, Prod.exists]
  rw [← hvalue]
  simp

/-- A comparison comes back exactly when its value does. -/
lemma condition_compare (name : String) (op : Operator) (v : Value) (j : Json) :
    condition .document (Json.object [("type", .text "compare"), ("name", .text name),
        ("op", .text op.text), ("value", j)]).given = .ok (.compare name op v) ↔
      Value.back j = .ok v := by
  rw [condition_object rfl (by decide) (by decide)]
  exact simpleCondition_compare rfl rfl rfl

lemma conditionEach_eq (origin : Origin) : ∀ xs, conditionEach origin xs = xs.map (condition origin)
  | [] => rfl
  | x :: xs => congrArg (condition origin x :: ·) (conditionEach_eq origin xs)

/-- Conditions that are denied are read one by one. -/
lemma condition_noneOf (js : List Json) (cs : List Condition) :
    condition .document (Json.object [("type", .text "none_of"), ("conditions", .list js)]).given =
        .ok (.noneOf cs) ↔
      js.map (fun j => condition .document j.given) = cs.map .ok := by
  have hinner : ∀ r, innerConditions .document
      [(.text "type", .text "none_of"), (.text "conditions", .list (js.map Json.given))] = .ok r ↔
      js.map (fun j => condition .document j.given) = r.map .ok := by
    intro r
    rw [innerConditions, if_neg (by decide), innerConditions, if_pos (by decide), under_eq_ok,
      conditionItems, all_eq_ok, indexed_eq_ok, conditionEach_eq, List.map_map]
    rfl
  rw [Json.given_object, condition, tagged_map_eq_ok rfl (by decide), if_pos rfl, map_eq_ok]
  simp only [List.map_cons, List.map_nil, Json.given_text, Json.given_list, hinner]
  exact ⟨fun ⟨r, hr, h⟩ => noneOf.inj h ▸ hr, fun h => ⟨cs, h, rfl⟩⟩

lemma toJsonAll_eq_ok {cs : List Condition} {js : List Json} :
    toJsonAll cs = .ok js ↔ cs.Forall₂ (fun c j => c.toJson = .ok j) js := by
  induction cs generalizing js with
  | nil => simp [toJsonAll, eq_comm]
  | cons c cs ih =>
    rw [toJsonAll, Outcome.bind_eq_ok, List.forall₂_cons_left_iff]
    constructor
    · rintro ⟨j, hj, h⟩
      obtain ⟨is, his, h⟩ := Outcome.bind_eq_ok.mp h
      exact ⟨j, is, hj, ih.mp his, (Except.ok.inj h).symm⟩
    · rintro ⟨j, is, hj, his, rfl⟩
      exact ⟨j, hj, Outcome.bind_eq_ok.mpr ⟨is, ih.mpr his, rfl⟩⟩

lemma restoredEach_eq : ∀ cs, restoredEach cs = cs.map restored
  | [] => rfl
  | c :: cs => congrArg (restored c :: ·) (restoredEach_eq cs)

lemma mem_compareValuesOf {v : Value} : ∀ {cs : List Condition},
    v ∈ compareValuesOf cs ↔ ∃ c ∈ cs, v ∈ c.compareValues
  | [] => by simp [compareValuesOf]
  | c :: cs => by rw [compareValuesOf, List.mem_append, mem_compareValuesOf, List.exists_mem_cons_iff]

/-- **A condition that comes back.** It is the condition that was written, with its compare values
as they come back, exactly when a document keeps each of these. -/
theorem condition_toJson : ∀ (c : Condition) {j : Json}, (∀ v ∈ c.compareValues, v.WellFormed) →
    c.toJson = .ok j →
    (condition .document j.given = .ok c.restored ↔ ∀ v ∈ c.compareValues, v.Lossless)
  | .hasParam ns, _, _, rfl | .hasNoParam ns, _, _, rfl | .isNull ns, _, _, rfl
  | .isNotNull ns, _, _, rfl =>
    iff_of_true (condition_names (by decide) (by decide) (fun _ => rfl) ns) (List.forall_mem_nil _)
  | .isTrue e, _, _, rfl | .isFalse e, _, _, rfl =>
    iff_of_true (condition_expression (by decide) (by decide) (fun _ => rfl) e)
      (List.forall_mem_nil _)
  | .contains ns mode, _, _, rfl =>
    iff_of_true (condition_contains ns mode) (List.forall_mem_nil _)
  | .nullOrEmpty name status, _, _, rfl =>
    iff_of_true (condition_nullOrEmpty name status) (List.forall_mem_nil _)
  | .literal b, _, _, rfl => iff_of_true (condition_literal b) (List.forall_mem_nil _)
  | .compare name op v, j, hv, h => by
    obtain ⟨i, hi, rfl⟩ := Outcome.map_eq_ok.mp h
    have hback := Value.back_encode (hv v (List.mem_singleton_self v)) hi
    rw [compareValues, List.forall_mem_singleton, ← hback]
    exact condition_compare name op v.restored i
  | .noneOf cs, j, hv, h => by
    obtain ⟨js, hjs, rfl⟩ := Outcome.map_eq_ok.mp h
    have hforall := toJsonAll_eq_ok.mp hjs
    have hread := Outcome.map_eq_map_iff hforall fun c hc j hj =>
      condition_toJson c (fun v hvc => hv v (mem_compareValuesOf.mpr ⟨c, hc, hvc⟩)) hj
    rw [restored, restoredEach_eq, condition_noneOf, List.map_map]
    refine hread.trans ?_
    simp only [compareValues, mem_compareValuesOf]
    exact ⟨fun h v ⟨c, hc, hv⟩ => h c hc v hv, fun h c hc v hv => h v ⟨c, hc, hv⟩⟩
termination_by c => sizeOf c
decreasing_by
  have := List.sizeOf_lt_of_mem hc
  simp
  omega

/-! ## Writing -/

/-- No field of a written condition is named twice. -/
theorem namesOnce_toJson : ∀ (c : Condition) {j : Json}, (∀ v ∈ c.compareValues, v.WellFormed) →
    c.toJson = .ok j → j.NamesOnce
  | .hasParam ns, _, _, rfl | .hasNoParam ns, _, _, rfl | .isNull ns, _, _, rfl
  | .isNotNull ns, _, _, rfl | .contains ns mode, _, _, rfl => by
    have hnames : ns.toJson.NamesOnce := by
      rw [Names.toJson, Json.NamesOnce, Value.namesOnceItems_iff, List.forall_mem_map]
      intro s _
      trivial
    simp [Json.NamesOnce, Json.NamesOnceFields, hnames]
  | .isTrue _, _, _, rfl | .isFalse _, _, _, rfl | .nullOrEmpty _ _, _, _, rfl
  | .literal _, _, _, rfl => by simp [Json.NamesOnce, Json.NamesOnceFields]
  | .compare name op v, j, hv, h => by
    obtain ⟨i, hi, rfl⟩ := Outcome.map_eq_ok.mp h
    have hvalue := Value.namesOnce_encode (hv v (List.mem_singleton_self v)) hi
    simp [Json.NamesOnce, Json.NamesOnceFields, hvalue]
  | .noneOf cs, j, hv, h => by
    obtain ⟨js, hjs, rfl⟩ := Outcome.map_eq_ok.mp h
    have hitems : Json.NamesOnceItems js :=
      (Value.namesOnceItems_iff js).mpr <| Outcome.forall_of_forall₂ (toJsonAll_eq_ok.mp hjs)
        fun c hc j hj => namesOnce_toJson c
          (fun v hvc => hv v (mem_compareValuesOf.mpr ⟨c, hc, hvc⟩)) hj
    simp [Json.NamesOnce, Json.NamesOnceFields, hitems]
termination_by c => sizeOf c
decreasing_by
  have := List.sizeOf_lt_of_mem hc
  simp
  omega

/-- The compare values of a written condition can be written. -/
theorem exists_encode : ∀ (c : Condition) {j : Json}, c.toJson = .ok j →
    ∀ v ∈ c.compareValues, ∃ i, v.encode = .ok i
  | .hasParam _, _, _ | .hasNoParam _, _, _ | .isNull _, _, _ | .isNotNull _, _, _
  | .contains _ _, _, _ | .isTrue _, _, _ | .isFalse _, _, _ | .nullOrEmpty _ _, _, _
  | .literal _, _, _ => List.forall_mem_nil _
  | .compare name op v, j, h => by
    obtain ⟨i, hi, -⟩ := Outcome.map_eq_ok.mp h
    exact List.forall_mem_singleton.mpr ⟨i, hi⟩
  | .noneOf cs, j, h => by
    obtain ⟨js, hjs, -⟩ := Outcome.map_eq_ok.mp h
    intro v hv
    obtain ⟨c, hc, hv⟩ := mem_compareValuesOf.mp hv
    obtain ⟨i, hi⟩ := Outcome.exists_of_forall₂ (toJsonAll_eq_ok.mp hjs) c hc
    exact exists_encode c hi v hv
termination_by c => sizeOf c
decreasing_by
  have := List.sizeOf_lt_of_mem hc
  simp
  omega

/-- A condition has JSON when its compare values have. -/
theorem exists_toJson : ∀ c : Condition, (∀ v ∈ c.compareValues, ∃ i, v.encode = .ok i) →
    ∃ j, c.toJson = .ok j
  | .hasParam _, _ | .hasNoParam _, _ | .isNull _, _ | .isNotNull _, _ | .contains _ _, _
  | .isTrue _, _ | .isFalse _, _ | .nullOrEmpty _ _, _ | .literal _, _ => ⟨_, rfl⟩
  | .compare name op v, hv => by
    obtain ⟨i, hi⟩ := hv v (List.mem_singleton_self v)
    exact ⟨_, Outcome.map_eq_ok.mpr ⟨i, hi, rfl⟩⟩
  | .noneOf cs, hv => by
    obtain ⟨js, hjs⟩ := Outcome.exists_forall₂ fun c hc => exists_toJson c
      fun v hvc => hv v (mem_compareValuesOf.mpr ⟨c, hc, hvc⟩)
    exact ⟨_, Outcome.map_eq_ok.mpr ⟨js, toJsonAll_eq_ok.mpr hjs, rfl⟩⟩
termination_by c => sizeOf c
decreasing_by
  have := List.sizeOf_lt_of_mem hc
  simp
  omega

/-- The integers of a written condition are those of its compare values. -/
theorem isShort_toJson : ∀ (c : Condition) {j : Json}, c.toJson = .ok j →
    (j.isShort = true ↔ ∀ v ∈ c.compareValues, v.Legible)
  | .hasParam ns, _, rfl | .hasNoParam ns, _, rfl | .isNull ns, _, rfl | .isNotNull ns, _, rfl
  | .contains ns _, _, rfl => by
    have hnames : ns.toJson.isShort = true := by
      rw [Names.toJson, Json.isShort, Value.areShort_iff, List.forall_mem_map]
      intro s _
      rfl
    simp [Json.isShort, Json.areShortFields, hnames, compareValues]
  | .isTrue _, _, rfl | .isFalse _, _, rfl | .nullOrEmpty _ _, _, rfl | .literal _, _, rfl => by
    simp [Json.isShort, Json.areShortFields, compareValues]
  | .compare name op v, j, h => by
    obtain ⟨i, hi, rfl⟩ := Outcome.map_eq_ok.mp h
    simp [Json.isShort, Json.areShortFields, compareValues, Value.isShort_encode hi]
  | .noneOf cs, j, h => by
    obtain ⟨js, hjs, rfl⟩ := Outcome.map_eq_ok.mp h
    have hitems : Json.areShort js = true ↔ ∀ c ∈ cs, ∀ v ∈ c.compareValues, v.Legible :=
      Value.areShort_iff.trans <| Outcome.forall_iff_of_forall₂ (toJsonAll_eq_ok.mp hjs)
        fun c hc j hj => isShort_toJson c hj
    simp only [Json.isShort, Json.areShortFields, Bool.true_and, Bool.and_true, hitems,
      compareValues, mem_compareValuesOf]
    constructor
    · rintro h v ⟨c, hc, hv⟩
      exact h c hc v hv
    · intro h c hc v hv
      exact h v ⟨c, hc, hv⟩
termination_by c => sizeOf c
decreasing_by
  have := List.sizeOf_lt_of_mem hc
  simp
  omega

/-! ## Nesting -/

mutual

/-- How deep a condition is nested in a document. -/
def nesting : Condition → ℕ
  | .compare _ _ v => v.nesting + 1
  | .noneOf cs => Value.deepest (nestingEach cs) + 1
  | .hasParam _ | .hasNoParam _ | .isNull _ | .isNotNull _ | .contains _ _ => 2
  | .isTrue _ | .isFalse _ | .nullOrEmpty _ _ | .literal _ => 1
termination_by structural x => x

/-- How deep the list of each condition is nested. -/
def nestingEach : List Condition → List ℕ
  | [] => []
  | c :: cs => (nesting c + 1) :: nestingEach cs
termination_by structural x => x

end

lemma nestingEach_eq : ∀ cs, nestingEach cs = cs.map fun c => c.nesting + 1
  | [] => rfl
  | c :: cs => congrArg ((c.nesting + 1) :: ·) (nestingEach_eq cs)

lemma nesting_names (ns : Names) : ns.toJson.nesting = 1 := by
  have htexts : ∀ n ∈ ns.toList.map (fun _ => 1), n ≤ 1 := by simp
  have hfirst : 1 ∈ ns.toList.map (fun _ => 1) := by simp [Names.toList]
  rw [Names.toJson, Json.nesting, Value.nestingOfItems_eq, List.map_map]
  exact le_antisymm (Value.deepest_le.mpr htexts) (Value.deepest_le.mp le_rfl 1 hfirst)

/-- **How deep a written condition is nested.** -/
theorem nesting_toJson : ∀ (c : Condition) {j : Json}, c.toJson = .ok j → j.nesting = c.nesting
  | .hasParam ns, _, rfl | .hasNoParam ns, _, rfl | .isNull ns, _, rfl | .isNotNull ns, _, rfl
  | .contains ns _, _, rfl => by
    simp [Json.nesting, Json.nestingOfFields, nesting_names, nesting]
  | .isTrue _, _, rfl | .isFalse _, _, rfl | .nullOrEmpty _ _, _, rfl | .literal _, _, rfl => by
    simp [Json.nesting, Json.nestingOfFields, nesting]
  | .compare name op v, j, h => by
    obtain ⟨i, hi, rfl⟩ := Outcome.map_eq_ok.mp h
    simp [Json.nesting, Json.nestingOfFields, nesting, Value.nesting_encode hi]
  | .noneOf cs, j, h => by
    obtain ⟨js, hjs, rfl⟩ := Outcome.map_eq_ok.mp h
    have hitems := Outcome.map_eq_map_of_forall₂ (toJsonAll_eq_ok.mp hjs) fun c hc j hj =>
      congrArg (· + 1) (nesting_toJson c hj)
    simp [Json.nesting, Json.nestingOfFields, nesting, nestingEach_eq, Value.nestingOfItems_eq,
      hitems]
termination_by c => sizeOf c
decreasing_by
  have := List.sizeOf_lt_of_mem hc
  simp
  omega

lemma writeErrorAmong?_eq_none {level : ℕ} : ∀ {cs : List Condition},
    writeErrorAmong? level cs = none ↔ ∀ c ∈ cs, c.writeError? level = none
  | [] => by simp [writeErrorAmong?]
  | c :: cs => by
    rw [writeErrorAmong?, Option.or_eq_none_iff, writeErrorAmong?_eq_none, List.forall_mem_cons]

/-- The obstacle to writing a condition without others in it is told by its JSON. -/
lemma writeError?_single {c : Condition} (h : ∀ cs, c ≠ .noneOf cs) (level : ℕ) :
    c.writeError? level = match c.toJson with
      | .error e => some (.compareValue e)
      | .ok j => if maxLevels < level + j.height then some .tooDeep else none :=
  writeError?.eq_2 level c h

/-- A condition without others in it can be written when its JSON has not too many levels. -/
lemma writeError?_of_toJson {c : Condition} {level : ℕ} {j : Json} (h : ∀ cs, c ≠ .noneOf cs)
    (hj : c.toJson = .ok j) (hlevel : level + j.height ≤ maxLevels) :
    c.writeError? level = none := by
  rw [writeError?_single h, hj]
  exact if_neg (not_lt.mpr hlevel)

lemma writeError?_of_nesting {c : Condition} {level : ℕ} (h : ∀ cs, c ≠ .noneOf cs)
    (hlevel : level + c.nesting < maxLevels)
    (hv : ∀ v ∈ c.compareValues, ∃ i, v.encode = .ok i) : c.writeError? level = none := by
  obtain ⟨j, hj⟩ := exists_toJson c hv
  have hheight := j.height_le
  rw [nesting_toJson c hj] at hheight
  exact writeError?_of_toJson h hj (by omega)

/-- A condition that is not nested too deep can be written. -/
theorem writeError?_eq_none : ∀ (c : Condition) {level : ℕ}, level + c.nesting < maxLevels →
    (∀ v ∈ c.compareValues, ∃ i, v.encode = .ok i) → c.writeError? level = none
  | .noneOf cs, level, hlevel, hv => by
    have hinner : ∀ c ∈ cs, level + 2 + c.nesting < maxLevels := by
      intro c hc
      have hdeepest := Value.deepest_le.mp le_rfl (c.nesting + 1)
        (List.mem_map_of_mem (f := fun c => c.nesting + 1) hc)
      rw [nesting, nestingEach_eq] at hlevel
      omega
    rw [writeError?, if_neg (by rw [nesting] at hlevel; omega), writeErrorAmong?_eq_none]
    exact fun c hc => writeError?_eq_none c (hinner c hc)
      fun v hvc => hv v (mem_compareValuesOf.mpr ⟨c, hc, hvc⟩)
  | .hasParam _, _, hlevel, hv | .hasNoParam _, _, hlevel, hv | .isNull _, _, hlevel, hv
  | .isNotNull _, _, hlevel, hv | .contains _ _, _, hlevel, hv | .isTrue _, _, hlevel, hv
  | .isFalse _, _, hlevel, hv | .nullOrEmpty _ _, _, hlevel, hv | .literal _, _, hlevel, hv
  | .compare _ _ _, _, hlevel, hv => writeError?_of_nesting (by simp) hlevel hv
termination_by c => sizeOf c
decreasing_by
  have := List.sizeOf_lt_of_mem hc
  simp
  omega

/-- A part of a document is the JSON of its condition, unless an obstacle keeps it from being
written. -/
lemma part_eq_ok {c : Condition} {level : ℕ} {j : Json} :
    c.part level = .ok j ↔ c.writeError? level = none ∧ c.toJson = .ok j := by
  rw [part]
  cases c.writeError? level with
  | some e => simp
  | none => simp [Outcome.mapError_eq_ok]

end Condition

end QueryTemplate
