import QueryTemplate.Engine.Fragment
import QueryTemplate.Proofs.Engine.Predicates
import QueryTemplate.Proofs.Engine.Reading
import QueryTemplate.Proofs.Evaluation.Choice

/-!
# What the engine makes of a decision

The evaluation of a chain stops at the first alternative whose condition holds; the engine looks at
one fragment after another and never stops.  The guards make up for it: each denies the conditions
before its own, so the guard that is true is that of the alternative the evaluation chooses, or that
of the text for the other case.  All other fragments stand for the empty text.
-/

namespace QueryTemplate

namespace Engine

variable {b : Binding}

/-! ## Fragments -/

lemma phrase_quote (s : String) : Phrase .operand (quote s) (.text s) := by
  have hquote : quote s = "'" ++ String.ofList (doubleMarks s.toList) ++ "'" := by
    rw [← String.toList_inj, quote]
    simp
  rw [hquote]
  exact .text (by simpa using doubled_doubleMarks s.toList)

lemma Evaluator.value_of_decides (E : Evaluator) {r : Rank} {s : String} {v : Bool}
    (h : Decides b r s v) : E.value b s = some (.bool v) := by
  obtain ⟨t, ht, hv⟩ := h
  exact E.value_of_phrase ht hv

/-- A fragment stands for one of its texts, as its guard decides. -/
lemma Evaluator.yields_fragment (E : Evaluator) {guard : String} {v : Bool}
    (h : Decides b .disjunction guard v) (x y : String) :
    E.Yields b (fragment guard x y) (if v then x else y) := by
  obtain ⟨t, ht, hv⟩ := h
  have htext (s : String) : Phrase .disjunction (quote s) (.text s) :=
    (phrase_quote s).looser.looser.looser.looser
  refine ⟨choice guard x y, rfl, E.value_of_phrase (.choice ht (htext x) (htext y)) ?_⟩
  cases v <;> simp [Term.value, hv]

/-! ## Guards -/

/-- A guard holds where its own condition does and none of those before it. -/
lemma decides_guardAfter {ds : List Condition} {c : Condition} (hds : ∀ d ∈ ds, d.Plain)
    (hc : c.Plain) : Decides b .conjunction (guardAfter (ds.map predicate) (predicate c))
      (ds.all (fun d => !d.holds b) && c.holds b) := by
  cases ds with
  | nil => simpa [guardAfter] using hc.decides
  | cons d ds =>
    -- the denials and the own condition, each beside its truth value
    have hparts : ∀ x ∈ (d :: ds).map (fun d => ("!(" ++ predicate d ++ ")", !d.holds b)) ++
        [("(" ++ predicate c ++ ")", c.holds b)], Decides b .comparison x.1 x.2 := by
      intro x hx
      rcases List.mem_append.mp hx with hx | hx
      · obtain ⟨d, hd, rfl⟩ := List.mem_map.mp hx
        exact (hds d hd).decides.denial.looser
      · obtain rfl := List.mem_singleton.mp hx
        exact hc.decides.group.looser.looser
    have h := Decides.conjunction hparts (by simp)
    simpa [guardAfter, Function.comp_def, Bool.and_assoc] using h

lemma alternativeFragments_eq (earlier : List String) (as : List Alternative) :
    alternativeFragments earlier as = as.mapIdx fun i a =>
      fragment (guardAfter (earlier ++ (as.take i).map fun d => predicate d.condition)
        (predicate a.condition)) a.text "" := by
  induction as generalizing earlier with
  | nil => rfl
  | cons a as ih =>
    rw [alternativeFragments, ih, List.mapIdx_cons]
    simp

end Engine

open Engine

variable {b : Binding}

/-- Every condition of the chain is plain. -/
def Chain.Plain (c : Chain) : Prop :=
  ∀ a ∈ c.alternatives, a.condition.Plain

/-- The guard of a condition at a place among the alternatives. -/
def Chain.guardAt (c : Chain) (i : ℕ) (own : Condition) : String :=
  guardAfter ((c.alternatives.take i).map fun d => predicate d.condition) (predicate own)

/-- The guards of a chain with their texts, in the order of its fragments: those of the
alternatives, then that of the text for the other case. -/
def Chain.guarded (c : Chain) : List (String × String) :=
  (c.alternatives.mapIdx fun i a => (c.guardAt i a.condition, a.text)) ++
    c.elseText.toList.map fun s => ("(" ++ predicate c.elseCondition ++ ") == true", s)

/-- The place of what is chosen among the fragments of a chain; the text for the other case comes
after the alternatives. -/
def Choice.place (c : Chain) : Choice → Option ℕ
  | .alternative index _ => some index
  | .elseText _ => some c.alternatives.length
  | .nothing | .ignored _ => none

namespace Chain

variable {c : Chain}

lemma engineText_of_isComplete (hc : c.isComplete) (h : c.Plain) :
    c.engineText = .ok ("\n".intercalate (c.guarded.map fun p => fragment p.1 p.2 "")) := by
  have halternatives : alternativeFragments [] c.alternatives =
      (c.alternatives.mapIdx fun i a => (c.guardAt i a.condition, a.text)).map
        fun p => fragment p.1 p.2 "" := by
    rw [alternativeFragments_eq]
    ext
    simp [guardAt]
  have hnone : predicateErrorAmong? (c.alternatives.map (·.condition)) = none := by
    refine Condition.predicateErrorAmong?_eq_none.mpr fun d hd => ?_
    obtain ⟨a, ha, rfl⟩ := List.mem_map.mp hd
    exact (h a ha).predicateError?
  rw [engineText, if_pos hc, hnone, chainFragments, guarded, List.map_append, halternatives]
  cases c.elseText <;> rfl

/-- The guards before the last are those of the alternatives. -/
lemma guarded_of_lt {i : ℕ} (hi : i < c.alternatives.length) :
    c.guarded[i]? =
      some (c.guardAt i c.alternatives[i].condition, c.alternatives[i].text) := by
  rw [guarded, List.getElem?_append_left (by simpa using hi)]
  simp [hi]

/-- Behind the guards of the alternatives comes that of the text for the other case. -/
lemma guarded_of_le {i : ℕ} {guard text : String} (hi : c.alternatives.length ≤ i) :
    c.guarded[i]? = some (guard, text) ↔ i = c.alternatives.length ∧ c.elseText = some text ∧
      guard = "(" ++ predicate c.elseCondition ++ ") == true" := by
  obtain ⟨k, rfl⟩ := Nat.exists_eq_add_of_le hi
  rw [guarded, List.getElem?_append_right (by simp), List.length_mapIdx, Nat.add_sub_cancel_left]
  rcases c.elseText with _ | s
  · simp
  · cases k <;> simp [and_comm, eq_comm]

lemma Plain.take (h : c.Plain) (i : ℕ) :
    ∀ d ∈ (c.alternatives.take i).map (·.condition), d.Plain := by
  rintro _ hd
  obtain ⟨a, ha, rfl⟩ := List.mem_map.mp hd
  exact h a (List.mem_of_mem_take ha)

lemma Plain.elseCondition (h : c.Plain) : c.elseCondition.Plain := by
  refine .noneOf fun d hd => ?_
  obtain ⟨a, ha, rfl⟩ := List.mem_map.mp hd
  exact h a ha

/-- The search for an alternative ends. -/
lemma Plain.exists_found (h : c.Plain) : ∃ found, firstHolding b 0 c.alternatives = .ok found := by
  have heval := h.elseCondition.eval_eq (b := b)
  rw [eval_elseCondition, Outcome.map_eq_ok] at heval
  obtain ⟨found, hfound, -⟩ := heval
  exact ⟨found, hfound⟩

/-- The alternative at a place is found exactly where its condition holds and none before it. -/
lemma Plain.found_iff (h : c.Plain) {found : Option (ℕ × String)}
    (hfound : firstHolding b 0 c.alternatives = .ok found) {i : ℕ}
    (hi : i < c.alternatives.length) : (∃ s, found = some (i, s)) ↔
      (((c.alternatives.take i).map (·.condition)).all (fun d => !d.holds b) &&
        c.alternatives[i].condition.holds b) = true := by
  have hsplit : c.alternatives = c.alternatives.take i ++ c.alternatives[i] ::
      c.alternatives.drop (i + 1) := by
    rw [List.getElem_cons_drop, List.take_append_drop]
  have hbefore : ((c.alternatives.take i).map (·.condition)).all (fun d => !d.holds b) = true ↔
      ∀ d ∈ c.alternatives.take i, d.condition.eval b = .ok false := by
    rw [List.all_map, List.all_eq_true]
    refine forall₂_congr fun d hd => ?_
    rw [(h d (List.mem_of_mem_take hd)).eval_eq]
    simp
  have hhere : c.alternatives[i].condition.holds b = true ↔
      c.alternatives[i].condition.eval b = .ok true := by
    rw [(h _ (List.getElem_mem hi)).eval_eq]
    simp
  rw [Bool.and_eq_true, hbefore, hhere]
  constructor
  · rintro ⟨s, rfl⟩
    obtain ⟨before, a, after, has, hb, ha, hlength, -⟩ := firstHolding_eq_some.mp hfound
    have hsame := List.append_inj (has.symm.trans hsplit) (by simp; omega)
    rw [← hsame.1, ← (List.cons.inj hsame.2).1]
    exact ⟨hb, ha⟩
  · rintro ⟨hb, ha⟩
    have hsome : firstHolding b 0 c.alternatives = .ok (some (i, c.alternatives[i].text)) :=
      firstHolding_eq_some.mpr ⟨_, _, _, hsplit, hb, ha, by simp; omega, rfl⟩
    rw [hfound, Except.ok.injEq] at hsome
    exact ⟨_, hsome⟩

/-- What is found is the alternative at its place. -/
lemma exists_of_found {i : ℕ} {s : String}
    (h : firstHolding b 0 c.alternatives = .ok (some (i, s))) :
    ∃ hi : i < c.alternatives.length, c.alternatives[i].text = s := by
  obtain ⟨before, a, after, has, -, -, rfl, rfl⟩ := firstHolding_eq_some.mp h
  refine ⟨?_, ?_⟩
  · rw [has, List.length_append, List.length_cons]
    omega
  · simp [has]

/-- At the place of what is chosen stands its text. -/
lemma guarded_of_place (hc : c.isComplete) {choice : Choice} (hchoice : c.choose b = .ok choice)
    {i : ℕ} (hplace : choice.place c = some i) :
    ∃ guard, c.guarded[i]? = some (guard, choice.text) := by
  rcases (choose_eq_ok_of_isComplete hc).mp hchoice with ⟨-, rfl⟩ | ⟨index, s, hfound, rfl⟩
  · cases helse : c.elseText with
    | none => simp [helse, Choice.place] at hplace
    | some s =>
      rw [helse] at hplace
      obtain rfl := Option.some.inj hplace
      exact ⟨_, (guarded_of_le (Nat.le_refl _)).mpr ⟨rfl, helse, rfl⟩⟩
  · obtain rfl := Option.some.inj hplace
    obtain ⟨hi, htext⟩ := exists_of_found hfound
    exact ⟨_, htext ▸ guarded_of_lt hi⟩

/-- What is found has its place; if nothing is, the text for the other case has. -/
lemma place_of_found (hc : c.isComplete) {choice : Choice} (hchoice : c.choose b = .ok choice)
    {found : Option (ℕ × String)} (hfound : firstHolding b 0 c.alternatives = .ok found) :
    choice.place c =
      (found.map Prod.fst).or (c.elseText.map fun _ => c.alternatives.length) := by
  rcases (choose_eq_ok_of_isComplete hc).mp hchoice with ⟨hf, rfl⟩ | ⟨index, s, hf, rfl⟩
  · obtain rfl := Except.ok.inj (hfound.symm.trans hf)
    cases c.elseText <;> rfl
  · obtain rfl := Except.ok.inj (hfound.symm.trans hf)
    rfl

/-- The guard of an alternative is true exactly where the alternative is chosen. -/
lemma Plain.decides_alternative (h : c.Plain) (hc : c.isComplete) {choice : Choice}
    (hchoice : c.choose b = .ok choice) {i : ℕ} (hi : i < c.alternatives.length) :
    Decides b .conjunction (c.guardAt i c.alternatives[i].condition)
      (choice.place c = some i) := by
  obtain ⟨found, hfound⟩ := h.exists_found (b := b)
  have hplace : choice.place c = some i ↔ ∃ s, found = some (i, s) := by
    rw [place_of_found hc hchoice hfound]
    rcases found with _ | ⟨index, s⟩
    · cases c.elseText <;> simp [Nat.ne_of_gt hi]
    · simp
  have hguard := decides_guardAfter (b := b) (h.take i) (h _ (List.getElem_mem hi))
  rw [List.map_map] at hguard
  exact hguard.congr (hplace.trans (h.found_iff hfound hi))

/-- The guard of the text for the other case is true exactly where that text is chosen. -/
lemma Plain.decides_else (h : c.Plain) (hc : c.isComplete) {choice : Choice}
    (hchoice : c.choose b = .ok choice) (helse : c.elseText.isSome) :
    Decides b .comparison ("(" ++ predicate c.elseCondition ++ ") == true")
      (choice.place c = some c.alternatives.length) := by
  obtain ⟨found, hfound⟩ := h.exists_found (b := b)
  have hplace : choice.place c = some c.alternatives.length ↔ found = none := by
    rw [place_of_found hc hchoice hfound]
    rcases found with _ | ⟨index, s⟩
    · simpa [Option.isSome_iff_exists] using helse
    · obtain ⟨hi, -⟩ := exists_of_found hfound
      simp [Nat.ne_of_lt hi]
  have hanswer : c.elseCondition.holds b = found.isNone := by
    have heval := h.elseCondition.eval_eq (b := b)
    rw [eval_elseCondition, hfound] at heval
    exact (Except.ok.inj heval).symm
  have htrue : Decides b .operand "true" true := ⟨.truth true, .true, rfl⟩
  have hguard := Decides.connect .equal h.elseCondition.decides.group.looser htrue.looser rfl
  rw [String.append_assoc, String.append_assoc] at hguard
  rw [String.append_assoc]
  refine Decides.congr hguard ?_
  rw [hplace, hanswer]
  simp

/-- The guard that is true is that of what is chosen. -/
lemma Plain.decides_guard (h : c.Plain) (hc : c.isComplete) {choice : Choice}
    (hchoice : c.choose b = .ok choice) {i : ℕ} {guard text : String}
    (hguard : c.guarded[i]? = some (guard, text)) :
    Decides b .conjunction guard (choice.place c = some i) := by
  rcases Nat.lt_or_ge i c.alternatives.length with hi | hi
  · rw [guarded_of_lt hi, Option.some.injEq, Prod.mk.injEq] at hguard
    obtain ⟨rfl, -⟩ := hguard
    exact h.decides_alternative hc hchoice hi
  · obtain ⟨rfl, helse, rfl⟩ := (guarded_of_le hi).mp hguard
    exact (h.decides_else hc hchoice (by rw [helse]; rfl)).looser

end Chain

/-- A branch with texts is shown with a text for the other case, and stands for one of both. -/
lemma Branch.exists_other {br : Branch} (hplain : br.condition.Plain) (h : br.HasTexts) : ∃ other,
    br.engineText = .ok (fragment (predicate br.condition) br.text other) ∧
      ∀ holds, br.condition.eval b = .ok holds → ((Decision.branch br).resolve b).outcome =
        .ok (.text (if holds then br.text else other)) := by
  have hshown : ∀ s, br.elseString = .ok s →
      br.engineText = .ok (fragment (predicate br.condition) br.text s) := by
    intro s hs
    rw [engineText, hplain.predicateError?, hs]
    rfl
  rcases h with helse | ⟨s, helse⟩
  · refine ⟨"", hshown "" (by rw [elseString, helse]; rfl), fun holds heval => ?_⟩
    rw [Decision.resolve, Traced.lift, Branch.resolve, heval, helse]
    cases holds <;> rfl
  · refine ⟨s, hshown s (by rw [elseString, helse]), fun holds heval => ?_⟩
    rw [Decision.resolve, Traced.lift, Branch.resolve, heval, helse]
    by_cases hs : s = "" <;> cases holds <;> simp [Except.map, Value.isTruthy, hs]

/-- Whatever engine shows it, a complete chain of plain conditions agrees with its evaluation.
Among its fragments the guard that is true is that of what is chosen, its fragment stands for the
text of the choice, and every other fragment stands for the empty text.  The fragment of a branch
stands for the text that the branch stands for. -/
theorem Engine.Evaluator.fragments_agree_with_choice (E : Evaluator) (b : Binding) :
    (∀ c : Chain, c.isComplete → c.Plain →
      c.engineText = .ok ("\n".intercalate (c.guarded.map fun p => fragment p.1 p.2 "")) ∧
      ∃ choice, c.choose b = .ok choice ∧
        ((Decision.chain c).resolve b).outcome = .ok (.text choice.text) ∧
        (∀ i, choice.place c = some i → ∃ guard, c.guarded[i]? = some (guard, choice.text)) ∧
        (∀ i guard text, c.guarded[i]? = some (guard, text) →
          E.value b guard = some (.bool (choice.place c = some i)) ∧
          E.Yields b (fragment guard text "")
            (if choice.place c = some i then choice.text else ""))) ∧
    (∀ br : Branch, br.condition.Plain → br.HasTexts → ∃ guard other holds,
      br.engineText = .ok (fragment guard br.text other) ∧
      br.condition.eval b = .ok holds ∧ E.value b guard = some (.bool holds) ∧
      ((Decision.branch br).resolve b).outcome = .ok (.text (if holds then br.text else other)) ∧
      E.Yields b (fragment guard br.text other) (if holds then br.text else other)) := by
  refine ⟨fun c hc hplain => ?_, fun br hplain htexts => ?_⟩
  · obtain ⟨found, hfound⟩ := hplain.exists_found (b := b)
    have hchoose := Chain.choose_of_isComplete (b := b) hc
    rw [hfound] at hchoose
    refine ⟨Chain.engineText_of_isComplete hc hplain, _, hchoose, ?_, ?_, ?_⟩
    · rw [Chain.outcome_resolve, hchoose]
      rfl
    · exact fun i hi => Chain.guarded_of_place hc hchoose hi
    · intro i guard text hguard
      have hdecides := hplain.decides_guard hc hchoose hguard
      refine ⟨E.value_of_decides hdecides, ?_⟩
      have hyields := E.yields_fragment hdecides.looser text ""
      split_ifs with hplace
      · obtain ⟨guard', hguard'⟩ := Chain.guarded_of_place hc hchoose hplace
        obtain ⟨-, rfl⟩ := Prod.mk.inj (Option.some.inj (hguard.symm.trans hguard'))
        simpa [hplace] using hyields
      · simpa [hplace] using hyields
  · obtain ⟨other, hengine, hresolve⟩ := Branch.exists_other (b := b) hplain htexts
    exact ⟨_, other, _, hengine, hplain.eval_eq, E.value_of_decides hplain.decides,
      hresolve _ hplain.eval_eq, E.yields_fragment hplain.decides.looser br.text other⟩

/-- A chain whose second condition denies one, with texts that hold apostrophes. -/
def Chain.greeting : Chain :=
  ⟨[⟨.contains ⟨"staff", ["guest"]⟩ .one, "it's you"⟩,
    ⟨.noneOf [.isNull ⟨"name", []⟩, .hasParam ⟨"hidden", []⟩], "hello"⟩], some "who's there?", none⟩

/-- A branch on the same parameters. -/
def Branch.greeting : Branch :=
  ⟨.hasNoParam ⟨"name", ["staff"]⟩, "who's there?", .text "it's you"⟩

lemma Engine.unmarked_of_all {ns : Names} (h : ns.toList.all fun n => '\'' ∉ n.toList) :
    Unmarked ns := by
  simpa [Unmarked] using h

lemma Chain.plain_greeting : greeting.Plain := by
  refine List.forall_mem_cons.mpr ⟨.contains (unmarked_of_all (by decide)),
    List.forall_mem_cons.mpr ⟨.noneOf ?_, by simp⟩⟩
  exact List.forall_mem_cons.mpr ⟨.isNull (unmarked_of_all (by decide)),
    List.forall_mem_cons.mpr ⟨.hasParam (unmarked_of_all (by decide)), by simp⟩⟩

/-- Where a name is bound, the engine that reads finds the second guard true, and the branch stands
for its text for the other case. -/
theorem Engine.Evaluator.greeting_for_name :
    Chain.greeting.isComplete ∧ Chain.greeting.Plain ∧
      (∃ guard, Chain.greeting.guarded[1]? = some (guard, "hello") ∧
        Evaluator.reading.value ⟨[(.text "name", .text "x")]⟩ guard = some (.bool true)) ∧
      Branch.greeting.condition.Plain ∧ Branch.greeting.HasTexts ∧
      ∃ shown, Branch.greeting.engineText = .ok shown ∧
        Evaluator.reading.Yields ⟨[(.text "name", .text "x")]⟩ shown "it's you" := by
  have hbranch : Branch.greeting.condition.Plain := .hasNoParam (unmarked_of_all (by decide))
  have htexts : Branch.greeting.HasTexts := .inr ⟨_, rfl⟩
  refine ⟨rfl, Chain.plain_greeting, ?_, hbranch, htexts, ?_⟩
  · obtain ⟨-, choice, hchoice, -, hplace, hguards⟩ :=
      (fragments_agree_with_choice .reading ⟨[(.text "name", .text "x")]⟩).1 _ rfl
        Chain.plain_greeting
    have hchosen : Chain.greeting.choose ⟨[(.text "name", .text "x")]⟩ =
        .ok (.alternative 1 "hello") := rfl
    obtain rfl := Except.ok.inj (hchoice.symm.trans hchosen)
    obtain ⟨guard, hguard⟩ := hplace 1 rfl
    exact ⟨guard, hguard, (hguards 1 guard _ hguard).1⟩
  · obtain ⟨guard, other, holds, hengine, -, -, hresolve, hyields⟩ :=
      (fragments_agree_with_choice .reading ⟨[(.text "name", .text "x")]⟩).2 _ hbranch htexts
    have hresolved : ((Decision.branch Branch.greeting).resolve
        ⟨[(.text "name", .text "x")]⟩).outcome = .ok (.text "it's you") := rfl
    have hother := Value.text.inj (Except.ok.inj (hresolve.symm.trans hresolved))
    exact ⟨_, hengine, hother ▸ hyields⟩

end QueryTemplate
