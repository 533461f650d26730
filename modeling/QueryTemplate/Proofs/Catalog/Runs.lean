import Mathlib.Data.String.Basic
import QueryTemplate.Catalog
import QueryTemplate.Proofs.Outcome
import QueryTemplate.Proofs.Traced

/-!
# Runs of a catalog

Calls are made one after another on a catalog, and a refused call does not end the run.  Which
statement a name has is told by the calls alone: the one it was given by the last definition behind
which neither the name was defined again nor the catalog cleared (`LastGiven`).  One call changes the
statement of a name in this way only (`get?_call`), so every run does (`get?_run`); the names stay
different from each other on the way (`nodup_keys_call`), which makes their listing strictly sorted.
-/

namespace QueryTemplate

/-- The call gives the name a statement, or takes away the one that it has. -/
inductive CatalogCall.Changes (name : String) : CatalogCall → Prop where
  | define (t : Template) : Changes name (.define name (.template t))
  | clear : Changes name .clear

/-- Among the calls the name was given this statement, and nothing behind that changed it. -/
def LastGiven (name : String) (t : Template) (calls : List CatalogCall) : Prop :=
  ∃ before after, calls = before ++ .define name (.template t) :: after ∧
    ∀ c ∈ after, ¬ c.Changes name

variable {name : String} {t : Template}

lemma lastGiven_cons (call : CatalogCall) (calls : List CatalogCall) :
    LastGiven name t (call :: calls) ↔
      LastGiven name t calls ∨
        call = .define name (.template t) ∧ ∀ c ∈ calls, ¬ c.Changes name := by
  constructor
  · rintro ⟨_ | ⟨first, before⟩, after, h, hafter⟩
    · obtain ⟨rfl, rfl⟩ := List.cons_eq_cons.mp h
      exact .inr ⟨rfl, hafter⟩
    · obtain ⟨rfl, rfl⟩ := List.cons_eq_cons.mp h
      exact .inl ⟨before, after, rfl, hafter⟩
  · rintro (⟨before, after, rfl, hafter⟩ | ⟨rfl, hcalls⟩)
    · exact ⟨call :: before, after, rfl, hafter⟩
    · exact ⟨[], calls, rfl, hcalls⟩

/-! ## Sorted names -/

/-- Sorting by a text puts smaller texts first. -/
lemma pairwise_mergeSort_key {α : Type} (key : α → String) (xs : List α) :
    (xs.mergeSort fun a b => !decide (key b < key a)).Pairwise fun a b => key a ≤ key b := by
  have hle : ∀ a b : α, (!decide (key b < key a)) = true ↔ key a ≤ key b := by
    intro a b
    rw [Bool.not_eq_true', decide_eq_false_iff_not, String.not_lt]
  refine (List.pairwise_mergeSort ?_ ?_ xs).imp fun {a b} => (hle a b).mp
  · intro a b c hab hbc
    exact (hle a c).mpr (String.le_trans ((hle a b).mp hab) ((hle b c).mp hbc))
  · intro a b
    rw [Bool.or_eq_true, hle, hle]
    exact String.le_total (key a) (key b)

namespace Catalog

variable {c : Catalog}

/-- The names of the entries. -/
def keys (c : Catalog) : List String :=
  c.entries.map (·.1)

lemma get?_eq_none_iff : c.get? name = none ↔ name ∉ c.keys := by
  rw [get?, Option.map_eq_none_iff, List.find?_eq_none, keys]
  simp only [beq_iff_eq, List.mem_map, not_exists, not_and]

lemma mem_names : name ∈ c.names ↔ ∃ t, c.get? name = some t := by
  rw [names, List.mem_mergeSort, ← Option.isSome_iff_exists, Option.isSome_iff_ne_none, Ne,
    get?_eq_none_iff, not_not, keys]

/-- The names come in strict order, if no two entries share one. -/
lemma pairwise_names (h : c.keys.Nodup) : c.names.Pairwise (· < ·) := by
  have hle : c.names.Pairwise (· ≤ ·) := pairwise_mergeSort_key id c.keys
  have hne : c.names.Pairwise (· ≠ ·) := ((List.mergeSort_perm c.keys _).nodup_iff).mpr h
  exact (hle.and hne).imp fun ⟨hle, hne⟩ => lt_of_le_of_ne hle hne

/-! ## One call -/

/-- An entry is written at the place of its name, or behind all others. -/
lemma map_fst_put (name : String) (t : Template) (es : List (String × Template)) :
    (put name t es).map (·.1) =
      if name ∈ es.map (·.1) then es.map (·.1) else es.map (·.1) ++ [name] := by
  induction es with
  | nil => rfl
  | cons e es ih =>
    rw [put]
    split_ifs with hn hmem hmem
    · rfl
    · simp [hn] at hmem
    · have hrest : name ∈ es.map (·.1) := by simpa [Ne.symm hn] using hmem
      rw [List.map_cons, ih, if_pos hrest, List.map_cons]
    · have hrest : name ∉ es.map (·.1) := fun h => hmem (List.mem_cons_of_mem _ h)
      rw [List.map_cons, ih, if_neg hrest, List.map_cons, List.cons_append]

lemma nodup_keys_define (h : c.keys.Nodup) (name : String) (t : Template) :
    (c.define name t).keys.Nodup := by
  rw [keys, define, map_fst_put]
  split_ifs with hmem
  · exact h
  · exact List.nodup_append.mpr ⟨h, by simp, by
      simpa using fun n hn => ne_of_mem_of_not_mem hn hmem⟩

/-- What a call leaves: reading calls and refused definitions leave everything as it is. -/
lemma call_fst (c : Catalog) (call : CatalogCall) :
    (∃ name t, call = .define name (.template t) ∧ (c.call call).1 = c.define name t) ∨
      (call = .clear ∧ (c.call call).1 = empty) ∨
      ((∀ name, ¬ call.Changes name) ∧ (c.call call).1 = c) := by
  cases call with
  | define name d =>
    cases d with
    | template t => exact .inl ⟨name, t, rfl, rfl⟩
    | other typeName => exact .inr (.inr ⟨fun _ h => (nomatch h), rfl⟩)
  | get name => exact .inr (.inr ⟨fun _ h => (nomatch h), rfl⟩)
  | engineText name =>
    refine .inr (.inr ⟨fun _ h => (nomatch h), ?_⟩)
    rw [Catalog.call]
    cases c.engineText? name <;> rfl
  | build name params =>
    refine .inr (.inr ⟨fun _ h => (nomatch h), ?_⟩)
    rw [Catalog.call]
    cases c.build? name params <;> rfl
  | names => exact .inr (.inr ⟨fun _ h => (nomatch h), rfl⟩)
  | clear => exact .inr (.inl ⟨rfl, rfl⟩)

/-- After a call a name has the statement that the call gave it, or the one it had before, if the
call did not change it. -/
lemma get?_call (call : CatalogCall) :
    (c.call call).1.get? name = some t ↔
      call = .define name (.template t) ∨ ¬ call.Changes name ∧ c.get? name = some t := by
  rcases c.call_fst call with ⟨other, u, rfl, h⟩ | ⟨rfl, h⟩ | ⟨hkeeps, h⟩
  · rw [h, get?_define]
    split_ifs with hname
    · subst hname
      simp [CatalogCall.Changes.define, eq_comm]
    · have hkeeps : ¬ (CatalogCall.define other (.template u)).Changes name := by
        rintro ⟨⟩
        exact hname rfl
      simp [Ne.symm hname, hkeeps]
  · rw [h]
    simp [empty, get?, CatalogCall.Changes.clear]
  · rw [h]
    constructor
    · exact fun ht => .inr ⟨hkeeps name, ht⟩
    · rintro (rfl | ⟨-, ht⟩)
      · exact absurd (.define t) (hkeeps name)
      · exact ht

lemma nodup_keys_call (h : c.keys.Nodup) (call : CatalogCall) : (c.call call).1.keys.Nodup := by
  rcases c.call_fst call with ⟨name, t, -, hc⟩ | ⟨-, hc⟩ | ⟨-, hc⟩
  · rw [hc]
    exact nodup_keys_define h name t
  · rw [hc]
    exact List.nodup_nil
  · rwa [hc]

/-! ## Runs -/

/-- After a run a name has the statement that the run gave it last, or the one it had before, if the
run never changed it. -/
lemma get?_run (calls : List CatalogCall) :
    (c.run calls).get? name = some t ↔
      LastGiven name t calls ∨ (∀ call ∈ calls, ¬ call.Changes name) ∧ c.get? name = some t := by
  induction calls generalizing c with
  | nil => simp [run, LastGiven]
  | cons call calls ih =>
    rw [run, ih, get?_call, lastGiven_cons, List.forall_mem_cons]
    tauto

lemma nodup_keys_run (h : c.keys.Nodup) (calls : List CatalogCall) : (c.run calls).keys.Nodup := by
  induction calls generalizing c with
  | nil => exact h
  | cons call calls ih => exact ih (nodup_keys_call h call)

lemma run_append (c : Catalog) (calls more : List CatalogCall) :
    c.run (calls ++ more) = (c.run calls).run more := by
  induction calls generalizing c with
  | nil => rfl
  | cons call calls ih => exact ih _

/-- The statements after a run on the empty catalog. -/
lemma get?_run_empty (calls : List CatalogCall) :
    (empty.run calls).get? name = some t ↔ LastGiven name t calls := by
  rw [get?_run]
  simp [empty, get?]

lemma get?_run_empty_eq_none (calls : List CatalogCall) :
    (empty.run calls).get? name = none ↔ ∀ t, ¬ LastGiven name t calls := by
  simp only [← get?_run_empty, Option.eq_none_iff_forall_ne_some, ne_eq]

end Catalog

/-! ## What is reported -/

/-- Does the notice tell what a chain chose? -/
def Notice.isChoice : Notice → Bool
  | .alternativeChosen _ | .elseChosen | .chainIgnored _ => true
  | _ => false

variable {n : Notice}

lemma Choice.isChoice_of_mem_notices (choice : Choice) (h : n ∈ choice.notices) : n.isChoice := by
  cases choice <;> simp_all [Choice.notices, Notice.isChoice]

lemma Decision.isChoice_of_mem_resolve {b : Binding} {d : Decision}
    (h : n ∈ (d.resolve b).notices) : n.isChoice := by
  cases d with
  | branch br => simp [Decision.resolve, Traced.lift] at h
  | chain c =>
    cases hc : c.choose b with
    | error e => simp [Decision.resolve, hc, Traced.error] at h
    | ok choice =>
      rw [Decision.resolve, hc] at h
      exact choice.isChoice_of_mem_notices h

lemma Segment.isChoice_of_mem_resolveAll {b : Binding} {ss : List Segment}
    (h : n ∈ (Segment.resolveAll b ss).notices) : n.isChoice := by
  induction ss with
  | nil => simp [Segment.resolveAll, Traced.ok] at h
  | cons s ss ih =>
    cases s with
    | literal s =>
      rcases Traced.mem_notices_bind.mp h with h | ⟨vs, -, h⟩
      · exact ih h
      · simp [Traced.ok] at h
    | decision d =>
      rcases Traced.mem_notices_bind.mp h with h | ⟨v, -, h⟩
      · exact Decision.isChoice_of_mem_resolve h
      · rcases Traced.mem_notices_bind.mp h with h | ⟨vs, -, h⟩
        · exact ih h
        · simp [Traced.ok] at h

/-- Evaluating a template reports choices only. -/
lemma Template.isChoice_of_mem_evalWith {t : Template} {params : Value}
    (h : n ∈ (t.evalWith params).notices) : n.isChoice := by
  cases hb : Binding.ofValue params with
  | error e => simp [Template.evalWith, hb, Traced.error] at h
  | ok b =>
    rw [Template.evalWith, hb] at h
    rcases Traced.mem_notices_bind.mp h with h | ⟨vs, -, h⟩
    · exact Segment.isChoice_of_mem_resolveAll h
    · simp [Traced.lift] at h

namespace Catalog

variable {c : Catalog}

/-- A redefinition is reported where a name is defined that has a statement. -/
lemma redefined_mem_call (call : CatalogCall) :
    .redefined name ∈ (c.call call).2.notices ↔
      (∃ t, call = .define name (.template t)) ∧ ∃ t, c.get? name = some t := by
  cases call with
  | define other d =>
    cases d with
    | template u =>
      have hcontains : c.contains other = true ↔ ∃ t, c.get? other = some t := by
        rw [contains, Option.isSome_iff_exists]
      simp only [Catalog.call, define?, defineNotices]
      split_ifs with hc
      · simp only [List.singleton_append, List.mem_cons, Notice.redefined.injEq, reduceCtorEq,
          List.not_mem_nil, or_false, CatalogCall.define.injEq, Definition.template.injEq]
        constructor
        · rintro rfl
          exact ⟨⟨u, rfl, rfl⟩, hcontains.mp hc⟩
        · rintro ⟨⟨t, rfl, -⟩, -⟩
          rfl
      · refine iff_of_false (by simp) ?_
        rintro ⟨⟨t, h⟩, ht⟩
        cases h
        exact hc (hcontains.mpr ht)
    | other typeName => simp [Catalog.call, define?, Traced.error]
  | get other => simp [Catalog.call, Traced.ok]
  | engineText other =>
    rw [Catalog.call]
    cases c.engineText? other <;> simp [Traced.ok, Traced.lift]
  | build other params =>
    refine iff_of_false ?_ (by rintro ⟨⟨t, h⟩, -⟩; cases h)
    rw [Catalog.call, build?]
    rcases c.get? other with _ | t
    · simp [Traced.ok]
    · intro h
      rcases Traced.mem_notices_bind.mp h with h | ⟨s, -, h⟩
      · exact absurd (Template.isChoice_of_mem_evalWith h) (by simp [Notice.isChoice])
      · simp [Traced.ok] at h
  | names => simp [Catalog.call, Traced.ok]
  | clear => simp [Catalog.call, Traced.ok]

/-- **The last definition wins.**  After any run of calls on an empty catalog a name has the
statement that it was last given since the catalog was last cleared, and there is none exactly where
it was given none.  The engine text and the text for parameters are those of this statement, errors
included.  The names that have a statement are listed in strict order.  A redefinition is reported
exactly where a template is defined under a name that has one; what is no template is refused and
changes nothing.  Calls that define nothing and clear nothing play no role for what is answered
later. -/
theorem last_definition_wins (calls : List CatalogCall) :
    let c := empty.run calls
    (∀ name t, (c.call (.get name)).2 = .ok (.statement (some t)) ↔ LastGiven name t calls) ∧
      (∀ name, (c.call (.get name)).2 = .ok (.statement none) ↔ ∀ t, ¬ LastGiven name t calls) ∧
      (∀ name, (c.call (.engineText name)).2.outcome = .ok (.engineText none) ↔
        ∀ t, ¬ LastGiven name t calls) ∧
      (∀ name params, (c.call (.build name params)).2.outcome = .ok (.built none) ↔
        ∀ t, ¬ LastGiven name t calls) ∧
      (∀ name t, LastGiven name t calls →
        (c.call (.engineText name)).2 =
            .lift ((t.engineText.mapError .engine).map (.engineText ∘ some)) ∧
          ∀ params, (c.call (.build name params)).2 =
            ((t.evalWith params).mapError .template).bind (.ok ∘ .built ∘ some)) ∧
      (∃ names, (c.call .names).2 = .ok (.names names) ∧ names.Pairwise (· < ·) ∧
        ∀ name, name ∈ names ↔ ∃ t, LastGiven name t calls) ∧
      (∀ call name, .redefined name ∈ (c.call call).2.notices ↔
        (∃ t, call = .define name (.template t)) ∧ ∃ t, LastGiven name t calls) ∧
      (∀ name t, (c.call (.define name (.template t))).2.outcome = .ok (.defined (.template t))) ∧
      (∀ name typeName, c.call (.define name (.other typeName)) =
        (c, .error (.notTemplate ⟨name, typeName⟩))) ∧
      (∀ call, (∀ name, ¬ call.Changes name) → ∀ more last,
        (empty.run (calls ++ call :: more)).call last = (empty.run (calls ++ more)).call last) := by
  intro c
  have hget : ∀ name t, c.get? name = some t ↔ LastGiven name t calls :=
    fun _ _ => get?_run_empty calls
  have hnone : ∀ name, c.get? name = none ↔ ∀ t, ¬ LastGiven name t calls :=
    fun _ => get?_run_empty_eq_none calls
  refine ⟨fun name t => ?_, fun name => ?_, fun name => ?_, fun name params => ?_, fun name t h => ?_,
    ⟨c.names, rfl, ?_, fun name => ?_⟩, fun call name => ?_, fun _ _ => rfl, fun _ _ => rfl,
    fun call h more last => ?_⟩
  · rw [← hget]
    simp [Catalog.call, Traced.ok]
  · rw [← hnone]
    simp [Catalog.call, Traced.ok]
  · rw [← hnone, Catalog.call, engineText?]
    rcases c.get? name with _ | t
    · simp [Traced.ok]
    · simp [Traced.lift, Outcome.map_eq_ok]
  · rw [← hnone, Catalog.call, build?]
    rcases c.get? name with _ | t
    · simp [Traced.ok]
    · simp [Traced.bind_eq_ok, Traced.ok]
  · simp [Catalog.call, engineText?, build?, (hget name t).mpr h]
  · exact pairwise_names (nodup_keys_run (c := empty) List.nodup_nil calls)
  · simp only [mem_names, hget]
  · simp only [redefined_mem_call, hget]
  · rcases (empty.run calls).call_fst call with ⟨name, t, rfl, -⟩ | ⟨rfl, -⟩ | ⟨-, hcall⟩
    · exact absurd (.define t) (h name)
    · exact absurd .clear (h "")
    · rw [run_append, run_append, run, hcall]

/-- A name is defined, cleared and defined again, with refused definitions in between. -/
def rewritten : List CatalogCall :=
  [.define "a" (.template ⟨[.literal "old"]⟩), .define "a" (.other "str"), .clear,
    .define "a" (.template ⟨[.literal "new"]⟩), .define "b" (.other "int"), .build "a" .null]

/-- It has its last statement, which a further definition would redefine. -/
theorem rewritten_keeps_last :
    LastGiven "a" ⟨[.literal "new"]⟩ rewritten ∧
      ((empty.run rewritten).call (.build "a" .null)).2 = .ok (.built (some "new")) ∧
      .redefined "a" ∈
        ((empty.run rewritten).call (.define "a" (.template ⟨[.literal "newer"]⟩))).2.notices := by
  have hlast : LastGiven "a" ⟨[.literal "new"]⟩ rewritten := by
    refine ⟨rewritten.take 3, rewritten.drop 4, rfl, fun call hcall hchanges => ?_⟩
    cases hchanges <;> simp [rewritten] at hcall
  obtain ⟨-, -, -, -, hanswers, -, hreported, -⟩ := last_definition_wins rewritten
  refine ⟨hlast, ?_, (hreported _ "a").mpr ⟨⟨_, rfl⟩, _, hlast⟩⟩
  have htext : Template.evalWith ⟨[.literal "new"]⟩ .null = .ok "new" := by
    have htidy : Text.tidy ("new" ++ "") = "new" := by decide
    exact Traced.ext (congrArg Except.ok htidy) rfl
  rw [(hanswers "a" _ hlast).2 .null, htext]
  rfl

end Catalog

end QueryTemplate
