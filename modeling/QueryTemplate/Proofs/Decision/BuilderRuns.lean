import Mathlib.Data.List.Chain
import QueryTemplate.Proofs.Decision.Builder

/-!
# Runs of a chain builder

A run makes one call after another on a fresh builder, and a refused call does not end it.  What the
builder holds is told by the calls accepted so far (`Records`): its alternatives are the accepted
pairs of `when` and `then`, the condition that waits is that of a last `when` without its `then`, and
the builder is closed once an `otherwise` was accepted.  An accepted call keeps this up
(`records_of_accepts`) and a refused one changes nothing (`message?_of_refuses`), so every run keeps
it up (`records_run`).
-/

namespace QueryTemplate

namespace BuilderCall

/-- A call as callers are asked to make it: with a condition or with a text. -/
inductive Proper : BuilderCall → Prop where
  | when (c : Condition) : Proper (.when (.built c))
  | then (s : String) : Proper (.then (.text s))
  | otherwise (s : String) : Proper (.otherwise (.text s))
  | build : Proper .build

/-- Is this a call that gives a condition? -/
def isWhen : BuilderCall → Bool
  | .when _ => true
  | _ => false

/-- Is this a call that gives a condition or its text? -/
def isStep : BuilderCall → Bool
  | .when _ | .then _ => true
  | _ => false

end BuilderCall

/-- The two calls by which an alternative is given. -/
def Alternative.calls (a : Alternative) : List BuilderCall :=
  [.when (.built a.condition), .then (.text a.text)]

namespace ChainBuilder

variable {b b' : ChainBuilder} {c : BuilderCall} {done : List BuilderCall}
  {waiting : Option Condition}

/-- The calls of a run that are accepted, in order. -/
def accepted (b : ChainBuilder) : List BuilderCall → List BuilderCall
  | [] => []
  | c :: cs =>
    match b.call c with
    | (b', .ok _) => c :: b'.accepted cs
    | (b', .error _) => b'.accepted cs

/-- The builder holds what the calls `done`, all of them accepted, have given it, and the condition
`waiting` still waits for its text. -/
structure Records (b : ChainBuilder) (done : List BuilderCall) (waiting : Option Condition) :
    Prop where
  pending : b.pending = waiting.map .built
  steps : done.filter BuilderCall.isStep =
    b.alternatives.flatMap Alternative.calls ++ (waiting.map fun c => .when (.built c)).toList
  closed : b.closed = true ↔ ∃ s, .otherwise (.text s) ∈ done

namespace Records

lemma free_iff (h : b.Records done waiting) : b.pending = none ↔ waiting = none := by
  rw [h.pending, Option.map_eq_none_iff]

lemma exists_waiting (h : b.Records done waiting) {d : Draft} (hd : b.pending = some d) :
    ∃ c, waiting = some c ∧ d = .built c := by
  obtain ⟨c, hc, rfl⟩ := Option.map_eq_some_iff.mp (h.pending.symm.trans hd)
  exact ⟨c, hc, rfl⟩

lemma not_mem (h : b.Records done waiting) (hopen : b.closed = false) (s : String) :
    .otherwise (.text s) ∉ done := by
  intro hs
  simp [h.closed.mpr ⟨s, hs⟩] at hopen

end Records

/-! ## One call -/

/-- A builder whose waiting condition is one has a chain to give. -/
lemma finish_of_pending (h : b.pending = waiting.map .built) :
    b.finish = .ok ⟨b.alternatives, none, waiting⟩ := by
  refine Checked.chainOf_eq_ok.mpr ⟨rfl, rfl, ?_⟩
  cases waiting <;> simp [h, Checked.optionalDraft, Checked.draft, Checked.map]

lemma records_empty : Records empty [] none :=
  ⟨rfl, rfl, by simp [empty]⟩

/-- An accepted call is recorded. -/
lemma records_of_accepts {a : BuilderAnswer} (h : b.Records done waiting) (hc : c.Proper)
    (hopen : b.closed = false) (ha : Accepts b c b' a) :
    ∃ waiting', b'.Records (done ++ [c]) waiting' := by
  cases ha with
  | when d free =>
    obtain ⟨condition⟩ := hc
    obtain rfl := h.free_iff.mp free
    refine ⟨some condition, rfl, ?_, by simpa [hopen] using h.not_mem hopen⟩
    simp [h.steps, BuilderCall.isStep]
  | «then» wait isCondition isText =>
    obtain ⟨s⟩ := hc
    obtain ⟨condition, rfl, rfl⟩ := h.exists_waiting wait
    refine ⟨none, rfl, ?_, by simpa using h.not_mem hopen⟩
    cases isCondition
    cases isText
    simp [h.steps, BuilderCall.isStep, Alternative.calls]
  | otherwise free begun isText =>
    obtain ⟨s⟩ := hc
    exact ⟨waiting, h.pending, by simp [h.steps, BuilderCall.isStep], by simp⟩
  | build made =>
    exact ⟨waiting, h.pending, by simp [h.steps, BuilderCall.isStep], by simp [h.closed]⟩

/-- A proper call on an open builder is refused for its place in the run alone. -/
lemma message?_of_refuses {e : BuilderError} (h : b.Records done waiting) (hc : c.Proper)
    (hr : Refuses b c b' e) : e.message?.isSome ∧ b' = b := by
  cases hr with
  | notAlternative isOpen wait unmade =>
    cases hc with
    | «then» s =>
      obtain ⟨condition, rfl, rfl⟩ := h.exists_waiting wait
      have hmade := Checked.alternativeOf_eq_ok (a := ⟨condition, s⟩).mpr ⟨rfl, rfl⟩
      cases (Checked.toExcept_eq_ok.mpr hmade).symm.trans unmade
  | notElseText isOpen free begun unmade =>
    cases hc with
    | otherwise s =>
      have hmade := Checked.chainOf_eq_ok (c := ⟨b.alternatives, some s, none⟩).mpr ⟨rfl, rfl, rfl⟩
      cases (Checked.toExcept_eq_ok.mpr hmade).symm.trans unmade
  | notChain isOpen unmade =>
    rw [finish_of_pending h.pending] at unmade
    cases unmade
  | _ => exact ⟨rfl, rfl⟩

/-! ## Runs -/

/-- Every run of proper calls keeps the record. -/
lemma records_run {cs : List BuilderCall} (h : b.Records done waiting) (hcs : ∀ c ∈ cs, c.Proper) :
    ∃ waiting', (b.run cs).Records (done ++ b.accepted cs) waiting' := by
  induction cs generalizing b done waiting with
  | nil => exact ⟨waiting, by simpa [run, accepted] using h⟩
  | cons c cs ih =>
    obtain ⟨hc, hcs⟩ := List.forall_mem_cons.mp hcs
    rcases hcall : b.call c with ⟨b', e | a⟩
    · obtain ⟨-, rfl⟩ := message?_of_refuses h hc (refuses_of_call hcall)
      simpa [run, accepted, hcall] using ih h hcs
    · obtain ⟨hopen, ha⟩ := call_eq_ok.mp hcall
      obtain ⟨waiting', h'⟩ := records_of_accepts h hc hopen ha
      simpa [run, accepted, hcall] using ih h' hcs

/-- Pairs of calls and a last `when` follow each other by turns, the first being a `when`. -/
lemma alternate (as : List Alternative) (waiting : Option Condition) :
    let calls := as.flatMap Alternative.calls ++ (waiting.map fun c => .when (.built c)).toList
    calls.IsChain (fun c d => c.isWhen ≠ d.isWhen) ∧ ∀ c ∈ calls.head?, c.isWhen := by
  induction as with
  | nil => cases waiting <;> simp [BuilderCall.isWhen]
  | cons a as ih =>
    obtain ⟨hchain, hhead⟩ := ih
    refine ⟨?_, by simp [Alternative.calls, BuilderCall.isWhen]⟩
    simp only [List.flatMap_cons, Alternative.calls, List.cons_append, List.nil_append]
    refine .cons_cons (by simp [BuilderCall.isWhen]) (hchain.cons fun c hc => ?_)
    rw [hhead c hc]
    simp [BuilderCall.isWhen]

/-- Once closed, a builder refuses whatever run of calls follows. -/
lemma call_run_of_closed (h : b.closed = true) (more : List BuilderCall) (c : BuilderCall) :
    (b.run more).call c = (b, .error (.closed c.name)) := by
  have hrun : b.run more = b := by
    induction more with
    | nil => rfl
    | cons c more ih => rw [run, call_of_closed h, ih]
  rw [hrun, call_of_closed h]

section Answers

variable (h : b.Records done waiting)

include h

lemma when_accepted_iff (condition : Condition) :
    (b.call (.when (.built condition))).2 = .ok .builder ↔ b.closed = false ∧ waiting = none := by
  rw [answer_eq_ok, ← h.free_iff]
  refine and_congr_right fun _ => ⟨?_, fun free => ⟨_, .when _ free⟩⟩
  rintro ⟨b', hb⟩
  cases hb with
  | when d free => exact free

lemma then_accepted_iff (s : String) :
    (b.call (.then (.text s))).2 = .ok .builder ↔ b.closed = false ∧ waiting ≠ none := by
  rw [answer_eq_ok]
  refine and_congr_right fun _ => ⟨?_, fun hwait => ?_⟩
  · rintro ⟨b', hb⟩
    cases hb with
    | «then» wait => simp [← h.free_iff, wait]
  · obtain ⟨condition, rfl⟩ := Option.ne_none_iff_exists'.mp hwait
    exact ⟨_, .then (a := ⟨condition, s⟩) h.pending rfl rfl⟩

lemma otherwise_accepted_iff (s : String) (a : BuilderAnswer) :
    (b.call (.otherwise (.text s))).2 = .ok a ↔
      b.closed = false ∧ waiting = none ∧ b.alternatives ≠ [] ∧
        a = .chain ⟨b.alternatives, some s, none⟩ := by
  rw [answer_eq_ok, ← h.free_iff]
  refine and_congr_right fun _ => ⟨?_, ?_⟩
  · rintro ⟨b', hb⟩
    cases hb with
    | otherwise free begun isText =>
      cases isText
      exact ⟨free, begun, rfl⟩
  · rintro ⟨free, begun, rfl⟩
    exact ⟨_, .otherwise free begun rfl⟩

lemma build_accepted_iff (a : BuilderAnswer) :
    (b.call .build).2 = .ok a ↔
      b.closed = false ∧ a = .chain ⟨b.alternatives, none, waiting⟩ := by
  have hfinish := finish_of_pending h.pending
  rw [answer_eq_ok]
  refine and_congr_right fun _ => ⟨?_, ?_⟩
  · rintro ⟨b', hb⟩
    cases hb with
    | build made =>
      cases hfinish.symm.trans made
      rfl
  · rintro rfl
    exact ⟨b, .build hfinish⟩

end Answers

/-- **A builder holds what was accepted.**  After any run of proper calls the accepted `when` and
`then` calls alternate, a `when` being the first; the alternatives are their pairs in order, and
what is left over waits.  An `otherwise` is accepted exactly where nothing waits and there is an
alternative; it answers with the complete chain and closes the builder for good.  Until then every
`build` answers with the chain as it stands.  Refused calls change nothing and are refused for their
place in the run. -/
theorem run_agrees_with_accepted (cs : List BuilderCall) (h : ∀ c ∈ cs, c.Proper) :
    let b := empty.run cs
    let done := empty.accepted cs
    let steps := done.filter BuilderCall.isStep
    ∃ waiting : Option Condition,
      (steps.IsChain (fun c d => c.isWhen ≠ d.isWhen) ∧ ∀ c ∈ steps.head?, c.isWhen) ∧
      b.Records done waiting ∧
      (∀ condition, (b.call (.when (.built condition))).2 = .ok .builder ↔
        b.closed = false ∧ waiting = none) ∧
      (∀ s, (b.call (.then (.text s))).2 = .ok .builder ↔ b.closed = false ∧ waiting ≠ none) ∧
      (∀ s a, (b.call (.otherwise (.text s))).2 = .ok a ↔
        b.closed = false ∧ waiting = none ∧ b.alternatives ≠ [] ∧
          a = .chain ⟨b.alternatives, some s, none⟩) ∧
      (∀ a, (b.call .build).2 = .ok a ↔
        b.closed = false ∧ a = .chain ⟨b.alternatives, none, waiting⟩) ∧
      (b.closed = true → ∀ more c, ((b.run more).call c).2 = .error (.closed c.name)) ∧
      (∀ c e, c.Proper → (b.call c).2 = .error e → e.message?.isSome ∧ (b.call c).1 = b) := by
  intro b done steps
  obtain ⟨waiting, hrecords⟩ := records_run records_empty h
  rw [List.nil_append] at hrecords
  refine ⟨waiting, ?_, hrecords, when_accepted_iff hrecords, then_accepted_iff hrecords,
    otherwise_accepted_iff hrecords, build_accepted_iff hrecords, ?_, ?_⟩
  · rw [show steps = _ from hrecords.steps]
    exact alternate b.alternatives waiting
  · intro hclosed more c
    rw [call_run_of_closed hclosed more c]
  · intro c e hc he
    exact message?_of_refuses hrecords hc (refuses_of_call (Prod.ext rfl he))

/-- A run that begins with the text, gives two conditions in a row and closes too early. -/
def hesitant : List BuilderCall :=
  [.then (.text "A"), .when (.built (.hasParam ⟨"guest", []⟩)), .when (.built (.literal true)),
    .then (.text "A"), .build, .when (.built (.literal true)), .otherwise (.text "B")]

/-- Four of its seven calls are accepted, and its last condition dangles. -/
theorem hesitant_dangles :
    (∀ c ∈ hesitant, c.Proper) ∧
      empty.accepted hesitant =
        [.when (.built (.hasParam ⟨"guest", []⟩)), .then (.text "A"), .build,
          .when (.built (.literal true))] ∧
      ((empty.run hesitant).call .build).2 =
        .ok (.chain ⟨[⟨.hasParam ⟨"guest", []⟩, "A"⟩], none, some (.literal true)⟩) := by
  have hproper : ∀ c ∈ hesitant, c.Proper := by
    simp only [hesitant, List.forall_mem_cons]
    exact ⟨.then _, .when _, .when _, .then _, .build, .when _, .otherwise _, by simp⟩
  obtain ⟨waiting, -, hrecords, -, -, -, hbuild, -⟩ := run_agrees_with_accepted hesitant hproper
  obtain ⟨c, rfl, hc⟩ := hrecords.exists_waiting (d := .built (.literal true)) rfl
  obtain rfl : .literal true = c := by simpa using hc
  exact ⟨hproper, rfl, (hbuild _).mpr ⟨rfl, rfl⟩⟩

end ChainBuilder

end QueryTemplate
