import QueryTemplate.Decision.Builder
import QueryTemplate.Proofs.Document.Checked
import QueryTemplate.Proofs.Outcome

/-!
# What a call does to a chain builder

`Accepts` says when an open builder accepts a call, what the call leaves behind and what it answers,
one constructor for each kind of call; `call_eq_ok` is where the calls are opened.  A refused call
leaves the builder alone, with one exception: the text for the other case is checked only after the
builder is closed, so a text that is none costs the caller the whole chain.
-/

namespace QueryTemplate

namespace Checked

lemma alternativeOf_eq_ok {condition : Checked Condition} {text : Checked String}
    {a : Alternative} :
    alternativeOf condition text = .ok a ↔ condition = .ok a.condition ∧ text = .ok a.text := by
  rw [alternativeOf, map_eq_ok]
  constructor
  · rintro ⟨r, h, rfl⟩
    simpa using and_eq_ok.mp h
  · rintro ⟨hc, ht⟩
    exact ⟨(a.condition, a.text), and_eq_ok.mpr (by simp [hc, ht]), rfl⟩

lemma chainOf_eq_ok {alternatives : Checked (List Alternative)}
    {elseText : Checked (Option String)} {dangling : Checked (Option Condition)} {c : Chain} :
    chainOf alternatives elseText dangling = .ok c ↔
      alternatives = .ok c.alternatives ∧ elseText = .ok c.elseText ∧ dangling = .ok c.dangling := by
  rw [chainOf, map_eq_ok]
  constructor
  · rintro ⟨r, h, rfl⟩
    obtain ⟨ha, h⟩ := and_eq_ok.mp h
    obtain ⟨he, hd⟩ := and_eq_ok.mp h
    exact ⟨under_eq_ok.mp ha, under_eq_ok.mp he, under_eq_ok.mp hd⟩
  · rintro ⟨ha, he, hd⟩
    exact ⟨(c.alternatives, c.elseText, c.dangling),
      and_eq_ok.mpr ⟨by simpa using ha, and_eq_ok.mpr (by simp [he, hd])⟩, rfl⟩

end Checked

namespace ChainBuilder

variable {b b' : ChainBuilder} {c : BuilderCall} {a : BuilderAnswer} {e : BuilderError}

/-! ## Accepted calls -/

/-- An open builder accepts the call: what that asks of it, what it leaves, and what it answers. -/
inductive Accepts (b : ChainBuilder) : BuilderCall → ChainBuilder → BuilderAnswer → Prop where
  | when (d : Draft) (free : b.pending = none) :
      Accepts b (.when d) { b with pending := d.pending } .builder
  | then {text : Value} {d : Draft} {a : Alternative} (waiting : b.pending = some d)
      (isCondition : Checked.draft d = .ok a.condition) (isText : Checked.text text = .ok a.text) :
      Accepts b (.then text) ⟨b.alternatives ++ [a], none, false⟩ .builder
  | otherwise {text : Value} {elseText : Option String} (free : b.pending = none)
      (begun : b.alternatives ≠ []) (isText : Checked.optionalText text = .ok elseText) :
      Accepts b (.otherwise text) { b with closed := true }
        (.chain ⟨b.alternatives, elseText, none⟩)
  | build {chain : Chain} (made : b.finish = .ok chain) : Accepts b .build b (.chain chain)

lemma call_of_closed (h : b.closed = true) (c : BuilderCall) :
    b.call c = (b, .error (.closed c.name)) := by
  simp [call, h]

theorem accepts_of_call (h : b.call c = (b', .ok a)) : b.closed = false ∧ Accepts b c b' a := by
  obtain ⟨as, pending, closed⟩ := b
  cases closed with
  | true => simp [call] at h
  | false =>
    refine ⟨rfl, ?_⟩
    cases c with
    | when d =>
      cases pending with
      | some d' => simp [call] at h
      | none =>
        obtain ⟨rfl, rfl⟩ : ⟨as, d.pending, false⟩ = b' ∧ BuilderAnswer.builder = a := by
          simpa [call] using h
        exact .when d rfl
    | «then» text =>
      cases pending with
      | none => simp [call] at h
      | some d =>
        cases hmade : (Checked.alternativeOf (Checked.draft d) (Checked.text text)).toExcept with
        | error e => simp [call, hmade] at h
        | ok made =>
          obtain ⟨hc, ht⟩ := Checked.alternativeOf_eq_ok.mp (Checked.toExcept_eq_ok.mp hmade)
          obtain ⟨rfl, rfl⟩ : ⟨as ++ [made], none, false⟩ = b' ∧ BuilderAnswer.builder = a := by
            simpa [call, hmade] using h
          exact .then rfl hc ht
    | otherwise text =>
      cases pending with
      | some d => simp [call] at h
      | none =>
        by_cases has : as = []
        · simp [call, has] at h
        · obtain ⟨rfl, hanswer⟩ := Prod.mk.inj (by simpa [call, has] using h)
          obtain ⟨chain, hchain, rfl⟩ := Outcome.map_eq_ok.mp (Outcome.mapError_eq_ok.mp hanswer)
          obtain ⟨has', he, hd⟩ := Checked.chainOf_eq_ok.mp (Checked.toExcept_eq_ok.mp hchain)
          obtain ⟨_, elseText, _⟩ := chain
          cases has'
          cases hd
          exact .otherwise rfl has he
    | build =>
      obtain ⟨rfl, hanswer⟩ := Prod.mk.inj (by simpa [call] using h)
      obtain ⟨chain, hchain, rfl⟩ := Outcome.map_eq_ok.mp hanswer
      exact .build (Checked.toExcept_eq_ok.mp (Outcome.mapError_eq_ok.mp hchain))

theorem call_of_accepts (hopen : b.closed = false) (h : Accepts b c b' a) :
    b.call c = (b', .ok a) := by
  cases h with
  | when d free => simp [call, hopen, free]
  | «then» waiting isCondition isText =>
    have hmade := Checked.toExcept_eq_ok.mpr
      (Checked.alternativeOf_eq_ok.mpr ⟨isCondition, isText⟩)
    simp [call, hopen, waiting, hmade]
  | @otherwise text elseText free begun isText =>
    have hmade := Checked.toExcept_eq_ok.mpr (Checked.chainOf_eq_ok
      (c := ⟨b.alternatives, elseText, none⟩).mpr ⟨rfl, isText, rfl⟩)
    simp [call, hopen, free, begun, hmade, Except.map, Except.mapError]
  | build made =>
    have hmade := Checked.toExcept_eq_ok.mpr made
    simp [call, build, hopen, hmade, Except.map, Except.mapError]

/-- Exactly an open builder accepts calls, and it accepts those it is made for. -/
theorem call_eq_ok : b.call c = (b', .ok a) ↔ b.closed = false ∧ Accepts b c b' a :=
  ⟨accepts_of_call, fun ⟨hopen, h⟩ => call_of_accepts hopen h⟩

/-- The same of the answer alone. -/
lemma answer_eq_ok : (b.call c).2 = .ok a ↔ b.closed = false ∧ ∃ b', Accepts b c b' a := by
  constructor
  · intro h
    obtain ⟨hopen, ha⟩ := call_eq_ok.mp (Prod.ext rfl h)
    exact ⟨hopen, _, ha⟩
  · rintro ⟨hopen, b', ha⟩
    rw [call_eq_ok.mpr ⟨hopen, ha⟩]

/-! ## Refused calls -/

/-- The builder refuses the call: why, what that leaves, and with which error.  All but one of the
refusals leave the builder as it was. -/
inductive Refuses (b : ChainBuilder) : BuilderCall → ChainBuilder → BuilderError → Prop where
  | closed {c : BuilderCall} (shut : b.closed = true) : Refuses b c b (.closed c.name)
  | whenTwice {d d' : Draft} (isOpen : b.closed = false) (waiting : b.pending = some d') :
      Refuses b (.when d) b .whenTwice
  | thenWithoutWhen {text : Value} (isOpen : b.closed = false) (free : b.pending = none) :
      Refuses b (.then text) b .thenWithoutWhen
  | notAlternative {text : Value} {d : Draft} {e : InputError} (isOpen : b.closed = false)
      (waiting : b.pending = some d)
      (unmade : (Checked.alternativeOf (Checked.draft d) (Checked.text text)).toExcept = .error e) :
      Refuses b (.then text) b (.input e)
  | otherwiseTooEarly {text : Value} {d : Draft} (isOpen : b.closed = false)
      (waiting : b.pending = some d) : Refuses b (.otherwise text) b .otherwiseTooEarly
  | otherwiseWithoutAlternative {text : Value} (isOpen : b.closed = false) (free : b.pending = none)
      (unbegun : b.alternatives = []) :
      Refuses b (.otherwise text) b .otherwiseWithoutAlternative
  | notElseText {text : Value} {e : InputError} (isOpen : b.closed = false) (free : b.pending = none)
      (begun : b.alternatives ≠ [])
      (unmade : (Checked.chainOf (.ok b.alternatives) (Checked.optionalText text)
        (.ok none)).toExcept = .error e) :
      Refuses b (.otherwise text) { b with closed := true } (.input e)
  | notChain {e : InputError} (isOpen : b.closed = false) (unmade : b.finish.toExcept = .error e) :
      Refuses b .build b (.input e)

theorem refuses_of_call (h : b.call c = (b', .error e)) : Refuses b c b' e := by
  obtain ⟨as, pending, closed⟩ := b
  cases closed with
  | true =>
    obtain ⟨rfl, rfl⟩ : ⟨as, pending, true⟩ = b' ∧ BuilderError.closed c.name = e := by
      simpa [call] using h
    exact .closed rfl
  | false =>
    cases c with
    | when d =>
      cases pending with
      | none => simp [call] at h
      | some d' =>
        obtain ⟨rfl, rfl⟩ : ⟨as, some d', false⟩ = b' ∧ BuilderError.whenTwice = e := by
          simpa [call] using h
        exact .whenTwice rfl rfl
    | «then» text =>
      cases pending with
      | none =>
        obtain ⟨rfl, rfl⟩ : ⟨as, none, false⟩ = b' ∧ BuilderError.thenWithoutWhen = e := by
          simpa [call] using h
        exact .thenWithoutWhen rfl rfl
      | some d =>
        cases hmade : (Checked.alternativeOf (Checked.draft d) (Checked.text text)).toExcept with
        | ok made => simp [call, hmade] at h
        | error i =>
          obtain ⟨rfl, rfl⟩ : ⟨as, some d, false⟩ = b' ∧ BuilderError.input i = e := by
            simpa [call, hmade] using h
          exact .notAlternative rfl rfl hmade
    | otherwise text =>
      cases pending with
      | some d =>
        obtain ⟨rfl, rfl⟩ : ⟨as, some d, false⟩ = b' ∧ BuilderError.otherwiseTooEarly = e := by
          simpa [call] using h
        exact .otherwiseTooEarly rfl rfl
      | none =>
        by_cases has : as = []
        · obtain ⟨rfl, rfl⟩ :
              ⟨as, none, false⟩ = b' ∧ BuilderError.otherwiseWithoutAlternative = e := by
            simpa [call, has] using h
          exact .otherwiseWithoutAlternative rfl rfl has
        · obtain ⟨rfl, hanswer⟩ := Prod.mk.inj (by simpa [call, has] using h)
          obtain ⟨i, hi, rfl⟩ := Outcome.mapError_eq_error.mp hanswer
          exact .notElseText rfl rfl has (Outcome.map_eq_error.mp hi)
    | build =>
      obtain ⟨rfl, hanswer⟩ := Prod.mk.inj (by simpa [call] using h)
      obtain ⟨i, hi, rfl⟩ := Outcome.mapError_eq_error.mp (Outcome.map_eq_error.mp hanswer)
      exact .notChain rfl hi

/-- The call asks for the text for the other case when it may be given, but with a value that is
none. -/
def Overreaches (b : ChainBuilder) (c : BuilderCall) : Prop :=
  ∃ text, c = .otherwise text ∧ b.closed = false ∧ b.pending = none ∧ b.alternatives ≠ [] ∧
    ∀ elseText, Checked.optionalText text ≠ .ok elseText

lemma leaves_of_refuses (h : Refuses b c b' e) (hnot : ¬ b.Overreaches c) : b' = b := by
  cases h with
  | notElseText isOpen free begun unmade =>
    refine absurd ⟨_, rfl, isOpen, free, begun, fun elseText htext => ?_⟩ hnot
    have hmade := Checked.chainOf_eq_ok (c := ⟨b.alternatives, elseText, none⟩).mpr
      ⟨rfl, htext, rfl⟩
    rw [Checked.toExcept_eq_ok.mpr hmade] at unmade
    cases unmade
  | _ => rfl

lemma closes_of_refuses (h : Refuses b c b' e) (hover : b.Overreaches c) :
    b' = { b with closed := true } ∧ ∃ i, e = .input i := by
  obtain ⟨text, rfl, isOpen, free, begun, -⟩ := hover
  cases h with
  | notElseText => exact ⟨rfl, _, rfl⟩
  | closed shut => simp [isOpen] at shut
  | otherwiseTooEarly _ waiting => simp [free] at waiting
  | otherwiseWithoutAlternative _ _ unbegun => exact absurd unbegun begun

/-- A refused call leaves the builder as it was, unless it gives something that is no text for the
other case when such a text may be given.  Then the builder is closed all the same: its alternatives
are kept, but every further call is refused. -/
theorem refused_leaves_builder_iff (h : b.call c = (b', .error e)) :
    (b' = b ↔ ¬ b.Overreaches c) ∧
      (b.Overreaches c → b' = { b with closed := true } ∧ (∃ i, e = .input i) ∧
        ∀ c', b'.call c' = (b', .error (.closed c'.name))) := by
  have hrefuses := refuses_of_call h
  refine ⟨⟨fun hsame hover => ?_, leaves_of_refuses hrefuses⟩, fun hover => ?_⟩
  · have hclosed : b.closed = true := by
      rw [← hsame, (closes_of_refuses hrefuses hover).1]
    obtain ⟨-, -, isOpen, -⟩ := hover
    simp [isOpen] at hclosed
  · obtain ⟨rfl, he⟩ := closes_of_refuses hrefuses hover
    exact ⟨rfl, he, fun c' => call_of_closed rfl c'⟩

/-- A builder with an alternative, ready for a text for the other case. -/
def begun : ChainBuilder :=
  empty.run [.when (.built (.hasParam ⟨"a", []⟩)), .then (.text "A")]

/-- A text without a condition may be followed by a corrected call, a number as the text for the
other case may not. -/
theorem begun_refuses :
    begun.call (.then (.text "B")) = (begun, .error .thenWithoutWhen) ∧
      ¬ begun.Overreaches (.then (.text "B")) ∧
      begun.call (.otherwise (.int 5)) =
        ({ begun with closed := true },
          .error (.input (.issues [⟨[.field "else_text"], .notText⟩]))) ∧
      begun.Overreaches (.otherwise (.int 5)) ∧
      ({ begun with closed := true } : ChainBuilder).call (.otherwise (.text "B")) =
        ({ begun with closed := true }, .error (.closed "otherwise")) := by
  have hthen : begun.call (.then (.text "B")) = (begun, .error .thenWithoutWhen) := rfl
  have hover : begun.Overreaches (.otherwise (.int 5)) :=
    ⟨.int 5, rfl, rfl, rfl, List.cons_ne_nil _ _, fun _ => by simp [Checked.optionalText,
      Checked.text, Value.int, Checked.map, Checked.fault]⟩
  exact ⟨hthen, (refused_leaves_builder_iff hthen).1.mp rfl, rfl, hover,
    ((refused_leaves_builder_iff (e := .input (.issues [⟨[.field "else_text"], .notText⟩])) rfl).2
      hover).2.2 (.otherwise (.text "B"))⟩

/-- So a refused call of a run may change the builder. -/
theorem not_every_refusal_leaves_builder :
    ¬ ∀ (cs : List BuilderCall) (c : BuilderCall) (e : BuilderError),
      ((empty.run cs).call c).2 = .error e → ((empty.run cs).call c).1 = empty.run cs := by
  intro h
  have hsame : ({ begun with closed := true } : ChainBuilder) = begun :=
    h [.when (.built (.hasParam ⟨"a", []⟩)), .then (.text "A")] (.otherwise (.int 5)) _ rfl
  exact absurd (congrArg closed hsame) (by decide)

end ChainBuilder

end QueryTemplate
