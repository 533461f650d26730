import Mathlib.Data.List.Basic
import QueryTemplate.Engine.Literal
import QueryTemplate.Proofs.Engine.Grammar

/-!
# Reading the phrases of the template engine

A reader of phrases, one case for each rank, with fuel for the descent.  With fuel for the length of
a phrase it reads that phrase, if what follows cannot continue it.  So a text has one meaning as a
phrase, and an engine that gives every phrase the value of its term exists: it reads.
-/

namespace QueryTemplate.Engine

/-! ## The reader -/

/-- The characters denoted by a literal up to its closing mark, and what follows the mark. -/
def readText : List Char → Option (List Char × List Char)
  | [] => none
  | '\'' :: '\'' :: cs => (readText cs).map fun (s, rest) => ('\'' :: s, rest)
  | '\'' :: cs => some ([], cs)
  | c :: cs => (readText cs).map fun (s, rest) => (c :: s, rest)

/-- Reads an operand with a literal, from its opening up to what stands behind the literal. -/
def readFramed (opening closing : String) (term : String → Term) (cs : List Char) :
    Option (Term × List Char) := do
  let cs ← cs.dropPrefix? opening.toList
  let (s, cs) ← readText cs
  let cs ← cs.dropPrefix? closing.toList
  some (term (.ofList s), cs)

/-- Reads an operand of one word. -/
def readWord (word : String) (t : Term) (cs : List Char) : Option (Term × List Char) :=
  (cs.dropPrefix? word.toList).map (t, ·)

/-- Reads an operand without parts. -/
def readAtom (cs : List Char) : Option (Term × List Char) :=
  (readFramed "'" "" .text cs).or <|
    (readFramed "#p.containsKey('" ")" .isBound cs).or <|
    (readFramed "#p['" "]" .param cs).or <|
    (readWord "null" .null cs).or <|
    (readWord "true" (.truth true) cs).or <|
    readWord "false" (.truth false) cs

/-- The signs that connect phrases to one of the rank. -/
def Rank.connectives : Rank → List Connective
  | .comparison => [.equal, .differ]
  | .conjunction => [.and]
  | .disjunction => [.or]
  | .operand | .negation | .choice => []

/-- The sign of the rank in front of the characters, and what follows it. -/
def Rank.ahead? (r : Rank) (cs : List Char) : Option (Connective × List Char) :=
  r.connectives.findSome? fun op => (cs.dropPrefix? op.sign.toList).map (op, ·)

/-- Reads a phrase of a rank. -/
def read : ℕ → Rank → List Char → Option (Term × List Char)
  | 0, _, _ => none
  | fuel + 1, .operand, '(' :: cs => do
    let (t, cs) ← read fuel .choice cs
    let cs ← cs.dropPrefix? ")".toList
    some (t, cs)
  | _ + 1, .operand, cs => readAtom cs
  | fuel + 1, .negation, '!' :: cs => do
    let (t, cs) ← read fuel .negation cs
    some (.not t, cs)
  | fuel + 1, .negation, cs => read fuel .operand cs
  | fuel + 1, .choice, cs => do
    let (t, cs) ← read fuel .disjunction cs
    match cs.dropPrefix? " ? ".toList with
    | none => some (t, cs)
    | some cs =>
      let (u, cs) ← read fuel .disjunction cs
      let cs ← cs.dropPrefix? ":".toList
      let (v, cs) ← read fuel .disjunction cs
      some (.choice t u v, cs)
  | fuel + 1, r, cs => do
    let (t, cs) ← read fuel r.tighter cs
    match r.ahead? cs with
    | none => some (t, cs)
    | some (op, cs) =>
      let (u, cs) ← read fuel op.right cs
      some (.connect op t u, cs)

/-! ## Where a phrase ends -/

/-- The place of a rank, from the tightest on. -/
def Rank.index : Rank → ℕ
  | .operand => 0
  | .negation => 1
  | .comparison => 2
  | .conjunction => 3
  | .disjunction => 4
  | .choice => 5

/-- What in front of the rest would continue a phrase of the rank. -/
def Rank.signs : Rank → List String
  | .operand => ["'"]
  | .negation => []
  | .comparison => [" == ", " != "]
  | .conjunction => [" and "]
  | .disjunction => [" or "]
  | .choice => [" ? "]

/-- Nothing in front of the characters continues a phrase of the rank. -/
def Stops (r : Rank) (cs : List Char) : Prop :=
  ∀ q : Rank, q.index ≤ r.index → ∀ s ∈ q.signs, cs.dropPrefix? s.toList = none

lemma Stops.mono {q r : Rank} {cs : List Char} (h : Stops r cs) (hq : q.index ≤ r.index) :
    Stops q cs :=
  fun p hp => h p (Nat.le_trans hp hq)

lemma stops_nil (r : Rank) : Stops r [] := by
  intro q _
  cases q <;> simp [Rank.signs, List.dropPrefix?]

/-- A sign ends the phrase before it. -/
lemma stops_sign (op : Connective) (cs : List Char) :
    Stops op.rank.tighter (op.sign.toList ++ cs) := by
  intro q hq
  cases op <;> cases q <;> simp_all [Rank.signs, Rank.index, Connective.rank, Rank.tighter,
    Connective.sign, List.dropPrefix?]

lemma stops_question (cs : List Char) : Stops .disjunction (" ? ".toList ++ cs) := by
  intro q hq
  cases q <;> simp_all [Rank.signs, Rank.index, List.dropPrefix?]

lemma stops_colon (r : Rank) (cs : List Char) : Stops r (":".toList ++ cs) := by
  intro q _
  cases q <;> simp [Rank.signs, List.dropPrefix?]

lemma stops_closing (r : Rank) (cs : List Char) : Stops r (")".toList ++ cs) := by
  intro q _
  cases q <;> simp [Rank.signs, List.dropPrefix?]

lemma Stops.ahead?_eq_none {r : Rank} {cs : List Char} (h : Stops r cs) : r.ahead? cs = none := by
  have := h r (Nat.le_refl _)
  cases r <;> simp_all [Rank.ahead?, Rank.connectives, Rank.signs, Connective.sign]

/-- The sign of a rank is seen in front of what follows it. -/
lemma ahead?_sign (op : Connective) (cs : List Char) :
    op.rank.ahead? (op.sign.toList ++ cs) = some (op, cs) := by
  cases op <;> simp [Connective.rank, Rank.ahead?, Rank.connectives, Connective.sign,
    List.dropPrefix?]

/-! ## Operands -/

lemma dropPrefix?_append (s : String) (cs : List Char) :
    (s.toList ++ cs).dropPrefix? s.toList = some cs :=
  List.dropPrefix?_append_of_beq cs (beq_self_eq_true s.toList)

/-- A literal is read up to its closing mark, if no other mark follows. -/
lemma readText_of_doubled {body s rest : List Char} (h : Doubled body s)
    (hrest : rest.head? ≠ some '\'') : readText (body ++ '\'' :: rest) = some (s, rest) := by
  induction h with
  | nil =>
    cases rest with
    | nil => rfl
    | cons c rest =>
      have hc : c ≠ '\'' := by simpa using hrest
      simp [readText, hc]
  | plain hc _ ih => simp [readText, hc, ih]
  | mark _ ih => simp [readText, ih]

lemma doubled_self {cs : List Char} (h : '\'' ∉ cs) : Doubled cs cs := by
  induction cs with
  | nil => exact .nil
  | cons c cs ih =>
    obtain ⟨hc, hcs⟩ := not_or.mp (List.mem_cons.not.mp h)
    exact .plain (Ne.symm hc) (ih hcs)

lemma doubled_doubleMarks (cs : List Char) : Doubled (doubleMarks cs) cs := by
  fun_induction doubleMarks cs with
  | case1 => exact .nil
  | case2 cs ih => exact .mark ih
  | case3 c cs hc ih => exact .plain hc ih

lemma readAtom_text {body s : String} {rest : List Char} (h : Doubled body.toList s.toList)
    (hrest : rest.head? ≠ some '\'') :
    readAtom (("'" ++ body ++ "'").toList ++ rest) = some (.text s, rest) := by
  simp [readAtom, readFramed, List.dropPrefix?, readText_of_doubled h hrest]

/-- A name without an apostrophe is read as it stands. -/
lemma readText_name {name : String} (h : '\'' ∉ name.toList) {c : Char} (hc : c ≠ '\'')
    (rest : List Char) :
    readText (name.toList ++ '\'' :: c :: rest) = some (name.toList, c :: rest) :=
  readText_of_doubled (doubled_self h) (by simpa using hc)

lemma readAtom_isBound {name : String} (h : '\'' ∉ name.toList) (rest : List Char) :
    readAtom (("#p.containsKey('" ++ name ++ "')").toList ++ rest) =
      some (.isBound name, rest) := by
  simp [readAtom, readFramed, List.dropPrefix?, readText_name h]

lemma readAtom_param {name : String} (h : '\'' ∉ name.toList) (rest : List Char) :
    readAtom (("#p['" ++ name ++ "']").toList ++ rest) = some (.param name, rest) := by
  simp [readAtom, readFramed, List.dropPrefix?, readText_name h]

lemma readAtom_word (rest : List Char) :
    readAtom ("null".toList ++ rest) = some (.null, rest) ∧
      readAtom ("true".toList ++ rest) = some (.truth true, rest) ∧
      readAtom ("false".toList ++ rest) = some (.truth false, rest) := by
  simp [readAtom, readFramed, readWord, List.dropPrefix?]

/-! ## Phrases of every rank -/

/-- An operand begins with no `!`. -/
lemma head?_of_operand {r : Rank} {s : String} {t : Term} (h : Phrase r s t) (hr : r = .operand)
    (rest : List Char) : (s.toList ++ rest).head? ≠ some '!' := by
  cases h with
  | null | true | false | text | isBound | param | group => simp
  | not | choice => cases hr
  | connect op => cases op <;> cases hr
  | @looser q =>  cases q <;> cases hr

lemma read_of_head? {fuel : ℕ} {cs : List Char} (h : cs.head? ≠ some '(') :
    read (fuel + 1) .operand cs = readAtom cs := by
  cases cs with
  | nil => rfl
  | cons c cs =>
    have hc : c ≠ '(' := by simpa using h
    simp [read, hc]

/-- What is read as a phrase of a rank is read as one of the next looser rank, if nothing
continues it. -/
lemma read_looser {fuel : ℕ} {r : Rank} {cs rest : List Char} {t : Term}
    (h : read fuel r cs = some (t, rest)) (hne : r ≠ .choice) (hstop : Stops r.looser rest)
    (hhead : r = .operand → cs.head? ≠ some '!') :
    read (fuel + 1) r.looser cs = some (t, rest) := by
  cases r with
  | operand =>
    cases cs with
    | nil => simpa [read, Rank.looser] using h
    | cons c cs =>
      have hc : c ≠ '!' := by simpa using hhead rfl
      simpa [read, Rank.looser, hc] using h
  | negation | comparison | conjunction =>
    have hahead := hstop.ahead?_eq_none
    simp only [Rank.looser] at hahead ⊢
    simp only [read, Rank.tighter, h, Option.bind_eq_bind, Option.bind_some, hahead]
  | disjunction =>
    have hquestion : rest.dropPrefix? " ? ".toList = none :=
      hstop .choice (Nat.le_refl _) " ? " (by simp [Rank.signs])
    simp only [Rank.looser, read, h, Option.bind_eq_bind, Option.bind_some, hquestion]
  | choice => exact absurd rfl hne

/-- Two phrases are read around the sign between them. -/
lemma read_connect {fuel : ℕ} {op : Connective} {cs mid rest : List Char} {t u : Term}
    (hleft : read fuel op.rank.tighter cs = some (t, op.sign.toList ++ mid))
    (hright : read fuel op.right mid = some (u, rest)) :
    read (fuel + 1) op.rank cs = some (.connect op t u, rest) := by
  have hahead := ahead?_sign op mid
  cases op <;> simp only [Connective.rank] at hleft hahead ⊢ <;>
    simp only [read, hleft, hahead, hright, Option.bind_eq_bind, Option.bind_some]

/-- With fuel for its length a phrase is read, if nothing continues it.  A rank costs one step, and
the parentheses around a group pay for the six ranks inside. -/
theorem read_of_phrase {r : Rank} {s : String} {t : Term} (h : Phrase r s t) {fuel : ℕ}
    (hfuel : 6 * s.length + r.index < fuel) {rest : List Char} (hstop : Stops r rest) :
    read fuel r (s.toList ++ rest) = some (t, rest) := by
  induction h generalizing fuel rest <;>
    obtain ⟨fuel, rfl⟩ : ∃ n, fuel = n + 1 := ⟨fuel - 1, by omega⟩
  case null => exact (read_of_head? (by simp)).trans (readAtom_word rest).1
  case true => exact (read_of_head? (by simp)).trans (readAtom_word rest).2.1
  case false => exact (read_of_head? (by simp)).trans (readAtom_word rest).2.2
  case text body s hs =>
    have hmark : rest.head? ≠ some '\'' := by
      have hnone := hstop .operand (Nat.le_refl _) "'" (by simp [Rank.signs])
      intro hrest
      cases rest <;> simp_all [List.dropPrefix?]
    exact (read_of_head? (by simp)).trans (readAtom_text hs hmark)
  case isBound name hname => exact (read_of_head? (by simp)).trans (readAtom_isBound hname rest)
  case param name hname => exact (read_of_head? (by simp)).trans (readAtom_param hname rest)
  case group s t inner ih =>
    have hlength : ("(" ++ s ++ ")").length = s.length + 2 := by
      rw [String.length_append, String.length_append, Nat.add_comm "(".length]
      rfl
    have hs : read fuel .choice (s.toList ++ (")".toList ++ rest)) = some (t, ")".toList ++ rest) :=
      ih (by simp only [Rank.index] at hfuel ⊢; omega) (stops_closing _ _)
    simp [read] at hs ⊢
    simp [hs, List.dropPrefix?]
  case not s t inner ih =>
    have hlength : ("!" ++ s).length = s.length + 1 := by
      rw [String.length_append, Nat.add_comm]
      rfl
    have hs : read fuel .negation (s.toList ++ rest) = some (t, rest) := ih (by omega) hstop
    simp [read, hs]
  case connect l r t u op left right ihl ihr =>
    have hlength : (l ++ op.sign ++ r).length = l.length + op.sign.length + r.length := by
      rw [String.length_append, String.length_append]
    have hsign : 4 ≤ op.sign.length := by cases op <;> decide
    have hrank : op.rank.tighter.index ≤ op.rank.index ∧ op.right.index ≤ op.rank.index := by
      cases op <;> decide
    have hl : read fuel op.rank.tighter (l.toList ++ (op.sign.toList ++ (r.toList ++ rest))) =
        some (t, op.sign.toList ++ (r.toList ++ rest)) := ihl (by omega) (stops_sign op _)
    have hr : read fuel op.right (r.toList ++ rest) = some (u, rest) :=
      ihr (by omega) (hstop.mono hrank.2)
    simpa using read_connect hl hr
  case choice c l r t u v guard left right ihc ihl ihr =>
    have hlength : (c ++ " ? " ++ l ++ ":" ++ r).length = c.length + l.length + r.length + 4 := by
      have h₁ : " ? ".length = 3 := rfl
      have h₂ : ":".length = 1 := rfl
      simp only [String.length_append, h₁, h₂]
      omega
    simp only [Rank.index] at hfuel ihc ihl ihr
    have hr : read fuel .disjunction (r.toList ++ rest) = some (v, rest) :=
      ihr (by omega) (hstop.mono (by decide))
    have hl : read fuel .disjunction (l.toList ++ (":".toList ++ (r.toList ++ rest))) =
        some (u, ":".toList ++ (r.toList ++ rest)) := ihl (by omega) (stops_colon _ _)
    have hcs := stops_question (l.toList ++ (":".toList ++ (r.toList ++ rest)))
    have hc : read fuel .disjunction _ = _ := ihc (by omega) hcs
    simp only [String.toList_append, List.append_assoc, read, hc, dropPrefix?_append, hl, hr,
      Option.bind_eq_bind, Option.bind_some]
  case looser r s t h ih =>
    by_cases hr : r = .choice
    · -- nothing is looser than a choice: the rank stays, and so does the fuel
      subst hr
      exact ih hfuel hstop
    · have hindex : r.looser.index = r.index + 1 := by
        cases r <;> first | rfl | exact absurd rfl hr
      refine read_looser (ih (by omega) (hstop.mono (by omega))) hr hstop fun hoperand => ?_
      exact head?_of_operand h hoperand rest

/-- A phrase of any rank is read as a whole. -/
lemma read_whole {r : Rank} {s : String} {t : Term} (h : Phrase r s t) :
    read (6 * s.length + 6) .choice s.toList = some (t, []) := by
  have hfuel : 6 * s.length + Rank.choice.index < 6 * s.length + 6 := by
    simp only [Rank.index]
    omega
  have hread := read_of_phrase h.toChoice hfuel (stops_nil _)
  rwa [List.append_nil] at hread

/-- A text has one meaning as a phrase, whatever its rank. -/
theorem Phrase.unique {q r : Rank} {s : String} {t u : Term} (h : Phrase q s t)
    (h' : Phrase r s u) : t = u := by
  have hsame := (read_whole h).symm.trans (read_whole h')
  rw [Option.some.injEq, Prod.mk.injEq] at hsame
  exact hsame.1

/-! ## An engine that reads -/

/-- The value of what a text is read as. -/
def readValue (b : Binding) (s : String) : Option Value :=
  match read (6 * s.length + 6) .choice s.toList with
  | some (t, []) => t.value b
  | _ => none

/-- The engine that reads a text and evaluates what it has read. -/
def Evaluator.reading : Evaluator where
  value := readValue
  value_of_phrase := by
    intro b r s t v h hv
    rw [readValue, read_whole h]
    exact hv

end QueryTemplate.Engine
