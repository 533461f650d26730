import Mathlib.Tactic.Common
import QueryTemplate.Proofs.Engine.Predicates
import QueryTemplate.Proofs.Engine.Reading

/-!
# Names in predicates

A predicate holds the names it asks about between apostrophes, as they stand.  Texts and values are
quoted, with each apostrophe twice; names are not.  So the literals of a predicate are its names
exactly when no name holds an apostrophe, and only among names without apostrophes a predicate
tells its names.  What goes wrong otherwise can be said exactly: between two names stands a
separator, and a single name that holds the separator makes the same predicate as the names on its
two sides.
-/

namespace QueryTemplate.Engine

/-! ## The literals of a text -/

/-- Outside its literals the text holds no apostrophe, and its literals denote these characters. -/
inductive LiteralsOf : List Char → List (List Char) → Prop where
  | nil : LiteralsOf [] []
  | other {c : Char} {cs : List Char} {ls : List (List Char)} (hc : c ≠ '\'')
      (h : LiteralsOf cs ls) : LiteralsOf (c :: cs) ls
  | literal {body s rest : List Char} {ls : List (List Char)} (hbody : Doubled body s)
      (hrest : rest.head? ≠ some '\'') (h : LiteralsOf rest ls) :
      LiteralsOf ('\'' :: (body ++ '\'' :: rest)) (s :: ls)

namespace LiteralsOf

variable {cs xs : List Char} {ls ms : List (List Char)}

/-- A text has its literals in one way only. -/
theorem unique (h : LiteralsOf cs ls) (h' : LiteralsOf cs ms) : ls = ms := by
  induction h generalizing ms with
  | nil =>
    cases h'
    rfl
  | other hc _ ih =>
    cases h' with
    | other _ h' => exact ih h'
    | literal => exact absurd rfl hc
  | @literal body s rest ls hbody hrest _ ih =>
    generalize hcs : '\'' :: (body ++ '\'' :: rest) = cs at h'
    cases h' with
    | nil => cases hcs
    | other hc _ =>
      obtain ⟨rfl, -⟩ := List.cons.inj hcs
      exact absurd rfl hc
    | literal hbody' hrest' h' =>
      have hread := readText_of_doubled hbody hrest
      rw [(List.cons.inj hcs).2, readText_of_doubled hbody' hrest'] at hread
      obtain ⟨rfl, rfl⟩ := Prod.mk.inj (Option.some.inj hread)
      rw [ih h']

lemma append (hxs : '\'' ∉ xs) (h : LiteralsOf cs ls) : LiteralsOf (xs ++ cs) ls := by
  induction xs with
  | nil => exact h
  | cons x xs ih =>
    obtain ⟨hx, hxs⟩ := not_or.mp (List.mem_cons.not.mp hxs)
    exact .other (Ne.symm hx) (ih hxs)

end LiteralsOf

/-- Between the marks of a literal each apostrophe of what it denotes stands twice. -/
lemma Doubled.count {body s : List Char} (h : Doubled body s) :
    body.count '\'' = 2 * s.count '\'' := by
  induction h with
  | nil => rfl
  | plain hc _ ih => rw [List.count_cons_of_ne hc, List.count_cons_of_ne hc, ih]
  | mark _ ih =>
    rw [List.count_cons_self, List.count_cons_self, List.count_cons_self, ih]
    omega

/-- A text has two apostrophes for each literal and two for each apostrophe in what these denote. -/
lemma LiteralsOf.count {cs : List Char} {ls : List (List Char)} (h : LiteralsOf cs ls) :
    cs.count '\'' = 2 * ls.length + 2 * ls.flatten.count '\'' := by
  induction h with
  | nil => rfl
  | other hc _ ih => rw [List.count_cons_of_ne hc, ih]
  | literal hbody _ _ ih =>
    rw [List.count_cons_self, List.count_append, List.count_cons_self, hbody.count, ih,
      List.length_cons, List.flatten_cons, List.count_append]
    omega

/-! ## Questions about names -/

/-- What is asked about names. -/
inductive Question where
  | bound
  | unbound
  | null
  | notNull
  | oneOf
  | allOf
  deriving DecidableEq

namespace Question

/-- The question as a condition. -/
def condition : Question → Names → Condition
  | .bound => .hasParam
  | .unbound => .hasNoParam
  | .null => .isNull
  | .notNull => .isNotNull
  | .oneOf => (.contains · .one)
  | .allOf => (.contains · .all)

/-- The kind of the condition. -/
def tag (q : Question) : String :=
  (q.condition ⟨"", []⟩).tag

/-- What stands before the first name and its apostrophe. -/
def front : Question → String
  | .bound | .unbound => "#p.containsKey("
  | .null | .notNull => "#p["
  | .oneOf | .allOf => "(#p.containsKey("

/-- What stands between two names and their apostrophes. -/
def middle : Question → String
  | .bound | .allOf => ") and #p.containsKey("
  | .unbound => ") == false and #p.containsKey("
  | .null => "] == null and #p["
  | .notNull => "] != null and #p["
  | .oneOf => ") or #p.containsKey("

/-- What stands behind the last name and its apostrophe. -/
def back : Question → String
  | .bound => ")"
  | .unbound => ") == false"
  | .null => "] == null"
  | .notNull => "] != null"
  | .oneOf | .allOf => "))"

/-- What separates two names. -/
def separator (q : Question) : String :=
  "'" ++ q.middle ++ "'"

end Question

/-- Texts around joined items can be joined instead. -/
lemma intercalate_framed (sign before after x : String) (xs : List String) :
    sign.intercalate ((x :: xs).map fun n => before ++ n ++ after) =
      before ++ (after ++ sign ++ before).intercalate (x :: xs) ++ after := by
  induction xs generalizing x with
  | nil => rw [List.map_singleton, String.intercalate_singleton, String.intercalate_singleton]
  | cons y ys ih =>
    have hrest := ih y
    rw [List.map_cons] at hrest
    rw [List.map_cons, List.map_cons, String.intercalate_cons_cons, hrest,
      String.intercalate_cons_cons]
    simp only [String.append_assoc]

namespace Question

variable {q r : Question} {ns ms : Names}

/-- The names one behind the other, with separators between them. -/
def names (q : Question) (ns : Names) : List Char :=
  q.separator.toList.intercalate (ns.toList.map String.toList)

/-- A predicate is its names with separators between them, in a frame. -/
lemma toList_predicate (q : Question) (ns : Names) : (predicate (q.condition ns)).toList =
    q.front.toList ++ '\'' :: (q.names ns ++ '\'' :: q.back.toList) := by
  have hframed {sign : String} {f : String → String} (before after : String)
      (hf : ∀ n, f n = before ++ n ++ after) : forEach sign ns f =
        before ++ (after ++ sign ++ before).intercalate ns.toList ++ after := by
    rw [forEach, funext hf]
    exact intercalate_framed sign before after ns.first ns.rest
  have hkey (n : String) : containsKey n = "#p.containsKey('" ++ n ++ "')" := rfl
  have href (n : String) : reference n = "#p['" ++ n ++ "']" := rfl
  rw [names]
  cases q with
  | bound =>
    rw [condition, predicate, hframed _ _ hkey]
    simp [front, separator, middle, back]
  | unbound =>
    have hfalse (n : String) :
        containsKey n ++ " == false" = "#p.containsKey('" ++ n ++ "') == false" := by
      rw [hkey, String.append_assoc]
      rfl
    rw [condition, predicate, hframed _ _ hfalse]
    simp [front, separator, middle, back]
  | null =>
    have hnull (n : String) : reference n ++ " == null" = "#p['" ++ n ++ "'] == null" := by
      rw [href, String.append_assoc]
      rfl
    rw [condition, predicate, hframed _ _ hnull]
    simp [front, separator, middle, back]
  | notNull =>
    have hnull (n : String) : reference n ++ " != null" = "#p['" ++ n ++ "'] != null" := by
      rw [href, String.append_assoc]
      rfl
    rw [condition, predicate, hframed _ _ hnull]
    simp [front, separator, middle, back]
  | oneOf | allOf =>
    rw [condition, predicate, hframed _ _ hkey]
    simp [front, separator, middle, back]

/-! ## Names and literals -/

/-- The frame of the names holds no apostrophe, and something stands between two names. -/
lemma unmarked (q : Question) : '\'' ∉ q.front.toList ∧
    ('\'' ∉ q.middle.toList ∧ q.middle.toList ≠ []) ∧ '\'' ∉ q.back.toList := by
  cases q <;> simp [front, middle, back]

lemma toList_separator (q : Question) :
    q.separator.toList = '\'' :: (q.middle.toList ++ ['\'']) := by
  simp [separator]

lemma names_singleton (q : Question) (n : String) : q.names ⟨n, []⟩ = n.toList :=
  List.intercalate_singleton

lemma names_cons (q : Question) (n m : String) (rest : List String) : q.names ⟨n, m :: rest⟩ =
    n.toList ++ '\'' :: (q.middle.toList ++ '\'' :: q.names ⟨m, rest⟩) := by
  have h : q.names ⟨n, m :: rest⟩ = n.toList ++ q.separator.toList ++ q.names ⟨m, rest⟩ :=
    List.intercalate_cons_cons
  rw [h, toList_separator]
  simp

/-- Names without apostrophes are literals with their characters. -/
lemma literalsOf_names (q : Question) (h : Unmarked ns) :
    LiteralsOf ('\'' :: (q.names ns ++ '\'' :: q.back.toList)) (ns.toList.map String.toList) := by
  obtain ⟨-, ⟨hmiddle, hne⟩, hback⟩ := q.unmarked
  obtain ⟨first, rest⟩ := ns
  induction rest generalizing first with
  | nil =>
    have hnone : LiteralsOf q.back.toList [] := by simpa using LiteralsOf.nil.append hback
    have hhead : q.back.toList.head? ≠ some '\'' := fun hhead => hback (List.mem_of_head? hhead)
    rw [names_singleton]
    exact .literal (doubled_self (h first List.mem_cons_self)) hhead hnone
  | cons m rest ih =>
    have hmore := (ih m fun n hn => h n (List.mem_cons_of_mem _ hn)).append hmiddle
    have hhead : (q.middle.toList ++ '\'' :: (q.names ⟨m, rest⟩ ++ '\'' :: q.back.toList)).head? ≠
        some '\'' := by
      rw [List.head?_append_of_ne_nil _ hne]
      exact fun hhead => hmiddle (List.mem_of_head? hhead)
    have hall := LiteralsOf.literal (doubled_self (h first List.mem_cons_self)) hhead hmore
    rw [names_cons]
    simpa [Names.toList] using hall

/-- Each name has two apostrophes around it, and keeps its own. -/
lemma count_names (q : Question) (ns : Names) : (q.names ns).count '\'' + 2 =
    2 * ns.toList.length + (ns.toList.map String.toList).flatten.count '\'' := by
  obtain ⟨-, ⟨hmiddle, -⟩, -⟩ := q.unmarked
  obtain ⟨first, rest⟩ := ns
  induction rest generalizing first with
  | nil =>
    rw [names_singleton]
    simp [Names.toList, Nat.add_comm]
  | cons m rest ih =>
    have hmore := ih m
    rw [names_cons, List.count_append, List.count_cons_self, List.count_append,
      List.count_eq_zero.mpr hmiddle, List.count_cons_self]
    simp only [Names.toList, List.map_cons, List.flatten_cons, List.count_append,
      List.length_cons] at hmore ⊢
    omega

/-- The literals of a predicate are its names exactly when no name holds an apostrophe. -/
lemma literalsOf_iff (q : Question) (ns : Names) :
    LiteralsOf (predicate (q.condition ns)).toList (ns.toList.map String.toList) ↔
      Unmarked ns := by
  obtain ⟨hfront, -, hback⟩ := q.unmarked
  rw [toList_predicate]
  constructor
  · intro h
    -- read as literals the names have each of their apostrophes twice, but they hold it once
    have hcount := h.count
    rw [List.count_append, List.count_eq_zero.mpr hfront, List.count_cons_self, List.count_append,
      List.count_cons_self, List.count_eq_zero.mpr hback, List.length_map] at hcount
    have hnames := q.count_names ns
    have hzero : (ns.toList.map String.toList).flatten.count '\'' = 0 := by omega
    intro n hn hmark
    exact List.count_eq_zero.mp hzero
      (List.mem_flatten_of_mem (List.mem_map_of_mem hn) hmark)
  · intro h
    exact (q.literalsOf_names h).append hfront

/-! ## What a predicate tells -/

lemma tag_condition (q : Question) (ns : Names) : (q.condition ns).tag = q.tag := by
  cases q <;> rfl

/-- A predicate tells its kind by its beginning and its end. -/
lemma tag_eq (h : predicate (r.condition ms) = predicate (q.condition ns)) : r.tag = q.tag := by
  have htable : ∀ r q : Question, r.front.toList.take 3 = q.front.toList.take 3 →
      r.back.toList.getLast? = q.back.toList.getLast? →
      (r.back.toList.length = q.back.toList.length → r.back.toList = q.back.toList) →
      r.tag = q.tag := by
    intro r q
    cases r <;> cases q <;> decide +kernel
  have hlong (p : Question) : 3 ≤ p.front.toList.length ∧ p.back.toList ≠ [] := by
    cases p <;> decide +kernel
  have htext := congrArg String.toList h
  rw [toList_predicate, toList_predicate] at htext
  have hend : (r.front.toList ++ '\'' :: r.names ms ++ ['\'']) ++ r.back.toList =
      (q.front.toList ++ '\'' :: q.names ns ++ ['\'']) ++ q.back.toList := by
    simpa using htext
  refine htable r q ?_ ?_ fun hlength => (List.append_inj' hend hlength).2
  · have htake := congrArg (List.take 3) htext
    rwa [List.take_append_of_le_length (hlong r).1,
      List.take_append_of_le_length (hlong q).1] at htake
  · have hlast := congrArg List.getLast? hend
    rwa [List.getLast?_append_of_ne_nil _ (hlong r).2,
      List.getLast?_append_of_ne_nil _ (hlong q).2] at hlast

/-- Conditions of one kind have their names in one frame. -/
lemma frame_eq (h : r.tag = q.tag) : r.front = q.front ∧ r.back = q.back := by
  revert h
  cases r <;> cases q <;> decide +kernel

lemma names_eq (h : predicate (r.condition ms) = predicate (q.condition ns)) :
    r.names ms = q.names ns := by
  obtain ⟨hfront, hback⟩ := frame_eq (tag_eq h)
  have htext := congrArg String.toList h
  rw [toList_predicate, toList_predicate, hfront, hback] at htext
  simpa using htext

/-- With names that hold no apostrophe a predicate tells its names. -/
lemma eq_of_unmarked (h : predicate (r.condition ms) = predicate (q.condition ns))
    (hms : Unmarked ms) (hns : Unmarked ns) : ms = ns := by
  have hread := (r.literalsOf_iff ms).mpr hms
  rw [h] at hread
  have hnames := hread.unique ((q.literalsOf_iff ns).mpr hns)
  have hlists := (List.map_inj_right fun _ _ => String.toList_inj.mp).mp hnames
  obtain ⟨m, others⟩ := ms
  obtain ⟨n, rest⟩ := ns
  obtain ⟨rfl, rfl⟩ := List.cons.inj hlists
  rfl

/-- Other names make the same predicate exactly where there are several names, or where the one name
holds what separates names. -/
lemma exists_others_iff (q : Question) (ns : Names) :
    (∃ (r : Question) (ms : Names), predicate (r.condition ms) = predicate (q.condition ns) ∧
      ms ≠ ns) ↔
      ns.rest ≠ [] ∨ ∃ r : Question, r.tag = q.tag ∧
        r.separator.toList <:+: ns.first.toList := by
  constructor
  · rintro ⟨r, ms, h, hne⟩
    have hnames := names_eq h
    obtain ⟨n, rest⟩ := ns
    cases rest with
    | cons => exact .inl (List.cons_ne_nil _ _)
    | nil =>
      refine .inr ⟨r, tag_eq h, ?_⟩
      obtain ⟨m, others⟩ := ms
      rw [names_singleton] at hnames
      cases others with
      | nil =>
        rw [names_singleton, String.toList_inj] at hnames
        exact absurd (by rw [hnames]) hne
      | cons k others =>
        rw [← hnames, names_cons, toList_separator]
        exact ⟨m.toList, r.names ⟨k, others⟩, by simp⟩
  · intro h
    have hsame {r : Question} {ms : Names} (htag : r.tag = q.tag)
        (hnames : r.names ms = q.names ns) :
        predicate (r.condition ms) = predicate (q.condition ns) := by
      obtain ⟨hfront, hback⟩ := frame_eq htag
      rw [← String.toList_inj, toList_predicate, toList_predicate, hfront, hback, hnames]
    by_cases hrest : ns.rest = []
    · -- the one name is cut in two
      obtain ⟨r, htag, before, after, hinfix⟩ := h.resolve_left (absurd hrest)
      obtain ⟨n, rest⟩ := ns
      obtain rfl : rest = [] := hrest
      refine ⟨r, ⟨String.ofList before, [String.ofList after]⟩, hsame htag ?_, by simp⟩
      rw [names_cons, names_singleton, names_singleton, ← hinfix, toList_separator]
      simp
    · -- all names are joined to one
      refine ⟨q, ⟨String.ofList (q.names ns), []⟩, hsame rfl ?_, ?_⟩
      · rw [names_singleton, String.toList_ofList]
      · intro heq
        exact hrest (congrArg Names.rest heq).symm

/-- What a predicate tells of a condition on names.  Its literals are the names exactly when no name
holds an apostrophe.  It tells the kind of the condition, and among names without apostrophes it
tells the names.  Conditions with other names make the same predicate exactly where there are
several names, or where the one name holds a separator of this kind. -/
theorem predicate_tells_names (q : Question) (ns : Names) :
    (LiteralsOf (predicate (q.condition ns)).toList (ns.toList.map String.toList) ↔
      Unmarked ns) ∧
    (∀ (r : Question) (ms : Names), predicate (r.condition ms) = predicate (q.condition ns) →
      (r.condition ms).tag = (q.condition ns).tag ∧ (Unmarked ms → Unmarked ns → ms = ns)) ∧
    ((∃ (r : Question) (ms : Names), predicate (r.condition ms) = predicate (q.condition ns) ∧
      ms ≠ ns) ↔ ns.rest ≠ [] ∨ ∃ r : Question, (r.condition ns).tag = (q.condition ns).tag ∧
        r.separator.toList <:+: ns.first.toList) := by
  simp only [tag_condition]
  refine ⟨q.literalsOf_iff ns, ?_, q.exists_others_iff ns⟩
  intro r ms h
  exact ⟨tag_eq h, eq_of_unmarked h⟩

/-- A single name without apostrophes is read back, and it is told, whether one or all of the names
have to be bound: these two conditions make the same predicate. -/
theorem order_told :
    LiteralsOf (predicate (.contains ⟨"order", []⟩ .all)).toList ["order".toList] ∧
    predicate (.contains ⟨"order", []⟩ .one) = predicate (.contains ⟨"order", []⟩ .all) ∧
    ∀ (r : Question) (ms : Names), predicate (r.condition ms) =
      predicate (.contains ⟨"order", []⟩ .all) → Unmarked ms → ms = ⟨"order", []⟩ := by
  have hunmarked : Unmarked ⟨"order", []⟩ := by simp [Unmarked, Names.toList]
  obtain ⟨hread, htells, -⟩ := predicate_tells_names .allOf ⟨"order", []⟩
  refine ⟨hread.mpr hunmarked, rfl, ?_⟩
  intro r ms h hms
  exact (htells r ms h).2 hms hunmarked

/-- Not every list of names is told: a name can be written so that it looks like two. -/
theorem not_every_name_list_told :
    ¬ ∀ ns ms : Names, predicate (.hasParam ns) = predicate (.hasParam ms) → ns = ms := by
  intro h
  have hsame : predicate (.hasParam ⟨"a') and #p.containsKey('b", []⟩) =
      predicate (.hasParam ⟨"a", ["b"]⟩) := by
    decide +kernel
  exact absurd (h _ _ hsame) (by decide)

end Question

end QueryTemplate.Engine
