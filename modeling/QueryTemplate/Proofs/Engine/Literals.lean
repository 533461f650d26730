import QueryTemplate.Engine.Predicate
import QueryTemplate.Proofs.Engine.Reading
import QueryTemplate.Proofs.Text.Joined
import QueryTemplate.Proofs.Value.Reordered

/-!
# Literals tell values

The literal of a value that is built from null, truth values, integers and texts by lists and maps
tells the value, with one exception: an empty map has the literal of an empty list.  `Value.shown`
is what remains of a value then, and two such values have one literal exactly when they are shown
alike.  That writing a literal fails at an integer of too many digits (`literalError?`) plays no
part in this.

The proof reads two equal literals from the front.  The first character tells texts and containers
from the other values, and a container is told member by member: behind an item stands a comma or a
closing brace, behind the key of an entry a colon.  So the first member tells a list from a map, and
only where there is none the two are the same.
-/

namespace QueryTemplate.Value

/-- Null, a truth value, an integer, a text, a list, or a map with texts as keys. -/
def IsPlain : Value → Prop
  | .null | .bool _ | .number (.int _) | .text _ | .list _ => True
  | .map _ es => ∀ e ∈ es, ∃ name, e.1 = .text name
  | _ => False

/-- The value is built from null, truth values, integers and texts by lists and by maps with texts
as keys. -/
def Plain (v : Value) : Prop :=
  v.Everywhere IsPlain

/-- If the value is a map, it has entries. -/
def IsFilled : Value → Prop
  | .map _ es => es ≠ []
  | _ => True

/-- No map inside the value is empty. -/
def Filled (v : Value) : Prop :=
  v.Everywhere IsFilled

mutual

/-- What a literal shows of a value: a map without entries is shown as a list without items, and no
map shows whether it can be written. -/
def shown : Value → Value
  | .list xs => .list (shownEach xs)
  | .map _ es => if es.isEmpty then .list [] else .map false (shownEntries es)
  | v => v
termination_by structural x => x

/-- What the literals of items show. -/
def shownEach : List Value → List Value
  | [] => []
  | x :: xs => shown x :: shownEach xs
termination_by structural x => x

/-- What the literals of entries show. -/
def shownEntries : List (Value × Value) → List (Value × Value)
  | [] => []
  | (k, v) :: es => (k, shown v) :: shownEntries es
termination_by structural x => x

end

lemma shownEach_eq : ∀ xs, shownEach xs = xs.map shown
  | [] => rfl
  | x :: xs => congrArg (shown x :: ·) (shownEach_eq xs)

lemma shownEntries_eq : ∀ es, shownEntries es = es.map fun e => (e.1, e.2.shown)
  | [] => rfl
  | (k, v) :: es => congrArg ((k, shown v) :: ·) (shownEntries_eq es)

lemma shown_list (xs : List Value) : shown (.list xs) = .list (xs.map shown) :=
  congrArg Value.list (shownEach_eq xs)

lemma shown_map_nil (readOnly : Bool) : shown (.map readOnly []) = .list [] := rfl

lemma shown_map_of_ne_nil (readOnly : Bool) {es : List (Value × Value)} (h : es ≠ []) :
    shown (.map readOnly es) = .map false (es.map fun e => (e.1, e.2.shown)) := by
  rw [shown, if_neg (by simpa using h), shownEntries_eq]

/-- Where no map is empty, only the kind of maps is not shown. -/
theorem shown_eq_restored {v : Value} (hv : v.Plain) (h : v.Filled) : v.shown = v.restored := by
  induction hv with
  | @intro v plain _ ih =>
    obtain ⟨filled, inside⟩ := everywhere_iff.mp h
    cases v with
    | list xs =>
      rw [shown_list, restored_list]
      exact congrArg _ (List.map_congr_left fun x hx => ih x hx (inside x hx))
    | map readOnly es =>
      rw [shown_map_of_ne_nil readOnly filled, restored_map]
      refine congrArg _ (List.map_congr_left fun e he => ?_)
      have he := List.mem_map_of_mem (f := Prod.snd) he
      rw [ih e.2 he (inside e.2 he)]
    | number n =>
      cases n with
      | int i => rfl
      | _ => exact plain.elim
    | tuple | set => exact plain.elim
    | _ => rfl

/-! ## Members -/

/-- What stands between the braces of a container: items, or values behind their keys. -/
def members : Value → List (Option Value × Value)
  | .list xs => xs.map (none, ·)
  | .map _ es => es.map fun e => (some e.1, e.2)
  | _ => []

lemma mem_parts_of_mem_members {v : Value} {m : Option Value × Value} (h : m ∈ v.members) :
    m.2 ∈ v.parts := by
  cases v with
  | list xs =>
    obtain ⟨x, hx, rfl⟩ := List.mem_map.mp h
    exact hx
  | map readOnly es =>
    obtain ⟨e, he, rfl⟩ := List.mem_map.mp h
    exact List.mem_map_of_mem he
  | _ => cases h

/-- A key is a text. -/
lemma IsPlain.key {v : Value} (hv : v.IsPlain) {k : Value} {w : Value}
    (h : (some k, w) ∈ v.members) : ∃ name, k = .text name := by
  cases v with
  | list xs =>
    obtain ⟨x, -, hx⟩ := List.mem_map.mp h
    cases hx
  | map readOnly es =>
    obtain ⟨e, he, hk⟩ := List.mem_map.mp h
    cases hk
    exact hv e he
  | _ => cases h

lemma IsPlain.container {v : Value} (hv : v.IsPlain) (h : v.shape.isContainer = true) :
    (∃ xs, v = .list xs) ∨ ∃ readOnly es, v = .map readOnly es := by
  cases v with
  | list xs => exact .inl ⟨xs, rfl⟩
  | map readOnly es => exact .inr ⟨readOnly, es, rfl⟩
  | tuple | range | set => exact hv.elim
  | _ => cases h

/-- Null, a truth value or an integer. -/
inductive IsScalar : Value → Prop where
  | null : IsScalar .null
  | bool (b : Bool) : IsScalar (.bool b)
  | int (i : ℤ) : IsScalar (.number (.int i))

lemma IsPlain.scalar {v : Value} (hv : v.IsPlain) (htext : v.shape ≠ .string)
    (hcontainer : ¬ v.shape.isContainer = true) : v.IsScalar := by
  cases v with
  | null => exact .null
  | bool b => exact .bool b
  | number n =>
    cases n with
    | int i => exact .int i
    | _ => exact hv.elim
  | text => exact absurd rfl htext
  | list | map => exact absurd rfl hcontainer
  | _ => exact hv.elim

/-- What the literals of members show. -/
def shownMembers (v : Value) : List (Option Value × Value) :=
  v.members.map (Prod.map id shown)

/-- An item is no entry, so a list and a map that show the same members have none. -/
lemma shown_list_eq_shown_map {xs : List Value} {readOnly : Bool} {es : List (Value × Value)}
    (h : shownMembers (.list xs) = shownMembers (.map readOnly es)) :
    shown (.list xs) = shown (.map readOnly es) := by
  cases xs with
  | nil =>
    cases es with
    | nil => rfl
    | cons e es => simp [shownMembers, members] at h
  | cons x xs =>
    cases es with
    | nil => simp [shownMembers, members] at h
    | cons e es => simp [shownMembers, members] at h

/-- Containers that show the same members are shown alike. -/
lemma shown_eq_of_members {v w : Value} (hv : v.IsPlain) (hw : w.IsPlain)
    (hvc : v.shape.isContainer = true) (hwc : w.shape.isContainer = true)
    (h : v.shownMembers = w.shownMembers) : v.shown = w.shown := by
  obtain ⟨xs, rfl⟩ | ⟨readOnly, es, rfl⟩ := hv.container hvc <;>
    obtain ⟨ys, rfl⟩ | ⟨readOnly', fs, rfl⟩ := hw.container hwc
  · have hitems := congrArg (List.map Prod.snd) h
    simp only [shownMembers, members, List.map_map] at hitems
    rw [shown_list, shown_list]
    exact congrArg _ hitems
  · exact shown_list_eq_shown_map h
  · exact (shown_list_eq_shown_map h.symm).symm
  · obtain rfl | hes := eq_or_ne es []
    · obtain rfl : fs = [] := by simpa [shownMembers, members] using h
      rfl
    · have hfs : fs ≠ [] := by
        rintro rfl
        exact hes (by simpa [shownMembers, members] using h)
      have hentries := congrArg (List.map fun m => (m.1.getD .null, m.2)) h
      simp only [shownMembers, members, List.map_map] at hentries
      rw [shown_map_of_ne_nil _ hes, shown_map_of_ne_nil _ hfs]
      exact congrArg _ hentries

end QueryTemplate.Value

namespace QueryTemplate.Engine

/-! ## Literals as characters -/

/-- The characters of a literal. -/
def literalChars (v : Value) : List Char :=
  (literal v).toList

/-- A member between braces: the key of an entry stands before a colon. -/
def memberText : Option Value × Value → String
  | (none, v) => literal v
  | (some k, v) => literal k ++ ":" ++ literal v

/-- The characters of a member. -/
def memberChars (m : Option Value × Value) : List Char :=
  (memberText m).toList

/-- What stands behind the first member of a container. -/
def behind (ms : List (Option Value × Value)) : List Char :=
  Text.closed [','] '\x7d' memberChars ms

/-- What stands behind the opening brace of a container. -/
def inner : List (Option Value × Value) → List Char
  | [] => ['\x7d']
  | m :: ms => memberChars m ++ behind ms

/-- What may follow the literal of a member: nothing, a comma or a closing brace. -/
def Follows (cs : List Char) : Prop :=
  ∀ c ∈ cs.head?, c = ',' ∨ c = '\x7d'

lemma Follows.head?_ne {cs : List Char} (h : Follows cs) : cs.head? ≠ some '\'' := by
  intro hmark
  simpa using h '\'' hmark

lemma follows_behind (ms : List (Option Value × Value)) (r : List Char) :
    Follows (behind ms ++ r) := by
  cases ms <;> simp [Follows, behind]

lemma memberChars_item (v : Value) : memberChars (none, v) = literalChars v := rfl

lemma memberChars_entry (k v : Value) :
    memberChars (some k, v) = literalChars k ++ ':' :: literalChars v := by
  simp [memberChars, memberText, literalChars]

lemma toList_braced (ms : List (Option Value × Value)) :
    (braced (ms.map memberText)).toList = '\x7b' :: inner ms := by
  cases ms with
  | nil => rfl
  | cons m ms =>
    rw [braced, List.map_cons, String.toList_append, String.toList_append,
      Text.toList_intercalate_cons, List.flatMap_map]
    simp [inner, behind, Text.closed, memberChars]

lemma literal_container {v : Value} (hv : v.IsPlain) (h : v.shape.isContainer = true) :
    literal v = braced (v.members.map memberText) := by
  obtain ⟨xs, rfl⟩ | ⟨readOnly, es, rfl⟩ := hv.container h
  · rw [literal, literals_eq, Value.members, List.map_map]
    rfl
  · rw [literal, literalEntries_eq, Value.members, List.map_map]
    rfl

lemma literalChars_container {v : Value} (hv : v.IsPlain) (h : v.shape.isContainer = true) :
    literalChars v = '\x7b' :: inner v.members := by
  rw [literalChars, literal_container hv h, toList_braced]

/-! ## Kinds of values -/

/-- The first character of a literal tells texts and containers from the other values.  No literal
begins with a closing brace. -/
lemma exists_literalChars_cons {v : Value} (hv : v.IsPlain) :
    ∃ c cs, literalChars v = c :: cs ∧ c ≠ '\x7d' ∧ (c = '\'' ↔ v.shape = .string) ∧
      (c = '\x7b' ↔ v.shape.isContainer = true) := by
  cases v with
  | null => exact ⟨_, _, rfl, by decide⟩
  | bool b => cases b <;> exact ⟨_, _, rfl, by decide⟩
  | number n =>
    cases n with
    | int i =>
      obtain ⟨c, cs, hcs, hc⟩ := Value.isDigit_or_minus_toString i
      have hne : ∀ d : Char, d ≠ '-' → d.isDigit = false → c ≠ d := by
        rintro d hminus hdigit rfl
        simp_all
      exact ⟨c, cs, hcs, by simp [hne, Value.shape, Shape.isContainer]⟩
    | _ => exact hv.elim
  | text s =>
    have hcs : literalChars (.text s) = '\'' :: (doubleMarks s.toList ++ ['\'']) := by
      simp [literalChars, literal, quote]
    exact ⟨_, _, hcs, by simp [Value.shape, Shape.isContainer]⟩
  | list | map =>
    exact ⟨_, _, literalChars_container hv rfl, by simp [Value.shape, Shape.isContainer]⟩
  | _ => exact hv.elim

section Kinds

variable {v w : Value} {r s : List Char}

/-- Values with one literal, whatever follows it, are both texts or neither is, and so for
containers. -/
lemma kinds_eq (hv : v.IsPlain) (hw : w.IsPlain) (h : literalChars v ++ r = literalChars w ++ s) :
    (v.shape = .string ↔ w.shape = .string) ∧
      (v.shape.isContainer = true ↔ w.shape.isContainer = true) := by
  obtain ⟨c, cs, hcs, -, htext, hcontainer⟩ := exists_literalChars_cons hv
  obtain ⟨d, ds, hds, -, htext', hcontainer'⟩ := exists_literalChars_cons hw
  rw [hcs, hds] at h
  obtain rfl := (List.cons.inj h).1
  exact ⟨htext.symm.trans htext', hcontainer.symm.trans hcontainer'⟩

/-- The literal of a text is told, if no other mark follows it. -/
lemma quote_append_inj {a b : String} (hr : r.head? ≠ some '\'') (hs : s.head? ≠ some '\'')
    (h : literalChars (.text a) ++ r = literalChars (.text b) ++ s) : a = b ∧ r = s := by
  have hread : ∀ (t : String) (q : List Char), q.head? ≠ some '\'' →
      readText ((literalChars (.text t) ++ q).tail) = some (t.toList, q) := by
    intro t q hq
    have hchars : literalChars (.text t) ++ q = '\'' :: (doubleMarks t.toList ++ '\'' :: q) := by
      simp [literalChars, literal, quote]
    rw [hchars]
    exact readText_of_doubled (doubled_doubleMarks t.toList) hq
  have htexts := hread a r hr
  rw [h, hread b s hs, Option.some.injEq, Prod.mk.injEq, String.toList_inj] at htexts
  exact ⟨htexts.1.symm, htexts.2.symm⟩

/-- An integer begins with a digit or the sign of a negative one. -/
lemma int_append_ne (i : ℤ) {c : Char} {cs : List Char} (hminus : c ≠ '-')
    (hdigit : c.isDigit = false) : literalChars (.number (.int i)) ++ r ≠ c :: cs := by
  obtain ⟨d, ds, hds, hd⟩ := Value.isDigit_or_minus_toString i
  have hchars : literalChars (.number (.int i)) = d :: ds := hds
  rw [hchars]
  intro h
  obtain rfl := (List.cons.inj h).1
  rcases hd with hd | hd
  · exact hminus hd
  · rw [hdigit] at hd
    cases hd

/-- Values that are neither texts nor containers are told, and so is what follows them. -/
lemma scalar_append_inj (hv : v.IsScalar) (hw : w.IsScalar) (hr : Follows r) (hs : Follows s)
    (h : literalChars v ++ r = literalChars w ++ s) : v = w ∧ r = s := by
  have hends : ∀ {cs : List Char}, Follows cs → Text.EndsDigits cs := by
    intro cs hcs c hc
    obtain rfl | rfl := hcs c hc <;> decide
  have hnull : ∀ (i : ℤ) {r s : List Char},
      literalChars (.number (.int i)) ++ r ≠ literalChars .null ++ s :=
    fun i => int_append_ne i (by decide) (by decide)
  have hbool : ∀ (i : ℤ) (b : Bool) {r s : List Char},
      literalChars (.number (.int i)) ++ r ≠ literalChars (.bool b) ++ s := by
    intro i b r s
    cases b <;> exact int_append_ne i (by decide) (by decide)
  cases hv <;> cases hw
  case null.null => exact ⟨rfl, List.append_cancel_left h⟩
  case null.bool b => cases b <;> simp [literalChars, literal] at h
  case null.int j => exact absurd h.symm (hnull j)
  case bool.null a => cases a <;> simp [literalChars, literal] at h
  case bool.bool a b => cases a <;> cases b <;> simp_all [literalChars, literal]
  case bool.int a j => exact absurd h.symm (hbool j a)
  case int.null i => exact absurd h (hnull i)
  case int.bool i b => exact absurd h (hbool i b)
  case int.int i j =>
    obtain ⟨rfl, rfl⟩ := Json.toString_append_inj (hends hr) (hends hs) h
    exact ⟨rfl, rfl⟩

end Kinds

/-! ## Whole literals -/

/-- The literal of a value is told apart from that of every plain value, up to what it shows. -/
def Told (v : Value) : Prop :=
  ∀ w : Value, w.Plain → ∀ r s, Follows r → Follows s →
    literalChars v ++ r = literalChars w ++ s → v.shown = w.shown ∧ r = s

/-- What is promised of a member: a key is a text, and the value is plain. -/
def PlainMember (m : Option Value × Value) : Prop :=
  (∀ k ∈ m.1, ∃ name, k = .text name) ∧ m.2.Plain

lemma plainMember_of_mem {v : Value} (hv : v.Plain) : ∀ m ∈ v.members, PlainMember m := by
  obtain ⟨plain, inside⟩ := Value.everywhere_iff.mp hv
  rintro ⟨k, w⟩ hm
  refine ⟨?_, inside w (Value.mem_parts_of_mem_members hm)⟩
  rintro k rfl
  exact plain.key hm

section Members

variable {m n : Option Value × Value} {ms ns : List (Option Value × Value)} {r s : List Char}

/-- An item is no entry: behind a text in the place of the key stands no colon. -/
lemma item_ne_entry {v k w : Value} (hv : v.IsPlain) (hk : ∃ name, k = .text name)
    (hr : Follows r) :
    memberChars (none, v) ++ r ≠ memberChars (some k, w) ++ s := by
  obtain ⟨name, rfl⟩ := hk
  rw [memberChars_item, memberChars_entry, List.append_assoc, List.cons_append]
  intro h
  obtain ⟨t, rfl⟩ := Value.shape_eq_string.mp ((kinds_eq hv (w := .text name) trivial h).1.mpr rfl)
  obtain ⟨-, rfl⟩ := quote_append_inj hr.head?_ne (by simp) h
  simpa using hr ':' rfl

/-- A member is told, and so is what follows it. -/
lemma member_append_inj (hm : PlainMember m) (htold : Told m.2) (hn : PlainMember n)
    (hr : Follows r) (hs : Follows s) (h : memberChars m ++ r = memberChars n ++ s) :
    m.map id Value.shown = n.map id Value.shown ∧ r = s := by
  obtain ⟨_ | k, v⟩ := m <;> obtain ⟨_ | l, w⟩ := n
  · obtain ⟨hvw, rfl⟩ := htold w hn.2 r s hr hs h
    exact ⟨by simp [hvw], rfl⟩
  · exact absurd h (item_ne_entry (Value.everywhere_iff.mp hm.2).1 (hn.1 l rfl) hr)
  · exact absurd h.symm (item_ne_entry (Value.everywhere_iff.mp hn.2).1 (hm.1 k rfl) hs)
  · obtain ⟨a, rfl⟩ := hm.1 k rfl
    obtain ⟨b, rfl⟩ := hn.1 l rfl
    rw [memberChars_entry, memberChars_entry, List.append_assoc, List.append_assoc,
      List.cons_append, List.cons_append] at h
    obtain ⟨rfl, hrest⟩ := quote_append_inj (by simp) (by simp) h
    obtain ⟨hvw, rfl⟩ := htold w hn.2 r s hr hs (List.cons.inj hrest).2
    exact ⟨by simp [hvw], rfl⟩

/-- Members behind the first are told, and so is what follows the container. -/
lemma behind_append_inj (hms : ∀ m ∈ ms, PlainMember m) (htold : ∀ m ∈ ms, Told m.2)
    (hns : ∀ n ∈ ns, PlainMember n) (h : behind ms ++ r = behind ns ++ s) :
    ms.map (Prod.map id Value.shown) = ns.map (Prod.map id Value.shown) ∧ r = s :=
  Text.closed_append_inj (by simp) (List.cons_ne_nil _ _) follows_behind
    (fun m hm n hn _ _ => member_append_inj (hms m hm) (htold m hm) (hns n hn)) h

/-- No member begins with a closing brace. -/
lemma memberChars_append_ne (hm : PlainMember m) : memberChars m ++ r ≠ '\x7d' :: s := by
  have hne : ∀ {v : Value} {q : List Char}, v.IsPlain → literalChars v ++ q ≠ '\x7d' :: s := by
    intro v q hv h
    obtain ⟨c, cs, hcs, hc, -⟩ := exists_literalChars_cons hv
    rw [hcs] at h
    exact hc (List.cons.inj h).1
  obtain ⟨_ | k, v⟩ := m
  · exact hne (Value.everywhere_iff.mp hm.2).1
  · obtain ⟨name, rfl⟩ := hm.1 k rfl
    rw [memberChars_entry, List.append_assoc]
    exact hne (v := .text name) trivial

/-- The members of a container are told, and so is what follows it. -/
lemma inner_append_inj (hms : ∀ m ∈ ms, PlainMember m) (htold : ∀ m ∈ ms, Told m.2)
    (hns : ∀ n ∈ ns, PlainMember n) (h : inner ms ++ r = inner ns ++ s) :
    ms.map (Prod.map id Value.shown) = ns.map (Prod.map id Value.shown) ∧ r = s := by
  cases ms with
  | nil =>
    cases ns with
    | nil => exact ⟨rfl, List.append_cancel_left h⟩
    | cons n ns =>
      rw [inner, inner, List.append_assoc] at h
      exact absurd h.symm (memberChars_append_ne (hns n List.mem_cons_self))
  | cons m ms =>
    cases ns with
    | nil =>
      rw [inner, inner, List.append_assoc] at h
      exact absurd h (memberChars_append_ne (hms m List.mem_cons_self))
    | cons n ns =>
      obtain ⟨hm, hms⟩ := List.forall_mem_cons.mp hms
      obtain ⟨htoldm, htold⟩ := List.forall_mem_cons.mp htold
      obtain ⟨hn, hns⟩ := List.forall_mem_cons.mp hns
      rw [inner, inner, List.append_assoc, List.append_assoc] at h
      obtain ⟨hmn, hrest⟩ := member_append_inj hm htoldm hn (follows_behind ms r)
        (follows_behind ns s) h
      obtain ⟨hmns, hrs⟩ := behind_append_inj hms htold hns hrest
      exact ⟨by rw [List.map_cons, List.map_cons, hmn, hmns], hrs⟩

end Members

/-- **Literals of plain values are told apart**, up to what they show and whatever follows them as
it does in a container. -/
theorem told_of_plain {v : Value} (h : v.Plain) : Told v := by
  induction h with
  | @intro v plain inside ih =>
    intro w hw r s hr hs heq
    have hv : v.Plain := .intro plain inside
    have hwplain := (Value.everywhere_iff.mp hw).1
    obtain ⟨htext, hcontainer⟩ := kinds_eq plain hwplain heq
    by_cases ht : v.shape = .string
    · obtain ⟨a, rfl⟩ := Value.shape_eq_string.mp ht
      obtain ⟨b, rfl⟩ := Value.shape_eq_string.mp (htext.mp ht)
      obtain ⟨rfl, rfl⟩ := quote_append_inj hr.head?_ne hs.head?_ne heq
      exact ⟨rfl, rfl⟩
    by_cases hc : v.shape.isContainer = true
    · have hwc := hcontainer.mp hc
      rw [literalChars_container plain hc, literalChars_container hwplain hwc] at heq
      obtain ⟨hmembers, hrest⟩ := inner_append_inj (plainMember_of_mem hv)
        (fun m hm => ih m.2 (Value.mem_parts_of_mem_members hm)) (plainMember_of_mem hw)
        (List.cons.inj heq).2
      exact ⟨Value.shown_eq_of_members plain hwplain hc hwc hmembers, hrest⟩
    · obtain ⟨rfl, rfl⟩ := scalar_append_inj (plain.scalar ht hc)
        (hwplain.scalar (mt htext.mpr ht) (mt hcontainer.mpr hc)) hr hs heq
      exact ⟨rfl, rfl⟩

/-- A value has the literal of what its literal shows. -/
theorem literal_shown (v : Value) : literal v.shown = literal v := by
  induction v using Value.parts_induction with
  | step v ih =>
    cases v with
    | list xs =>
      rw [Value.shown_list, literal, literal, literals_eq, literals_eq, List.map_map]
      exact congrArg _ (List.map_congr_left ih)
    | map readOnly es =>
      obtain rfl | hes := eq_or_ne es []
      · rfl
      · rw [Value.shown_map_of_ne_nil readOnly hes, literal, literal, literalEntries_eq,
          literalEntries_eq, List.map_map]
        refine congrArg _ (List.map_congr_left fun e he => ?_)
        have hvalue := ih e.2 (List.mem_map_of_mem he)
        simp only [Function.comp_apply, hvalue]
    | _ => rfl

/-- Plain values have one literal exactly when they are shown alike. -/
theorem literal_eq_iff {v w : Value} (hv : v.Plain) (hw : w.Plain) :
    literal v = literal w ↔ v.shown = w.shown := by
  constructor
  · intro h
    have hend : Follows [] := by simp [Follows]
    exact (told_of_plain hv w hw [] [] hend hend (by rw [literalChars, literalChars, h])).1
  · intro h
    rw [← literal_shown v, h, literal_shown w]

/-- A map has the literal of a list only where both are empty. -/
lemma literal_map_eq_list {readOnly : Bool} {es : List (Value × Value)} {xs : List Value}
    (hes : (Value.map readOnly es).Plain) (hxs : (Value.list xs).Plain) :
    literal (.map readOnly es) = literal (.list xs) ↔ es = [] ∧ xs = [] := by
  rw [literal_eq_iff hes hxs, Value.shown_list]
  obtain rfl | hne := eq_or_ne es []
  · simp [Value.shown_map_nil, eq_comm]
  · simp [Value.shown_map_of_ne_nil readOnly hne, hne]

/-- A test for membership tells, beside the literal of the container, whether that is a map. -/
lemma comparison_isIn_eq_iff {name : String} {v w : Value} :
    comparison name .isIn v = comparison name .isIn w ↔
      literal v = literal w ∧ (v.shape = .mapping ↔ w.shape = .mapping) := by
  -- The two methods end differently, whatever stands before them.
  have hmethod : ∀ s t : String, s ++ "contains" ≠ t ++ "containsValue" := by
    intro s t h
    have hlast := congrArg (fun u => u.toList.getLast?) h
    simp at hlast
  have hcomparison : ∀ u : Value, comparison name .isIn u = literal u ++ "." ++
      (if u.shape = .mapping then "containsValue" else "contains") ++ "(" ++ reference name ++
        ")" := fun _ => rfl
  rw [hcomparison, hcomparison, String.append_left_inj, String.append_left_inj,
    String.append_left_inj]
  by_cases hv : v.shape = .mapping <;> by_cases hw : w.shape = .mapping
  · rw [if_pos hv, if_pos hw, String.append_left_inj, String.append_left_inj]
    exact (and_iff_left (iff_of_true hv hw)).symm
  · rw [if_pos hv, if_neg hw]
    exact iff_of_false (hmethod _ _).symm fun h => hw (h.2.mp hv)
  · rw [if_neg hv, if_pos hw]
    exact iff_of_false (hmethod _ _) fun h => hv (h.2.mpr hw)
  · rw [if_neg hv, if_neg hw, String.append_left_inj, String.append_left_inj]
    exact (and_iff_left (iff_of_false hv hw)).symm

/-- **Literals tell values.** Two plain values have one literal exactly when they are shown alike.
So if no map inside them is empty, they are one value, up to whether maps can be written; and a map
has the literal of a list exactly when both are empty.  A test for membership still tells these two,
by the method that it calls. -/
theorem literals_tell_values {v w : Value} (hv : v.Plain) (hw : w.Plain) :
    (literal v = literal w ↔ v.shown = w.shown) ∧
    (v.Filled → w.Filled → (literal v = literal w ↔ v.restored = w.restored)) ∧
    (∀ (readOnly : Bool) (es : List (Value × Value)) (xs : List Value),
      v = .map readOnly es → w = .list xs → (literal v = literal w ↔ es = [] ∧ xs = [])) ∧
    ∀ name : String, comparison name .isIn v = comparison name .isIn w ↔
      v.shown = w.shown ∧ (v.shape = .mapping ↔ w.shape = .mapping) := by
  refine ⟨literal_eq_iff hv hw, ?_, ?_, ?_⟩
  · intro hvf hwf
    rw [literal_eq_iff hv hw, Value.shown_eq_restored hv hvf, Value.shown_eq_restored hw hwf]
  · rintro readOnly es xs rfl rfl
    exact literal_map_eq_list hv hw
  · intro name
    rw [comparison_isIn_eq_iff, literal_eq_iff hv hw]

/-- A map of one entry. -/
def remark (readOnly : Bool) (v : Value) : Value :=
  .map readOnly [(.text "it's", v)]

lemma plain_remark {readOnly : Bool} {v : Value} (h : v.Plain) : (remark readOnly v).Plain :=
  .intro (by simp [remark, Value.IsPlain]) (List.forall_mem_singleton.mpr h)

lemma filled_remark {readOnly : Bool} {v : Value} (h : v.Filled) : (remark readOnly v).Filled :=
  .intro (by simp [remark, Value.IsFilled]) (List.forall_mem_singleton.mpr h)

lemma plain_empty : (Value.list []).Plain ∧ (Value.map false []).Plain :=
  ⟨(Value.everywhere_single rfl).mpr trivial,
    (Value.everywhere_single rfl).mpr (List.forall_mem_nil _)⟩

/-- The literal of a remark tells a truth value from a number and a map from a list, but not whether
what is remarked is an empty map or an empty list. -/
theorem remark_told :
    literal (remark true (.map false [])) = literal (remark false (.list [])) ∧
    literal (remark false (.int 1)) ≠ literal (remark false (.bool true)) ∧
    literal (remark false (.list [])) ≠ literal (.list []) ∧
    comparison "a" .isIn (.map false []) ≠ comparison "a" .isIn (.list []) := by
  refine ⟨?_, ?_, ?_, ?_⟩
  · exact (literals_tell_values (plain_remark plain_empty.2) (plain_remark plain_empty.1)).1.mpr rfl
  · intro h
    have hint : (Value.int 1).Plain ∧ (Value.int 1).Filled :=
      ⟨(Value.everywhere_single rfl).mpr trivial, (Value.everywhere_single rfl).mpr trivial⟩
    have hbool : (Value.bool true).Plain ∧ (Value.bool true).Filled :=
      ⟨(Value.everywhere_single rfl).mpr trivial, (Value.everywhere_single rfl).mpr trivial⟩
    obtain ⟨-, htold, -⟩ := literals_tell_values (plain_remark hint.1) (plain_remark hbool.1)
    have hsame := (htold (filled_remark hint.2) (filled_remark hbool.2)).mp h
    simp [remark, Value.int, Value.restored] at hsame
  · intro h
    obtain ⟨-, -, hlist, -⟩ := literals_tell_values (plain_remark plain_empty.1) plain_empty.1
    exact absurd ((hlist false _ [] rfl rfl).mp h).1 (List.cons_ne_nil _ _)
  · intro h
    obtain ⟨-, -, -, hmember⟩ := literals_tell_values plain_empty.2 plain_empty.1
    exact absurd (((hmember "a").mp h).2.mp rfl) (by decide)

/-- Not every plain value is told: an empty map has the literal of an empty list. -/
theorem not_every_value_told :
    ¬ ∀ v w : Value, v.Plain → w.Plain → literal v = literal w → v.restored = w.restored := by
  intro h
  have hsame := h _ _ plain_empty.1 plain_empty.2 rfl
  simp at hsame

end QueryTemplate.Engine
