import QueryTemplate.Proofs.Json.Numbers
import QueryTemplate.Proofs.Text.Joined
import QueryTemplate.Proofs.Text.Quoted
import QueryTemplate.Proofs.Value.Parts
import QueryTemplate.Value.Inspect

/-!
# Forms that tell values apart

Null, truth values, integers, texts and tuples of these are told by their forms: the first character
says what kind of value it is, and where the form ends is told by the form itself or by the comma or
parenthesis behind it.  So elements of these kinds are sorted by their forms without ties.
-/

namespace QueryTemplate.Value

/-- The value is built from null, truth values, integers and texts by tuples. -/
inductive Simple : Value → Prop where
  | null : Simple .null
  | bool (b : Bool) : Simple (.bool b)
  | int (i : ℤ) : Simple (.number (.int i))
  | text (s : String) : Simple (.text s)
  | tuple {xs : List Value} (items : ∀ x ∈ xs, Simple x) : Simple (.tuple xs)

/-- The characters of the form of a value. -/
def form (v : Value) : List Char :=
  v.inspect.toList

/-- What may follow the form of an item: nothing, a comma or a closing parenthesis. -/
def Follows (cs : List Char) : Prop :=
  ∀ c ∈ cs.head?, c = ',' ∨ c = ')'

/-! ## The first character -/

/-- What kind of value the first character of a form is for. -/
def leadShape (c : Char) : Shape :=
  if c = 'N' then .null
  else if c = 'T' ∨ c = 'F' then .boolean
  else if c = '\'' ∨ c = '"' then .string
  else if c = '(' then .sequence
  else if c = '-' ∨ c.isDigit then .number
  else .absent

@[simp] lemma form_null : form .null = "None".toList := rfl

@[simp] lemma form_bool (b : Bool) : form (.bool b) = (if b then "True" else "False").toList := by
  cases b <;> rfl

lemma form_int (i : ℤ) : form (.number (.int i)) = (toString i).toList := by
  rw [form, inspect]
  rfl

lemma form_text (s : String) : form (.text s) = (Text.quoted s).toList := by
  rw [form, inspect]

/-- What stands behind the first item of a tuple that has more. -/
def formRest (xs : List Value) : List Char :=
  Text.closed [',', ' '] ')' form xs

/-- What stands behind the first item of a tuple. -/
def formTail : List Value → List Char
  | [] => [',', ')']
  | xs => formRest xs

lemma form_tuple_nil : form (.tuple []) = ['(', ')'] := by
  rw [form, inspect, inspectItems]
  · rfl
  · simp

lemma inspectItems_eq (xs : List Value) : inspectItems xs = xs.map inspect := by
  induction xs with
  | nil => rfl
  | cons x xs ih => rw [inspectItems, ih, List.map_cons]

lemma form_tuple_cons (x : Value) (xs : List Value) :
    form (.tuple (x :: xs)) = '(' :: (form x ++ formTail xs) := by
  cases xs with
  | nil =>
    rw [form, inspect, formTail]
    simp [form]
  | cons y ys =>
    have hjoined := Text.toList_intercalate_cons ", " x.inspect ((y :: ys).map inspect)
    rw [List.flatMap_map] at hjoined
    rw [form, inspect, inspectItems_eq, formTail, String.toList_append, String.toList_append,
      List.map_cons, hjoined]
    · simp [form, formRest, Text.closed]
    · simp
    · simp

lemma isDigit_or_minus_toString (i : ℤ) :
    ∃ c cs, (toString i).toList = c :: cs ∧ (c = '-' ∨ c.isDigit = true) := by
  cases i with
  | ofNat n =>
    obtain ⟨c, cs, hcs⟩ := List.exists_cons_of_ne_nil (Nat.toDigits_ne_nil (n := n) (b := 10))
    have hdigit := Text.isDigit_of_mem_toDigits c (hcs ▸ List.mem_cons_self)
    exact ⟨c, cs, Nat.toList_repr.trans hcs, .inr hdigit⟩
  | negSucc n => exact ⟨'-', Nat.toDigits 10 (n + 1), by simp [Int.repr], .inl rfl⟩

lemma leadShape_digit {c : Char} (h : c = '-' ∨ c.isDigit = true) : leadShape c = .number := by
  have hne : ∀ d : Char, d ≠ '-' → d.isDigit = false → c ≠ d := by
    rintro d hminus hdigit rfl
    simp_all
  rw [leadShape, if_neg (hne 'N' (by decide) rfl),
    if_neg (not_or.mpr ⟨hne 'T' (by decide) rfl, hne 'F' (by decide) rfl⟩),
    if_neg (not_or.mpr ⟨hne '\'' (by decide) rfl, hne '"' (by decide) rfl⟩),
    if_neg (hne '(' (by decide) rfl), if_pos h]

/-- The first character of its form tells the shape of a value. -/
lemma leadShape_form {v : Value} (h : v.Simple) :
    ∃ c cs, v.form = c :: cs ∧ leadShape c = v.shape := by
  cases h with
  | null => exact ⟨_, _, rfl, rfl⟩
  | bool b => cases b <;> exact ⟨_, _, rfl, rfl⟩
  | int i =>
    obtain ⟨c, cs, hcs, hc⟩ := isDigit_or_minus_toString i
    exact ⟨c, cs, (form_int i).trans hcs, leadShape_digit hc⟩
  | text s =>
    refine ⟨_, _, (form_text s).trans (Text.toList_quoted s), ?_⟩
    obtain hmark | hmark := Text.isMark_quoteMark s.toList <;> rw [hmark] <;> rfl
  | @tuple xs items =>
    cases xs with
    | nil => exact ⟨_, _, form_tuple_nil, rfl⟩
    | cons x xs => exact ⟨_, _, form_tuple_cons x xs, rfl⟩

/-- So simple values with one form, whatever follows it, have one shape. -/
lemma shape_eq_of_form {v w : Value} {r s : List Char} (hv : v.Simple) (hw : w.Simple)
    (h : v.form ++ r = w.form ++ s) : v.shape = w.shape := by
  obtain ⟨c, cs, hcs, hc⟩ := leadShape_form hv
  obtain ⟨d, ds, hds, hd⟩ := leadShape_form hw
  rw [hcs, hds] at h
  rw [← hc, ← hd, (List.cons.inj h).1]

/-! ## The whole form -/

lemma Follows.endsNumber {cs : List Char} (h : Follows cs) : Json.EndsNumber cs := by
  intro c hc
  obtain rfl | rfl := h c hc <;> decide

/-- The form of a value is told apart from that of every simple value. -/
def Told (v : Value) : Prop :=
  ∀ w : Value, w.Simple → ∀ r s, Follows r → Follows s → v.form ++ r = w.form ++ s →
    v = w ∧ r = s

lemma follows_formRest (xs : List Value) (r : List Char) : Follows (formRest xs ++ r) := by
  cases xs <;> simp [Follows, formRest]

lemma follows_formTail (xs : List Value) (r : List Char) : Follows (formTail xs ++ r) := by
  cases xs with
  | nil => simp [Follows, formTail]
  | cons x xs => exact follows_formRest (x :: xs) r

/-- Items behind the first are told, and so is what follows the tuple. -/
lemma formRest_append_inj {xs ys : List Value} {r s : List Char} (hxs : ∀ x ∈ xs, x.Told)
    (hys : ∀ y ∈ ys, y.Simple) (h : formRest xs ++ r = formRest ys ++ s) : xs = ys ∧ r = s := by
  have hclosed : xs.map id = ys.map id ∧ r = s :=
    Text.closed_append_inj (by simp) (List.cons_ne_nil _ _) follows_formRest
      (fun x hx y hy => hxs x hx y (hys y hy)) h
  rwa [List.map_id, List.map_id] at hclosed

/-- A single item is followed by a comma and a parenthesis, the first of several by a comma and a
space. -/
lemma formTail_append_inj {xs ys : List Value} {r s : List Char} (hxs : ∀ x ∈ xs, x.Told)
    (hys : ∀ y ∈ ys, y.Simple) (h : formTail xs ++ r = formTail ys ++ s) : xs = ys ∧ r = s := by
  cases xs with
  | nil =>
    cases ys with
    | nil => simpa [formTail] using h
    | cons y ys => simp [formTail, formRest] at h
  | cons x xs =>
    cases ys with
    | nil => simp [formTail, formRest] at h
    | cons y ys => exact formRest_append_inj hxs hys h

/-- A closing parenthesis begins no form. -/
lemma form_append_ne {v : Value} (h : v.Simple) (r s : List Char) : v.form ++ r ≠ ')' :: s := by
  obtain ⟨c, cs, hcs, hc⟩ := leadShape_form h
  rw [hcs]
  intro heq
  obtain rfl : c = ')' := (List.cons.inj heq).1
  cases h <;> cases hc

/-- The items of a tuple are told, and so is what follows it. -/
lemma form_tuple_append_inj {xs ys : List Value} {r s : List Char} (hxs : ∀ x ∈ xs, x.Simple)
    (htold : ∀ x ∈ xs, x.Told) (hys : ∀ y ∈ ys, y.Simple)
    (h : form (.tuple xs) ++ r = form (.tuple ys) ++ s) : xs = ys ∧ r = s := by
  cases xs with
  | nil =>
    cases ys with
    | nil => simpa using h
    | cons y ys =>
      simp only [form_tuple_nil, form_tuple_cons, List.cons_append, List.append_assoc,
        List.cons.injEq, true_and] at h
      exact absurd h.symm (form_append_ne (hys y List.mem_cons_self) _ _)
  | cons x xs =>
    cases ys with
    | nil =>
      simp only [form_tuple_nil, form_tuple_cons, List.cons_append, List.append_assoc,
        List.cons.injEq, true_and] at h
      exact absurd h (form_append_ne (hxs x List.mem_cons_self) _ _)
    | cons y ys =>
      obtain ⟨hx, hxs⟩ := List.forall_mem_cons.mp htold
      obtain ⟨hy, hys⟩ := List.forall_mem_cons.mp hys
      simp only [form_tuple_cons, List.cons_append, List.append_assoc, List.cons.injEq,
        true_and] at h
      obtain ⟨hxy, hrest⟩ := hx y hy _ _ (follows_formTail xs r) (follows_formTail ys s) h
      obtain ⟨hxys, hrs⟩ := formTail_append_inj hxs hys hrest
      exact ⟨by rw [hxy, hxys], hrs⟩

/-- **Forms of simple values are told apart**, whatever follows them as it does in a tuple. -/
theorem told_of_simple {v : Value} (h : v.Simple) : v.Told := by
  -- The first character leaves only values of one kind; what follows is then told kind by kind.
  induction h with
  | null =>
    intro w hw r s _ _ heq
    have hshape := shape_eq_of_form .null hw heq
    cases hw with
    | null => exact ⟨rfl, List.append_cancel_left heq⟩
    | _ => cases hshape
  | bool a =>
    intro w hw r s _ _ heq
    have hshape := shape_eq_of_form (.bool a) hw heq
    cases hw with
    | bool b => cases a <;> cases b <;> simp_all
    | _ => cases hshape
  | int i =>
    intro w hw r s hr hs heq
    have hshape := shape_eq_of_form (.int i) hw heq
    cases hw with
    | int j =>
      rw [form_int, form_int] at heq
      obtain ⟨rfl, rfl⟩ :=
        Json.toString_append_inj hr.endsNumber.endsDigits hs.endsNumber.endsDigits heq
      exact ⟨rfl, rfl⟩
    | _ => cases hshape
  | text t =>
    intro w hw r s _ _ heq
    have hshape := shape_eq_of_form (.text t) hw heq
    cases hw with
    | text u =>
      rw [form_text, form_text] at heq
      obtain ⟨rfl, rfl⟩ := Text.quoted_append_inj heq
      exact ⟨rfl, rfl⟩
    | _ => cases hshape
  | @tuple xs items ih =>
    intro w hw r s _ _ heq
    have hshape := shape_eq_of_form (.tuple items) hw heq
    cases hw with
    | @tuple ys hys =>
      obtain ⟨rfl, rfl⟩ := form_tuple_append_inj items ih hys heq
      exact ⟨rfl, rfl⟩
    | _ => cases hshape

/-- Simple values with one form are one. -/
theorem eq_of_inspect_eq {v w : Value} (hv : v.Simple) (hw : w.Simple)
    (h : v.inspect = w.inspect) : v = w := by
  have hempty : Follows [] := by simp [Follows]
  refine (told_of_simple hv w hw [] [] hempty hempty ?_).1
  rw [form, form, h]

end QueryTemplate.Value
