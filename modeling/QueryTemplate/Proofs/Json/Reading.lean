import QueryTemplate.Proofs.Json.Numbers
import QueryTemplate.Proofs.Json.Texts

/-!
# Written JSON is read back

What is written, compact or over several lines, is read as the same data, except that a number
which JSON has not became null (`degraded`).  It is read at all exactly if every integer in it is
short enough (`isShort`), provided that no object names a field twice.

The proof goes along the data.  A value is read from wherever the blanks before it end, and the
fuel it needs is bounded by its own text: two steps for every character.
-/

namespace QueryTemplate.Json

mutual

/-- The data that is written: what is no number is null. -/
def degraded : Json → Json
  | .float (.finite n m e h) => .float (.finite n m e h)
  | .float _ => .null
  | .list js => .list (degradedItems js)
  | .object fs => .object (degradedFields fs)
  | j => j
termination_by structural x => x

/-- The items that are written. -/
def degradedItems : List Json → List Json
  | [] => []
  | j :: js => degraded j :: degradedItems js
termination_by structural x => x

/-- The fields that are written. -/
def degradedFields : List (String × Json) → List (String × Json)
  | [] => []
  | (name, j) :: fs => (name, degraded j) :: degradedFields fs
termination_by structural x => x

end

lemma degradedItems_eq : ∀ js, degradedItems js = js.map degraded
  | [] => rfl
  | j :: js => congrArg (degraded j :: ·) (degradedItems_eq js)

lemma degradedFields_eq : ∀ fs, degradedFields fs = fs.map fun f => (f.1, f.2.degraded)
  | [] => rfl
  | (name, j) :: fs => congrArg ((name, degraded j) :: ·) (degradedFields_eq fs)

mutual

/-- No object names a field twice. -/
def NamesOnce : Json → Prop
  | .list js => NamesOnceItems js
  | .object fs => (fs.map (·.1)).Nodup ∧ NamesOnceFields fs
  | _ => True
termination_by structural x => x

/-- No object in the items names a field twice. -/
def NamesOnceItems : List Json → Prop
  | [] => True
  | j :: js => NamesOnce j ∧ NamesOnceItems js
termination_by structural x => x

/-- No object in the fields names a field twice. -/
def NamesOnceFields : List (String × Json) → Prop
  | [] => True
  | (_, j) :: fs => NamesOnce j ∧ NamesOnceFields fs
termination_by structural x => x

end

mutual

/-- Is every integer in the data short enough? -/
def isShort : Json → Bool
  | .int i => IsShort i
  | .list js => areShort js
  | .object fs => areShortFields fs
  | _ => true
termination_by structural x => x

/-- Is every integer in the items short enough? -/
def areShort : List Json → Bool
  | [] => true
  | j :: js => isShort j && areShort js
termination_by structural x => x

/-- Is every integer in the fields short enough? -/
def areShortFields : List (String × Json) → Bool
  | [] => true
  | (_, j) :: fs => isShort j && areShortFields fs
termination_by structural x => x

end

/-- What is read of something that may be too long. -/
def ifShort {α : Type} (short : Bool) (a : α) : Except ReadError α :=
  if short then .ok a else .error .malformed

section IfShort

variable {α β : Type} {short : Bool} {a : α}

lemma ifShort_true : ifShort true a = .ok a := rfl

lemma ifShort_map (f : α → β) : (ifShort short a).map f = ifShort short (f a) := by
  cases short <;> rfl

end IfShort

/-! ## Blanks and brackets -/

variable {layout : Layout}

/-- A value begins here: neither a blank nor a bracket nor a separator. -/
def Opens (cs : List Char) : Prop :=
  ∃ c cs', cs = c :: cs' ∧ c ∉ [' ', '\n', '\t', '\r', ']', '\x7d', ',']

lemma skipBlanks_lineBreak (layout : Layout) (depth : ℕ) (cs : List Char) :
    skipBlanks (layout.lineBreak depth ++ cs) = skipBlanks cs := by
  refine List.dropWhile_append_of_pos fun c hc => ?_
  cases layout with
  | compact => simp [Layout.lineBreak] at hc
  | lines indent =>
    simp only [Layout.lineBreak, List.mem_cons, List.mem_replicate] at hc
    rcases hc with rfl | ⟨-, rfl⟩ <;> rfl

lemma skipBlanks_colon (layout : Layout) (cs : List Char) :
    skipBlanks (layout.colon ++ cs) = ':' :: (layout.colon.tail ++ cs) := by
  cases layout <;> rfl

lemma skipBlanks_colon_tail (layout : Layout) (cs : List Char) :
    skipBlanks (layout.colon.tail ++ cs) = skipBlanks cs := by
  cases layout <;> rfl

lemma Opens.skipBlanks {cs : List Char} (h : Opens cs) : skipBlanks cs = cs := by
  obtain ⟨c, cs, rfl, hc⟩ := h
  simp only [List.mem_cons, not_or] at hc
  simp [Json.skipBlanks, hc]

lemma Opens.append {cs : List Char} (h : Opens cs) (t : List Char) : Opens (cs ++ t) := by
  obtain ⟨c, cs, rfl, hc⟩ := h
  exact ⟨c, cs ++ t, rfl, hc⟩

/-- A break, a separator or a closing bracket ends a number. -/
lemma endsNumber_lineBreak {depth : ℕ} {cs : List Char} (h : EndsNumber cs) :
    EndsNumber (layout.lineBreak depth ++ cs) := by
  cases layout with
  | compact => exact h
  | lines indent => simp [EndsNumber, Layout.lineBreak]

/-! ## Scalars -/

/-- What is read as a scalar begins neither with a blank nor with a bracket. -/
lemma opens_of_readScalar {dialect : Dialect} {cs : List Char} {r : Json × List Char}
    (h : readScalar dialect cs = .ok r) :
    Opens cs ∧ ∀ c ∈ cs.head?, c ≠ '[' ∧ c ≠ '\x7b' := by
  cases cs with
  | nil => simp [readScalar, readUnsigned] at h
  | cons c cs =>
    have hc : c ∉ [' ', '\n', '\t', '\r', ']', '\x7d', ',', '[', '\x7b'] := by
      intro hc
      simp only [List.mem_cons, List.not_mem_nil, or_false] at hc
      rcases hc with rfl | rfl | rfl | rfl | rfl | rfl | rfl | rfl | rfl <;>
        simp [readScalar, readUnsigned] at h
    simp only [List.mem_cons, not_or] at hc
    exact ⟨⟨c, cs, rfl, by simp [hc]⟩, by simp [hc]⟩

/-- A value that begins with no bracket is a scalar. -/
lemma readValue_scalar {dialect : Dialect} {cs cs' : List Char} {n : ℕ}
    (hhead : ∀ c ∈ cs.head?, c ≠ '[' ∧ c ≠ '\x7b') (hn : 0 < n) (hcs : skipBlanks cs' = cs) :
    readValue dialect n cs' = readScalar dialect cs := by
  obtain ⟨n, rfl⟩ := Nat.exists_eq_succ_of_ne_zero hn.ne'
  rw [readValue, hcs]
  split
  · exact absurd rfl (hhead '[' rfl).1
  · exact absurd rfl (hhead '\x7b' rfl).2
  · rfl

/-- A value is a scalar, a list or an object. -/
lemma readScalar_chars (layout : Layout) (depth : ℕ) {j : Json} {t : List Char}
    (hl : ∀ js, j ≠ .list js) (ho : ∀ fs, j ≠ .object fs) (ht : EndsNumber t) :
    readScalar .document (chars layout depth j ++ t) = ifShort j.isShort (j.degraded, t) := by
  cases j with
  | null => rw [chars]; rfl
  | bool b => cases b <;> rw [chars] <;> rfl
  | int i =>
    rw [chars, readScalar_int i ht, ifShort, isShort]
    simp only [decide_eq_true_eq]
    rfl
  | float x =>
    rw [chars, readScalar_float x ht]
    cases x <;> rfl
  | text s =>
    have hs := readText_textChars .document s t
    rw [chars, textChars, List.append_assoc, List.singleton_append, List.cons_append, readScalar, hs]
    dsimp only
    rw [String.ofList_toList]
    rfl
  | list js => exact absurd rfl (hl js)
  | object fs => exact absurd rfl (ho fs)

/-- A sign or a digit begins an integer. -/
lemma opens_int (i : ℤ) :
    Opens (toString i).toList ∧ ∀ c ∈ (toString i).toList.head?, c ≠ '[' ∧ c ≠ '\x7b' := by
  obtain ⟨d, ds, hds⟩ := List.exists_cons_of_ne_nil (Nat.toDigits_ne_nil (n := i.natAbs) (b := 10))
  have hd : d.isDigit = true := Text.isDigit_of_mem_toDigits d (hds ▸ List.mem_cons_self)
  have hne : ∀ c : Char, c.isDigit = false → d ≠ c := by
    rintro c hc rfl
    simp [hd] at hc
  rw [toList_toString, hds]
  split_ifs
  · exact ⟨⟨'-', d :: ds, rfl, by decide⟩, by simp⟩
  · exact ⟨⟨d, ds, rfl, by simp [hne]⟩, by simp [hne]⟩

/-- Among parameters an integer of too many digits is an error of its own. -/
lemma readValue_tooLong {n fuel : ℕ} {cs : List Char} (hcs : EndsNumber cs)
    (hlong : maxDigits < (Nat.toDigits 10 n).length) (hfuel : 0 < fuel) :
    readValue .parameters fuel (Nat.toDigits 10 n ++ cs) =
      .error (.tooLong (Nat.toDigits 10 n).length) := by
  have hdigits : (toString (n : ℤ)).toList = Nat.toDigits 10 n := Nat.toList_repr
  obtain ⟨hopens, hhead⟩ := opens_int n
  rw [hdigits] at hopens hhead
  obtain ⟨d, ds, hds⟩ := List.exists_cons_of_ne_nil (Nat.toDigits_ne_nil (n := n) (b := 10))
  have hdigit : d.isDigit = true := Text.isDigit_of_mem_toDigits d (hds ▸ List.mem_cons_self)
  have hread := readUnsigned_tooLong hcs hlong false
  have hblank := (hopens.append cs).skipBlanks
  rw [hds, List.cons_append] at hread hblank ⊢
  rw [hds] at hhead
  have hscalar : ∀ c ∈ (d :: (ds ++ cs)).head?, c ≠ '[' ∧ c ≠ '\x7b' := hhead
  rw [readValue_scalar hscalar hfuel hblank, readScalar_digit hdigit, hread]

/-- A written scalar begins neither with a blank nor with a bracket. -/
lemma opens_scalar_chars (layout : Layout) (depth : ℕ) {j : Json} (hl : ∀ js, j ≠ .list js)
    (ho : ∀ fs, j ≠ .object fs) :
    Opens (chars layout depth j) ∧
      ∀ c ∈ (chars layout depth j).head?, c ≠ '[' ∧ c ≠ '\x7b' := by
  by_cases hi : ∃ i, j = .int i
  · obtain ⟨i, rfl⟩ := hi
    rw [chars]
    exact opens_int i
  · have hshort : j.isShort = true := by
      cases j with
      | int i => exact absurd ⟨i, rfl⟩ hi
      | list js => exact absurd rfl (hl js)
      | object fs => exact absurd rfl (ho fs)
      | _ => rfl
    have h := readScalar_chars layout depth (t := []) hl ho (by simp [EndsNumber])
    rw [List.append_nil, hshort] at h
    exact opens_of_readScalar h

/-- A written value begins where it is looked for. -/
lemma opens_chars (layout : Layout) (depth : ℕ) (j : Json) : Opens (chars layout depth j) := by
  by_cases hl : ∃ js, j = .list js
  · obtain ⟨js, rfl⟩ := hl
    cases js <;> exact ⟨'[', _, by rw [chars]; try rfl, by simp⟩
  by_cases ho : ∃ fs, j = .object fs
  · obtain ⟨fs, rfl⟩ := ho
    cases fs <;> exact ⟨'\x7b', _, by rw [chars]; try rfl, by simp⟩
  exact (opens_scalar_chars layout depth (not_exists.mp hl) (not_exists.mp ho)).1

lemma length_chars_pos (layout : Layout) (depth : ℕ) (j : Json) :
    0 < (chars layout depth j).length := by
  obtain ⟨c, cs, h, -⟩ := opens_chars layout depth j
  rw [h]
  exact Nat.succ_pos _

lemma readValue_scalar_chars {layout : Layout} {depth n : ℕ} {j : Json} {cs t : List Char}
    (hn : 2 * (chars layout depth j).length ≤ n) (hcs : skipBlanks cs = chars layout depth j ++ t)
    (ht : EndsNumber t) (hl : ∀ js, j ≠ .list js) (ho : ∀ fs, j ≠ .object fs) :
    readValue .document n cs = ifShort j.isShort (j.degraded, t) := by
  have hpos := length_chars_pos layout depth j
  obtain ⟨c, cs', hchars, -⟩ := opens_chars layout depth j
  have hhead := (opens_scalar_chars layout depth hl ho).2
  have hscalar : ∀ c ∈ (chars layout depth j ++ t).head?, c ≠ '[' ∧ c ≠ '\x7b' := by
    rw [hchars] at hhead ⊢
    exact hhead
  rw [readValue_scalar hscalar (by omega) hcs, readScalar_chars layout depth hl ho ht]

/-! ## Lists and objects -/

/-- Behind a value in a list there is a separator, a break or a bracket. -/
lemma endsNumber_itemChars {depth : ℕ} {js : List Json} {t : List Char} (ht : EndsNumber t) :
    EndsNumber (itemChars layout depth js ++ t) := by
  cases js with
  | nil => rw [itemChars]; exact ht
  | cons j js => rw [itemChars]; simp [EndsNumber]

lemma skipBlanks_fieldChars (layout : Layout) (depth : ℕ) (f : String × Json)
    (fs : List (String × Json)) (t : List Char) :
    skipBlanks (fieldChars layout depth (f :: fs) ++ t) =
      '"' :: (f.1.toList.flatMap escape ++ '"' :: (layout.colon ++ (chars layout depth f.2 ++
        ((if fs.isEmpty then [] else [',']) ++ (fieldChars layout depth fs ++ t))))) := by
  obtain ⟨name, v⟩ := f
  rw [fieldChars, textChars]
  simp only [List.append_assoc, List.cons_append, List.nil_append, skipBlanks_lineBreak]
  rfl

lemma map_fst_degradedFields (fs : List (String × Json)) :
    (degradedFields fs).map (·.1) = fs.map (·.1) := by
  rw [degradedFields_eq, List.map_map]
  rfl

/-- Fields with names of their own are kept as they are. -/
lemma ofFields_of_nodup {fs : List (String × Json)} (h : (fs.map (·.1)).Nodup) :
    ofFields fs = .object fs := by
  have hput : ∀ gs : List (String × Json), ((gs ++ fs).map (·.1)).Nodup →
      fs.foldl (fun fs f => putField f.1 f.2 fs) gs = gs ++ fs := by
    clear h
    induction fs with
    | nil => intro gs _; rw [List.foldl_nil, List.append_nil]
    | cons f fs ih =>
      intro gs h
      have hf : f.1 ∉ gs.map (·.1) := by
        rw [List.map_append, List.nodup_append'] at h
        exact fun hmem => h.2.2 hmem (by simp)
      rw [List.foldl_cons, putField_of_not_mem hf, ih _ (by simpa using h), List.append_assoc]
      rfl
  rw [ofFields, hput [] h, List.nil_append]

section Steps

variable {n : ℕ} {cs rest rest' t : List Char} {v : Json} {js : List Json}
  {fs : List (String × Json)} {name : String} {short short' : Bool}

lemma readValue_list (hcs : skipBlanks cs = '[' :: rest) (ho : Opens (skipBlanks rest))
    (h : readItems .document n (skipBlanks rest) = ifShort short (js, t)) :
    readValue .document (n + 1) cs = ifShort short (.list js, t) := by
  obtain ⟨c, cs', hrest, hc⟩ := ho
  rw [hrest] at h
  simp only [List.mem_cons, not_or] at hc
  simp only [readValue, hcs, hrest]
  split
  · simp_all
  · rw [h, ifShort_map]

lemma readValue_object (hcs : skipBlanks cs = '\x7b' :: rest) (ho : Opens (skipBlanks rest))
    (h : readFields .document n (skipBlanks rest) = ifShort short (fs, t)) :
    readValue .document (n + 1) cs = ifShort short (ofFields fs, t) := by
  obtain ⟨c, cs', hrest, hc⟩ := ho
  rw [hrest] at h
  simp only [List.mem_cons, not_or] at hc
  simp only [readValue, hcs, hrest]
  split
  · simp_all
  · rw [h, ifShort_map]

lemma readItems_cons (h : readValue .document n cs = ifShort short (v, rest))
    (hr : skipBlanks rest = ',' :: rest')
    (hi : readItems .document n rest' = ifShort short' (js, t)) :
    readItems .document (n + 1) cs = ifShort (short && short') (v :: js, t) := by
  cases short with
  | false => simp [readItems, h, ifShort]
  | true => simp [readItems, h, hr, hi, ifShort_true, ifShort_map]

lemma readItems_last (h : readValue .document n cs = ifShort short (v, rest))
    (hr : skipBlanks rest = ']' :: t) :
    readItems .document (n + 1) cs = ifShort short ([v], t) := by
  cases short with
  | false => simp [readItems, h, ifShort]
  | true => simp [readItems, h, hr, ifShort_true]

lemma readFields_cons {more : List Char}
    (hn : skipBlanks cs = '"' :: (name.toList.flatMap escape ++ '"' :: (layout.colon ++ rest)))
    (h : readValue .document n (layout.colon.tail ++ rest) = ifShort short (v, rest'))
    (hr : skipBlanks rest' = ',' :: more)
    (hf : readFields .document n more = ifShort short' (fs, t)) :
    readFields .document (n + 1) cs = ifShort (short && short') ((name, v) :: fs, t) := by
  cases short with
  | false => simp [readFields, hn, readText_textChars, skipBlanks_colon, h, ifShort]
  | true =>
    simp [readFields, hn, readText_textChars, skipBlanks_colon, h, hr, hf, ifShort_true,
      ifShort_map]

lemma readFields_last
    (hn : skipBlanks cs = '"' :: (name.toList.flatMap escape ++ '"' :: (layout.colon ++ rest)))
    (h : readValue .document n (layout.colon.tail ++ rest) = ifShort short (v, rest'))
    (hr : skipBlanks rest' = '\x7d' :: t) :
    readFields .document (n + 1) cs = ifShort short ([(name, v)], t) := by
  cases short with
  | false => simp [readFields, hn, readText_textChars, skipBlanks_colon, h, ifShort]
  | true => simp [readFields, hn, readText_textChars, skipBlanks_colon, h, hr, ifShort_true]

end Steps

lemma skipBlanks_lineBreak_cons (layout : Layout) (depth : ℕ) {c : Char} (h : c = ']' ∨ c = '\x7d')
    (t : List Char) : skipBlanks (layout.lineBreak depth ++ c :: t) = c :: t := by
  rw [skipBlanks_lineBreak]
  rcases h with rfl | rfl <;> rfl

/-- A text of that length leaves a step. -/
lemma exists_fuel {n : ℕ} {cs : List Char} (h : 2 * cs.length ≤ n) (hcs : 0 < cs.length) :
    ∃ m, n = m + 1 :=
  Nat.exists_eq_add_of_le' (by omega)

mutual

/-- A written value is read back, whatever ends it. -/
theorem readValue_chars : ∀ (j : Json) (depth : ℕ) {n : ℕ} {cs t : List Char}, j.NamesOnce →
    2 * (chars layout depth j).length ≤ n → skipBlanks cs = chars layout depth j ++ t →
    EndsNumber t → readValue .document n cs = ifShort j.isShort (j.degraded, t)
  | .list [], depth, n, cs, t, _, hn, hcs, _ => by
    obtain ⟨n, rfl⟩ := exists_fuel hn (length_chars_pos _ _ _)
    rw [chars] at hcs
    rw [readValue, hcs]
    rfl
  | .list (x :: xs), depth, n, cs, t, h, hn, hcs, _ => by
    obtain ⟨n, rfl⟩ := exists_fuel hn (length_chars_pos _ _ _)
    rw [chars] at hn hcs
    have hopen := (opens_chars layout (depth + 1) x).append
      (itemChars layout (depth + 1) xs ++ (layout.lineBreak depth ++ ']' :: t))
    have hskip := (skipBlanks_lineBreak layout (depth + 1) _).trans hopen.skipBlanks
    have hlength : 2 * (itemChars layout (depth + 1) (x :: xs)).length ≤ n + 1 := by
      rw [itemChars]
      simp only [List.length_append, List.length_cons, List.length_nil] at hn ⊢
      omega
    have hcomma : ',' :: (layout.lineBreak (depth + 1) ++ (chars layout (depth + 1) x ++
        (itemChars layout (depth + 1) xs ++ (layout.lineBreak depth ++ ']' :: t)))) =
        itemChars layout (depth + 1) (x :: xs) ++ (layout.lineBreak depth ++ ']' :: t) := by
      rw [itemChars]
      simp only [List.append_assoc, List.cons_append]
    have hitems := readItems_chars (x :: xs) (depth + 1) depth h hlength hcomma
      (hopen.skipBlanks.trans hskip.symm)
    rw [← hskip] at hitems
    exact readValue_list (by simpa using hcs) (by rw [hskip]; exact hopen) hitems
  | .object [], depth, n, cs, t, _, hn, hcs, _ => by
    obtain ⟨n, rfl⟩ := exists_fuel hn (length_chars_pos _ _ _)
    rw [chars] at hcs
    rw [readValue, hcs]
    rfl
  | .object (f :: fs), depth, n, cs, t, h, hn, hcs, _ => by
    obtain ⟨n, rfl⟩ := exists_fuel hn (length_chars_pos _ _ _)
    rw [chars] at hn hcs
    have hskip := skipBlanks_fieldChars layout (depth + 1) f fs
      (layout.lineBreak depth ++ '\x7d' :: t)
    have hlength : 2 * (fieldChars layout (depth + 1) (f :: fs)).length + 1 ≤ n := by
      simp only [List.length_append, List.length_cons, List.length_nil] at hn ⊢
      omega
    have hstart : skipBlanks (skipBlanks (fieldChars layout (depth + 1) (f :: fs) ++
        (layout.lineBreak depth ++ '\x7d' :: t))) = skipBlanks (fieldChars layout (depth + 1)
          (f :: fs) ++ (layout.lineBreak depth ++ '\x7d' :: t)) := by
      rw [hskip]
      rfl
    have hfields := readFields_chars (f :: fs) (depth + 1) depth (List.cons_ne_nil f fs) h.2 hlength
      hstart
    have hnames : ((degradedFields (f :: fs)).map (·.1)).Nodup := by
      rw [map_fst_degradedFields]
      exact h.1
    rw [readValue_object (by simpa using hcs) (hskip ▸ ⟨'"', _, rfl, by simp⟩) hfields,
      ofFields_of_nodup hnames]
    rfl
  | .null, depth, n, cs, t, _, hn, hcs, ht => readValue_scalar_chars hn hcs ht (by simp) (by simp)
  | .bool b, depth, n, cs, t, _, hn, hcs, ht => readValue_scalar_chars hn hcs ht (by simp) (by simp)
  | .int i, depth, n, cs, t, _, hn, hcs, ht => readValue_scalar_chars hn hcs ht (by simp) (by simp)
  | .float x, depth, n, cs, t, _, hn, hcs, ht => readValue_scalar_chars hn hcs ht (by simp) (by simp)
  | .text s, depth, n, cs, t, _, hn, hcs, ht => readValue_scalar_chars hn hcs ht (by simp) (by simp)
termination_by structural x => x

/-- Written items are read back up to the end of their list. -/
theorem readItems_chars : ∀ (js : List Json) (depth outer : ℕ) {n : ℕ} {t : List Char},
    NamesOnceItems js → 2 * (itemChars layout depth js).length ≤ n + 1 → ∀ ⦃cs rest⦄,
    ',' :: rest = itemChars layout depth js ++ (layout.lineBreak outer ++ ']' :: t) →
    skipBlanks cs = skipBlanks rest →
    readItems .document n cs = ifShort (areShort js) (degradedItems js, t)
  | [], depth, outer, n, t, _, _, cs, rest, hrest, _ => by
    rw [itemChars] at hrest
    cases layout <;> simp [Layout.lineBreak] at hrest
  | j :: js, depth, outer, n, t, h, hn, cs, rest, hrest, hcs => by
    have hpos := length_chars_pos layout depth j
    rw [itemChars] at hn hrest
    simp only [List.length_append, List.length_cons] at hn
    obtain ⟨n, rfl⟩ : ∃ m, n = m + 1 := Nat.exists_eq_add_of_le' (by omega)
    simp only [List.append_assoc, List.cons_append, List.cons.injEq, true_and] at hrest
    subst hrest
    rw [skipBlanks_lineBreak, ((opens_chars layout depth j).append _).skipBlanks] at hcs
    have hj := readValue_chars j depth h.1 (n := n) (by omega) hcs
      (endsNumber_itemChars (endsNumber_lineBreak (by simp [EndsNumber])))
    -- What follows is the end of the list or, behind a comma, the next item.
    have hjs := readItems_chars js depth outer (n := n) (t := t) h.2 (by omega)
    cases js with
    | nil =>
      rw [areShort, areShort, Bool.and_true]
      exact readItems_last hj (skipBlanks_lineBreak_cons layout outer (.inl rfl) t)
    | cons x xs =>
      rw [itemChars] at hj hjs
      simp only [List.append_assoc, List.cons_append, List.cons.injEq, true_and] at hj hjs
      exact readItems_cons hj rfl (hjs rfl rfl)
termination_by structural x => x

/-- Written fields are read back up to the end of their object. -/
theorem readFields_chars : ∀ (fs : List (String × Json)) (depth outer : ℕ) {n : ℕ} {t : List Char},
    fs ≠ [] → NamesOnceFields fs → 2 * (fieldChars layout depth fs).length + 1 ≤ n → ∀ ⦃cs⦄,
    skipBlanks cs = skipBlanks (fieldChars layout depth fs ++
      (layout.lineBreak outer ++ '\x7d' :: t)) →
    readFields .document n cs = ifShort (areShortFields fs) (degradedFields fs, t)
  | (name, j) :: fs, depth, outer, n, t, _, h, hn, cs, hcs => by
    obtain ⟨n, rfl⟩ : ∃ m, n = m + 1 := Nat.exists_eq_add_of_le' (by omega)
    rw [skipBlanks_fieldChars] at hcs
    rw [fieldChars] at hn
    simp only [List.length_append] at hn
    have hcolon : skipBlanks (layout.colon.tail ++ (chars layout depth j ++
        ((if fs.isEmpty then [] else [',']) ++ (fieldChars layout depth fs ++
          (layout.lineBreak outer ++ '\x7d' :: t))))) =
        chars layout depth j ++ ((if fs.isEmpty then [] else [',']) ++ (fieldChars layout depth fs ++
          (layout.lineBreak outer ++ '\x7d' :: t))) := by
      rw [skipBlanks_colon_tail, ((opens_chars layout depth j).append _).skipBlanks]
    have hend : EndsNumber ((if fs.isEmpty then [] else [',']) ++ (fieldChars layout depth fs ++
          (layout.lineBreak outer ++ '\x7d' :: t))) := by
      cases fs with
      | nil => exact endsNumber_lineBreak (by simp [EndsNumber])
      | cons f fs => simp [EndsNumber]
    have hj := readValue_chars j depth h.1 (n := n) (by omega) hcolon hend
    have hfs := readFields_chars fs depth outer (n := n) (t := t)
    cases fs with
    | nil =>
      rw [areShortFields, areShortFields, Bool.and_true]
      exact readFields_last hcs hj (skipBlanks_lineBreak_cons layout outer (.inr rfl) t)
    | cons f fs =>
      exact readFields_cons hcs hj rfl (hfs (List.cons_ne_nil f fs) h.2 (by simp at hn ⊢; omega) rfl)
termination_by structural x => x

end

/-! ## Documents -/

/-- A written document is read back, if every integer in it is short enough. -/
theorem read_render {j : Json} (h : j.NamesOnce) (layout : Layout) :
    read .document (render layout j) = ifShort j.isShort j.degraded := by
  have hopen := opens_chars layout 0 j
  have hstart : skipBlanks (chars layout 0 j) = chars layout 0 j ++ [] := by
    rw [hopen.skipBlanks, List.append_nil]
  have hj : readValue .document (2 * (chars layout 0 j).length + 2) (chars layout 0 j) =
      ifShort j.isShort (j.degraded, []) :=
    readValue_chars j 0 h (by omega) hstart (by simp [EndsNumber])
  simp only [read, render, String.toList_ofList, hj]
  cases j.isShort <;> rfl

mutual

/-- What is written is nested as deep. -/
theorem nesting_degraded : ∀ j : Json, j.degraded.nesting = j.nesting
  | .null | .bool _ | .int _ | .text _ => rfl
  | .float x => by cases x <;> rfl
  | .list js => nestingOfItems_degraded js
  | .object fs => nestingOfFields_degraded fs
termination_by structural x => x

theorem nestingOfItems_degraded : ∀ js, nestingOfItems (degradedItems js) = nestingOfItems js
  | [] => rfl
  | j :: js => by
    rw [degradedItems, nestingOfItems, nestingOfItems, nesting_degraded j,
      nestingOfItems_degraded js]
termination_by structural x => x

theorem nestingOfFields_degraded : ∀ fs, nestingOfFields (degradedFields fs) = nestingOfFields fs
  | [] => rfl
  | (name, j) :: fs => by
    rw [degradedFields, nestingOfFields, nestingOfFields, nesting_degraded j,
      nestingOfFields_degraded fs]
termination_by structural x => x

end

mutual

/-- Nothing has more levels than it is nested, but its own. -/
theorem height_le : ∀ j : Json, j.height ≤ j.nesting + 1
  | .null | .bool _ | .int _ | .text _ | .float _ => le_rfl
  | .list js => Nat.succ_le_succ (heightOfItems_le js)
  | .object fs => Nat.succ_le_succ (heightOfFields_le fs)
termination_by structural x => x

theorem heightOfItems_le : ∀ js, heightOfItems js ≤ nestingOfItems js
  | [] => le_rfl
  | j :: js => max_le_max (height_le j) (heightOfItems_le js)
termination_by structural x => x

theorem heightOfFields_le : ∀ fs, heightOfFields fs ≤ nestingOfFields fs
  | [] => le_rfl
  | (_, j) :: fs => max_le_max (height_le j) (heightOfFields_le fs)
termination_by structural x => x

end

end QueryTemplate.Json
