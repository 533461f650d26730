import QueryTemplate.Proofs.Value.Keys

/-!
# Equality of two values goes both ways

Which of two maps is walked depends on their places and kinds, and a set is asked for the elements
of the one on the left.  Between values as they are made this shows only in where a comparison has
no answer: a value equals another exactly where that one equals it (`equal_comm`).
-/

namespace QueryTemplate.Value

/-! ## Keys -/

/-- The keys of a map are as they are made. -/
def HasMadeKeys : Value → Prop
  | .map _ es => ∀ e ∈ es, e.1.WellFormed
  | _ => True

/-- The keys of a map are texts. -/
def HasTextKeys : Value → Prop
  | .map _ es => ∀ e ∈ es, ∃ s, e.1 = .text s
  | _ => True

/-- A value as it is made, with every key inside it. -/
structure WellKeyed (v : Value) : Prop where
  made : v.WellFormed
  keys : v.Everywhere HasMadeKeys

/-- A value as it is made, with texts as the keys of every map inside it. -/
structure Keyed (v : Value) : Prop where
  made : v.WellFormed
  texts : v.Everywhere HasTextKeys

/-- Two values as they are made; the keys inside them are too, or those of the second are texts. -/
structure Comparable (a b : Value) : Prop where
  left : a.WellFormed
  right : b.WellFormed
  keys : a.Everywhere HasMadeKeys ∧ b.Everywhere HasMadeKeys ∨ b.Everywhere HasTextKeys

lemma WellKeyed.comparable {a b : Value} (ha : a.WellKeyed) (hb : b.WellKeyed) : Comparable a b :=
  ⟨ha.made, hb.made, .inl ⟨ha.keys, hb.keys⟩⟩

lemma Keyed.comparable {a b : Value} (hb : b.Keyed) (ha : a.WellFormed) : Comparable a b :=
  ⟨ha, hb.made, .inr hb.texts⟩

lemma wellKeyed_iff {v : Value} :
    v.WellKeyed ↔ v.Proper ∧ v.HasMadeKeys ∧ ∀ w ∈ v.parts, w.WellKeyed := by
  constructor
  · rintro ⟨hmade, hkeys⟩
    obtain ⟨hproper, hmade⟩ := everywhere_iff.mp hmade
    obtain ⟨hkey, hkeys⟩ := everywhere_iff.mp hkeys
    exact ⟨hproper, hkey, fun w hw => ⟨hmade w hw, hkeys w hw⟩⟩
  · rintro ⟨hproper, hkey, hparts⟩
    exact ⟨.intro hproper fun w hw => (hparts w hw).made,
      .intro hkey fun w hw => (hparts w hw).keys⟩

lemma keyed_iff {v : Value} :
    v.Keyed ↔ v.Proper ∧ v.HasTextKeys ∧ ∀ w ∈ v.parts, w.Keyed := by
  constructor
  · rintro ⟨hmade, htexts⟩
    obtain ⟨hproper, hmade⟩ := everywhere_iff.mp hmade
    obtain ⟨hkeys, htexts⟩ := everywhere_iff.mp htexts
    exact ⟨hproper, hkeys, fun w hw => ⟨hmade w hw, htexts w hw⟩⟩
  · rintro ⟨hproper, hkeys, hparts⟩
    exact ⟨.intro hproper fun w hw => (hparts w hw).made,
      .intro hkeys fun w hw => (hparts w hw).texts⟩

lemma Keyed.parts {v w : Value} (h : v.Keyed) (hw : w ∈ v.parts) : w.Keyed :=
  (keyed_iff.mp h).2.2 w hw

lemma Comparable.parts {a b x y : Value} (h : Comparable a b) (hx : x ∈ a.parts)
    (hy : y ∈ b.parts) : Comparable x y :=
  ⟨h.left.of_mem_parts hx, h.right.of_mem_parts hy,
    h.keys.imp (fun ⟨ha, hb⟩ => ⟨(everywhere_iff.mp ha).2 x hx, (everywhere_iff.mp hb).2 y hy⟩)
      fun hb => (everywhere_iff.mp hb).2 y hy⟩

lemma isSameKey_text_right {k : Value} {s : String} :
    k.isSameKey (.text s) = true ↔ k = .text s := by
  cases k with
  | text t => simp [isSameKey, equalSingle]
  | _ => simp [isSameKey, equalSingle, number?]

lemma isSameKey_text_left {k : Value} {s : String} :
    isSameKey (.text s) k = true ↔ k = .text s := by
  cases k with
  | text t =>
    simp only [isSameKey, equalSingle, beq_iff_eq, text.injEq]
    exact eq_comm
  | _ => simp [isSameKey, equalSingle, number?]

/-- The keys of two maps agree on which of them count as one. -/
structure KeysMatch (es fs : List (Value × Value)) : Prop where
  comm : ∀ e ∈ es, ∀ f ∈ fs, e.1.isSameKey f.1 = f.1.isSameKey e.1
  left : ∀ e ∈ es, ∀ e' ∈ es, ∀ f ∈ fs, e.1.isSameKey f.1 = true → e'.1.isSameKey f.1 = true →
    e.1.isSameKey e'.1 = true
  right : ∀ e ∈ es, ∀ f ∈ fs, ∀ f' ∈ fs, e.1.isSameKey f.1 = true → e.1.isSameKey f'.1 = true →
    f.1.isSameKey f'.1 = true

namespace KeysMatch

variable {es fs : List (Value × Value)}

lemma symm (h : KeysMatch es fs) : KeysMatch fs es where
  comm f hf e he := (h.comm e he f hf).symm
  left f hf f' hf' e he hfe hfe' :=
    h.right e he f hf f' hf' ((h.comm e he f hf).trans hfe) ((h.comm e he f' hf').trans hfe')
  right f hf e he e' he' hfe hfe' :=
    h.left e he e' he' f hf ((h.comm e he f hf).trans hfe) ((h.comm e' he' f hf).trans hfe')

lemma of_wellFormed (hes : ∀ e ∈ es, e.1.WellFormed) (hfs : ∀ f ∈ fs, f.1.WellFormed) :
    KeysMatch es fs where
  comm e he f hf := isSameKey_comm (hes e he) (hfs f hf)
  left e he e' he' f hf h h' := isSameKey_trans (hes e he) (hfs f hf) (hes e' he') h
    (isSameKey_comm (hes e' he') (hfs f hf) ▸ h')
  right e he f hf f' hf' h h' := isSameKey_trans (hfs f hf) (hes e he) (hfs f' hf')
    (isSameKey_comm (hes e he) (hfs f hf) ▸ h) h'

lemma of_texts (hfs : ∀ f ∈ fs, ∃ s, f.1 = .text s) : KeysMatch es fs where
  comm e _ f hf := by
    obtain ⟨s, hs⟩ := hfs f hf
    rw [hs, Bool.eq_iff_iff, isSameKey_text_right, isSameKey_text_left]
  left e _ e' _ f hf h h' := by
    obtain ⟨s, hs⟩ := hfs f hf
    rw [hs, isSameKey_text_right] at h h'
    rw [h, h', isSameKey_text_right]
  right e _ f hf f' hf' h h' := by
    obtain ⟨s, hs⟩ := hfs f hf
    obtain ⟨s', hs'⟩ := hfs f' hf'
    rw [hs, isSameKey_text_right] at h
    rw [hs', isSameKey_text_right] at h'
    rw [hs, hs', isSameKey_text_right, ← h, h']

end KeysMatch

lemma Comparable.keysMatch {readOnly readOnly' : Bool} {es fs : List (Value × Value)}
    (h : Comparable (.map readOnly es) (.map readOnly' fs)) : KeysMatch es fs := by
  rcases h.keys with ⟨ha, hb⟩ | hb
  · exact .of_wellFormed (everywhere_iff.mp ha).1 (everywhere_iff.mp hb).1
  · exact .of_texts (everywhere_iff.mp hb).1

/-! ## Maps -/

section Maps

variable {es fs : List (Value × Value)}

/-- No two entries have keys that count as one. -/
lemma eq_of_isSameKey (hes : (es.map (·.1)).Pairwise Apart) {e e' : Value × Value} (he : e ∈ es)
    (he' : e' ∈ es) (h : e.1.isSameKey e'.1 = true) : e = e' := by
  by_contra hne
  have : Std.Symm fun e e' : Value × Value => Apart e.1 e'.1 := ⟨fun _ _ h => And.symm h⟩
  have hapart := (List.pairwise_map.mp hes).forall he he' hne
  exact absurd (hapart.1.symm.trans h) Bool.false_ne_true

/-- The counterpart of an entry is the only one whose key counts as its own. -/
lemma entryAmong_iff (hkeys : KeysMatch es fs) (hfs : (fs.map (·.1)).Pairwise Apart)
    {e : Value × Value} (he : e ∈ es) : entryAmong fs e = .ok true ↔
      ∃ f ∈ fs, e.1.isSameKey f.1 = true ∧ e.2.equalWithin f.2 = .ok true := by
  rw [entryAmong_eq_true]
  constructor
  · rintro ⟨f, hf, h⟩
    have hkey : e.1.isSameKey f.1 = true :=
      List.find?_some (p := fun f : Value × Value => e.1.isSameKey f.1) hf
    exact ⟨f, List.mem_of_find?_eq_some hf, hkey, h⟩
  · rintro ⟨f, hf, hkey, h⟩
    have hsome : (fs.find? (e.1.isSameKey ·.1)).isSome = true :=
      List.find?_isSome.mpr ⟨f, hf, hkey⟩
    obtain ⟨f', hf'⟩ := Option.isSome_iff_exists.mp hsome
    have hkey' : e.1.isSameKey f'.1 = true :=
      List.find?_some (p := fun f : Value × Value => e.1.isSameKey f.1) hf'
    have hmem := List.mem_of_find?_eq_some hf'
    obtain rfl := eq_of_isSameKey hfs hf hmem (hkeys.right e he f hf f' hmem hkey hkey')
    exact ⟨f, hf', h⟩

/-- If every entry of one map has an equal counterpart, so has every entry of the other. -/
lemma entries_symm (hkeys : KeysMatch es fs) (hes : (es.map (·.1)).Pairwise Apart)
    (hfs : (fs.map (·.1)).Pairwise Apart) (hlength : es.length = fs.length)
    (hvalues : ∀ e ∈ es, ∀ f ∈ fs, e.2.equalWithin f.2 = .ok true → f.2.equalWithin e.2 = .ok true)
    (h : ∀ e ∈ es, entryAmong fs e = .ok true) : ∀ f ∈ fs, entryAmong es f = .ok true := by
  have hown : es.Pairwise fun e e' => ∀ f ∈ fs,
      e.1.isSameKey f.1 = true ∧ e.2.equalWithin f.2 = .ok true →
      ¬ (e'.1.isSameKey f.1 = true ∧ e'.2.equalWithin f.2 = .ok true) := by
    refine (List.pairwise_map.mp hes).imp_of_mem fun {e e'} he he' hapart f hf h h' => ?_
    exact absurd (hapart.1.symm.trans (hkeys.left e he e' he' f hf h.1 h'.1)) Bool.false_ne_true
  intro f hf
  obtain ⟨e, he, hkey, hequal⟩ := exists_counterpart hlength hown
    (fun e he => (entryAmong_iff hkeys hfs he).mp (h e he)) f hf
  exact (entryAmong_iff hkeys.symm hes hf).mpr
    ⟨e, he, (hkeys.comm e he f hf).symm.trans hkey, hvalues e he f hf hequal⟩

end Maps

/-! ## Equality -/

section Equality

variable {xs ys : List Value} {es fs : List (Value × Value)}

lemma forall₂_equalWithin_comm
    (h : ∀ x ∈ xs, ∀ y ∈ ys, x.equalWithin y = .ok true ↔ y.equalWithin x = .ok true) :
    xs.Forall₂ (fun x y => x.equalWithin y = .ok true) ys ↔
      ys.Forall₂ (fun y x => y.equalWithin x = .ok true) xs :=
  (Outcome.forall₂_congr_of_mem h).trans ⟨.flip, .flip⟩

/-- Maps are equal where the entries of the left one have equal counterparts, whichever of the two
is walked, if equality of their values goes both ways. -/
lemma equalWithin_map_eq_true {readOnly readOnly' : Bool} (hkeys : KeysMatch es fs)
    (hes : (es.map (·.1)).Pairwise Apart) (hfs : (fs.map (·.1)).Pairwise Apart)
    (hvalues : ∀ e ∈ es, ∀ f ∈ fs,
      e.2.equalWithin f.2 = .ok true ↔ f.2.equalWithin e.2 = .ok true) :
    (Value.map readOnly es).equalWithin (.map readOnly' fs) = .ok true ↔
      es.length = fs.length ∧ ∀ e ∈ es, entryAmong fs e = .ok true := by
  rw [equalWithin_map]
  split_ifs with hlength hread
  · simp [hlength]
  · rw [not_ne_iff] at hlength
    rw [Outcome.allM_eq_true, and_iff_right hlength]
    exact ⟨entries_symm hkeys.symm hfs hes hlength.symm fun f hf e he => (hvalues e he f hf).mpr,
      entries_symm hkeys hes hfs hlength fun e he f hf => (hvalues e he f hf).mp⟩
  · rw [Outcome.allM_eq_true, and_iff_right (not_ne_iff.mp hlength)]

end Equality

/-- Equality of what containers hold goes both ways. -/
theorem equalWithin_comm {a b : Value} (h : Comparable a b) :
    a.equalWithin b = .ok true ↔ b.equalWithin a = .ok true := by
  induction a using parts_induction generalizing b with
  | step a ih =>
    have ih : ∀ x ∈ a.parts, ∀ y ∈ b.parts,
        x.equalWithin y = .ok true ↔ y.equalWithin x = .ok true :=
      fun x hx y hy => ih x hx (h.parts hx hy)
    cases pairing a b with
    | lists xs ys =>
      rw [equalWithin_list_eq_true, equalWithin_list_eq_true]
      exact forall₂_equalWithin_comm ih
    | tuples xs ys =>
      rw [equalWithin_tuple_eq_true, equalWithin_tuple_eq_true]
      exact forall₂_equalWithin_comm ih
    | sets frozen frozen' xs ys =>
      have hcomm := isSameKey_comm h.left h.right
      rw [isSameKey, isSameKey] at hcomm
      rw [equalWithin_set, equalWithin_set, hcomm]
    | maps readOnly readOnly' es fs =>
      have hes := (everywhere_iff.mp h.left).1
      have hfs := (everywhere_iff.mp h.right).1
      have hvalues : ∀ e ∈ es, ∀ f ∈ fs,
          e.2.equalWithin f.2 = .ok true ↔ f.2.equalWithin e.2 = .ok true :=
        fun e he f hf => ih e.2 (List.mem_map_of_mem he) f.2 (List.mem_map_of_mem hf)
      rw [equalWithin_map_eq_true h.keysMatch hes hfs hvalues,
        equalWithin_map_eq_true h.keysMatch.symm hfs hes fun f hf e he => (hvalues e he f hf).symm,
        eq_comm (a := fs.length), and_congr_right_iff]
      intro hlength
      exact ⟨entries_symm h.keysMatch hes hfs hlength fun e he f hf => (hvalues e he f hf).mp,
        entries_symm h.keysMatch.symm hfs hes hlength.symm fun f hf e he => (hvalues e he f hf).mpr⟩
    | single within_eq within_eq' =>
      rw [within_eq, within_eq', equalSingle_eq_true, equalSingle_eq_true]
      rw [eq_comm (a := b.content?)]
      exact and_congr_right fun hcontent => hcontent ▸ Iff.rfl

/-- **Equality goes both ways.** -/
theorem equal_comm {a b : Value} (h : Comparable a b) :
    a.equal b = .ok true ↔ b.equal a = .ok true := by
  by_cases hnumbers : ∃ m n, a = .number m ∧ b = .number n
  · obtain ⟨m, n, rfl, rfl⟩ := hnumbers
    rw [equal, equal, Number.equal_eq_true, Number.equal_eq_true]
    exact exists_congr fun x => and_comm
  · rw [equal_eq_equalWithin fun m n ha hb => hnumbers ⟨m, n, ha, hb⟩,
      equal_eq_equalWithin fun n m hb ha => hnumbers ⟨m, n, ha, hb⟩]
    exact equalWithin_comm h

/-- Equality of operands goes both ways. -/
lemma same_comm {a b : Value} (h : Comparable a b) :
    a.same b = .ok true ↔ b.same a = .ok true := by
  rw [same_eq_true, same_eq_true, equal_comm h, eq_comm]

end QueryTemplate.Value
