import QueryTemplate.Proofs.Value.Symmetry

/-!
# Equality position by position

A path leads through lists, tuples and maps to a value inside another; a set is one position.  Two
values that containers hold are equal where they have one structure and equal contents at every
position (`equalWithin_iff_matching`); there an object that is not a number is equal to itself.  At
the top it is equal to nothing (`equal_iff_matching`).

Operands of conditions are told apart where one is a truth value and the other is not.  Below the
top nothing keeps a truth value from matching the number one or zero: `same_iff_matching` says what
equality of operands means inside, and what it would have to exclude to go by the same rule at every
position.
-/

namespace QueryTemplate.Value

/-! ## Positions -/

/-- A step to a value inside another. -/
inductive Step where
  | item (index : ℕ)
  | entry (name : String)

/-- The value one step inside another. -/
def step? : Value → Step → Option Value
  | .list xs, .item i | .tuple xs, .item i => xs[i]?
  | .map _ es, .entry name => (es.find? (isSameKey (.text name) ·.1)).map (·.2)
  | _, _ => none

/-- The value at the end of a path. -/
def at? (v : Value) : List Step → Option Value
  | [] => some v
  | s :: path => (v.step? s).bind (·.at? path)

section Matching

variable {leaf : Value → Value → Except Number.Undefined Bool} {a b : Value}

/-- Two values that are lists, tuples or maps are of one size and have the same keys, and others
answer alike as leaves. -/
def Corresponds (leaf : Value → Value → Except Number.Undefined Bool) : Value → Value → Prop
  | .list xs, .list ys | .tuple xs, .tuple ys => xs.length = ys.length
  | .map _ es, .map _ fs => (es.map (·.1)).Perm (fs.map (·.1))
  | a, b => leaf a b = .ok true

/-- The two values have the same positions, and what stands at them corresponds. -/
def Matching (leaf : Value → Value → Except Number.Undefined Bool) (a b : Value) : Prop :=
  ∀ path, Option.Rel (Corresponds leaf) (a.at? path) (b.at? path)

lemma matching_of_some {o o' : Option Value} :
    (∀ path, Option.Rel (Corresponds leaf) (o.bind (·.at? path)) (o'.bind (·.at? path))) ↔
      Option.Rel (Matching leaf) o o' := by
  constructor
  · intro h
    cases o with
    | none =>
      cases o' with
      | none => exact .none
      | some y => cases h []
    | some x =>
      cases o' with
      | none => cases h []
      | some y => exact .some h
  · rintro (h | _) path
    · exact h path
    · exact .none

/-- Values match where they correspond and what is one step inside them matches. -/
lemma matching_iff : Matching leaf a b ↔
    Corresponds leaf a b ∧ ∀ s, Option.Rel (Matching leaf) (a.step? s) (b.step? s) := by
  simp only [← matching_of_some]
  constructor
  · intro h
    refine ⟨?_, fun s path => h (s :: path)⟩
    cases h [] with
    | some hab => exact hab
  · rintro ⟨hab, hsteps⟩ (_ | ⟨s, path⟩)
    · exact .some hab
    · exact hsteps s path

/-- Items match in order and are equally many if those at each place do, or both are missing. -/
lemma forall₂_iff_getElem? {r : Value → Value → Prop} {xs ys : List Value} :
    xs.Forall₂ r ys ↔ xs.length = ys.length ∧ ∀ i : ℕ, Option.Rel r xs[i]? ys[i]? := by
  rw [List.forall₂_iff_get]
  refine and_congr_right fun hlength => ?_
  constructor
  · intro h i
    by_cases hi : i < xs.length
    · have hi' : i < ys.length := hlength ▸ hi
      rw [List.getElem?_eq_getElem hi, List.getElem?_eq_getElem hi']
      exact .some (h i hi hi')
    · rw [List.getElem?_eq_none (not_lt.mp hi), List.getElem?_eq_none (hlength ▸ not_lt.mp hi)]
      exact .none
  · intro h i hi hi'
    have hrel := h i
    rw [List.getElem?_eq_getElem hi, List.getElem?_eq_getElem hi'] at hrel
    cases hrel with
    | some h => exact h

section Containers

variable {xs ys : List Value}

lemma matching_list : Matching leaf (.list xs) (.list ys) ↔ xs.Forall₂ (Matching leaf) ys := by
  rw [matching_iff, forall₂_iff_getElem?]
  refine and_congr_right fun _ => ⟨fun h i => h (.item i), ?_⟩
  rintro h (i | name)
  · exact h i
  · exact .none

lemma matching_tuple : Matching leaf (.tuple xs) (.tuple ys) ↔ xs.Forall₂ (Matching leaf) ys := by
  rw [matching_iff, forall₂_iff_getElem?]
  refine and_congr_right fun _ => ⟨fun h i => h (.item i), ?_⟩
  rintro h (i | name)
  · exact h i
  · exact .none

/-- Maps match if they have the same keys and match at each name. -/
lemma matching_map {readOnly readOnly' : Bool} {es fs : List (Value × Value)} :
    Matching leaf (.map readOnly es) (.map readOnly' fs) ↔
      (es.map (·.1)).Perm (fs.map (·.1)) ∧
      ∀ name, Option.Rel (Matching leaf) ((Value.map readOnly es).step? (.entry name))
        ((Value.map readOnly' fs).step? (.entry name)) := by
  rw [matching_iff]
  refine and_congr_right fun _ => ⟨fun h name => h (.entry name), ?_⟩
  rintro h (i | name)
  · exact .none
  · exact h name

end Containers

end Matching

/-! ## Equality -/

section Maps

variable {readOnly readOnly' : Bool} {es fs : List (Value × Value)}

/-- A step to a name leads to the value of the entry whose key it is. -/
lemma step?_entry (hes : (es.map (·.1)).Pairwise Apart) {name : String} {v : Value} :
    (Value.map readOnly es).step? (.entry name) = some v ↔
      ∃ e ∈ es, e.1 = .text name ∧ e.2 = v := by
  rw [step?, Option.map_eq_some_iff]
  constructor
  · rintro ⟨e, he, rfl⟩
    have hkey : isSameKey (.text name) e.1 = true :=
      List.find?_some (p := fun e : Value × Value => isSameKey (.text name) e.1) he
    exact ⟨e, List.mem_of_find?_eq_some he, isSameKey_text_left.mp hkey, rfl⟩
  · rintro ⟨e, he, hkey, rfl⟩
    have hsome : (es.find? (isSameKey (.text name) ·.1)).isSome = true :=
      List.find?_isSome.mpr ⟨e, he, isSameKey_text_left.mpr hkey⟩
    obtain ⟨e', he'⟩ := Option.isSome_iff_exists.mp hsome
    have hkey' : isSameKey (.text name) e'.1 = true :=
      List.find?_some (p := fun e : Value × Value => isSameKey (.text name) e.1) he'
    rw [← hkey] at hkey'
    exact ⟨e', he', congrArg Prod.snd
      (eq_of_isSameKey hes he (List.mem_of_find?_eq_some he') hkey').symm⟩

/-- Texts that are pairwise apart are all different. -/
lemma nodup_keys (hes : (es.map (·.1)).Pairwise Apart) (htext : ∀ e ∈ es, ∃ s, e.1 = .text s) :
    (es.map (·.1)).Nodup := by
  rw [List.Nodup, List.pairwise_map]
  refine (List.pairwise_map.mp hes).imp_of_mem fun {e f} he _ hapart heq => ?_
  obtain ⟨s, hs⟩ := htext e he
  rw [← heq, hs] at hapart
  exact absurd (hapart.1.symm.trans (isSameKey_text_left.mpr rfl)) Bool.false_ne_true

/-- Maps of texts match where they are of one size and each entry of the one has a partner in the
other, with the same key and a value that matches. -/
lemma matching_map_iff_partners {leaf : Value → Value → Except Number.Undefined Bool}
    (hes : (es.map (·.1)).Pairwise Apart) (hfs : (fs.map (·.1)).Pairwise Apart)
    (htext : ∀ e ∈ es, ∃ s, e.1 = .text s) :
    Matching leaf (.map readOnly es) (.map readOnly' fs) ↔
      es.length = fs.length ∧ ∀ e ∈ es, ∃ f ∈ fs, e.1 = f.1 ∧ Matching leaf e.2 f.2 := by
  rw [matching_map]
  constructor
  · rintro ⟨hperm, h⟩
    refine ⟨by simpa using hperm.length_eq, fun e he => ?_⟩
    obtain ⟨name, hname⟩ := htext e he
    have hrel := h name
    rw [(step?_entry hes).mpr ⟨e, he, hname, rfl⟩] at hrel
    cases hstep : (Value.map readOnly' fs).step? (.entry name) with
    | none =>
      rw [hstep] at hrel
      cases hrel
    | some w =>
      rw [hstep] at hrel
      obtain ⟨f, hf, hname', rfl⟩ := (step?_entry hfs).mp hstep
      cases hrel with
      | some hmatch => exact ⟨f, hf, hname.trans hname'.symm, hmatch⟩
  · rintro ⟨hlength, h⟩
    have hsubset : es.map (·.1) ⊆ fs.map (·.1) := by
      intro k hk
      obtain ⟨e, he, rfl⟩ := List.mem_map.mp hk
      obtain ⟨f, hf, hkey, -⟩ := h e he
      exact List.mem_map.mpr ⟨f, hf, hkey.symm⟩
    have hperm : (es.map (·.1)).Perm (fs.map (·.1)) :=
      ((nodup_keys hes htext).subperm hsubset).perm_of_length_le (by simp [hlength])
    refine ⟨hperm, fun name => ?_⟩
    cases hstep : (Value.map readOnly es).step? (.entry name) with
    | some v =>
      obtain ⟨e, he, hname, rfl⟩ := (step?_entry hes).mp hstep
      obtain ⟨f, hf, hkey, hmatch⟩ := h e he
      rw [(step?_entry hfs).mpr ⟨f, hf, hkey ▸ hname, rfl⟩]
      exact .some hmatch
    | none =>
      cases hstep' : (Value.map readOnly' fs).step? (.entry name) with
      | none => exact .none
      | some w =>
        obtain ⟨f, hf, hname, -⟩ := (step?_entry hfs).mp hstep'
        obtain ⟨e, he, hkey⟩ := List.mem_map.mp (hperm.mem_iff.mpr (List.mem_map_of_mem hf))
        rw [(step?_entry hes).mpr ⟨e, he, hkey.trans hname, rfl⟩] at hstep
        cases hstep

lemma equalWithin_map_iff_matching (ha : (Value.map readOnly es).Keyed)
    (hb : (Value.map readOnly' fs).Keyed)
    (ih : ∀ e ∈ es, ∀ f ∈ fs, e.2.equalWithin f.2 = .ok true ↔ Matching equalWithin e.2 f.2) :
    (Value.map readOnly es).equalWithin (.map readOnly' fs) = .ok true ↔
      Matching equalWithin (.map readOnly es) (.map readOnly' fs) := by
  have hcomparable : Comparable (.map readOnly es) (.map readOnly' fs) := hb.comparable ha.made
  have hkeys := hcomparable.keysMatch
  have hes := (everywhere_iff.mp ha.made).1
  have hfs := (everywhere_iff.mp hb.made).1
  have hftext := (everywhere_iff.mp hb.texts).1
  have hvalues : ∀ e ∈ es, ∀ f ∈ fs,
      e.2.equalWithin f.2 = .ok true ↔ f.2.equalWithin e.2 = .ok true :=
    fun e he f hf =>
      equalWithin_comm (hcomparable.parts (List.mem_map_of_mem he) (List.mem_map_of_mem hf))
  have hentry : ∀ e ∈ es, entryAmong fs e = .ok true ↔
      ∃ f ∈ fs, e.1 = f.1 ∧ Matching equalWithin e.2 f.2 := by
    intro e he
    rw [entryAmong_iff hkeys hfs he]
    refine exists_congr fun f => and_congr_right fun hf => ?_
    obtain ⟨s, hs⟩ := hftext f hf
    rw [hs, isSameKey_text_right, ih e he f hf]
  rw [equalWithin_map_eq_true hkeys hes hfs hvalues,
    matching_map_iff_partners hes hfs (everywhere_iff.mp ha.texts).1]
  exact and_congr_right fun _ => forall₂_congr hentry

end Maps

/-- What is compared as a value without others has none inside it. -/
lemma step?_eq_none {v : Value} (h : v.content?.isSome) (s : Step) : v.step? s = none := by
  cases v with
  | list | tuple | map => cases h
  | _ => rfl

/-- **Equality position by position.** Two values that containers hold are equal where they have one
structure and equal contents at every position. -/
theorem equalWithin_iff_matching {a b : Value} (ha : a.Keyed) (hb : b.Keyed) :
    a.equalWithin b = .ok true ↔ Matching equalWithin a b := by
  induction a using parts_induction generalizing b with
  | step a ih =>
    have ih : ∀ x ∈ a.parts, ∀ y ∈ b.parts, x.equalWithin y = .ok true ↔ Matching equalWithin x y :=
      fun x hx y hy => ih x hx (ha.parts hx) (hb.parts hy)
    fun_cases Corresponds equalWithin a b with
    | case1 xs ys =>
      rw [equalWithin_list_eq_true, matching_list]
      exact Outcome.forall₂_congr_of_mem ih
    | case2 xs ys =>
      rw [equalWithin_tuple_eq_true, matching_tuple]
      exact Outcome.forall₂_congr_of_mem ih
    | case3 _ es _ fs =>
      exact equalWithin_map_iff_matching ha hb fun e he f hf =>
        ih e.2 (List.mem_map_of_mem he) f.2 (List.mem_map_of_mem hf)
    | case4 a b hlist htuple hmap =>
      have hleaf : Corresponds equalWithin a b ↔ a.equalWithin b = .ok true := by
        rw [Corresponds] <;> assumption
      rw [matching_iff, hleaf]
      refine ⟨fun h => ⟨h, fun s => ?_⟩, And.left⟩
      cases pairing a b with
      | lists xs ys => exact (hlist xs ys rfl rfl).elim
      | tuples xs ys => exact (htuple xs ys rfl rfl).elim
      | maps readOnly readOnly' es fs => exact (hmap _ es _ fs rfl rfl).elim
      | sets frozen frozen' xs ys => exact .none
      | single within_eq =>
        obtain ⟨hcontent, hsome⟩ := equalSingle_eq_true.mp (within_eq ▸ h)
        rw [step?_eq_none hsome, step?_eq_none (hcontent ▸ hsome)]
        exact .none

/-- A number that stands nowhere on the number line. -/
def NotANumber (v : Value) : Prop :=
  ∃ n, v = .number n ∧ n.position = .nowhere

lemma notANumber_number {n : Number} : (Value.number n).NotANumber ↔ n.exactValue? = none := by
  rw [← Number.line?_position]
  constructor
  · rintro ⟨_, ⟨⟩, h⟩
    rw [h]
    rfl
  · intro h
    refine ⟨n, rfl, ?_⟩
    cases hp : n.position with
    | nowhere => rfl
    | _ => rw [hp] at h; cases h

/-- At the top values are equal as inside containers, unless they are one object that is not a
number. -/
lemma equal_iff_equalWithin {a b : Value} :
    a.equal b = .ok true ↔ a.equalWithin b = .ok true ∧ ¬ a.NotANumber := by
  by_cases hnumbers : ∃ m n, a = .number m ∧ b = .number n
  · obtain ⟨m, n, rfl, rfl⟩ := hnumbers
    have hwithin : (Value.number m).equalWithin (.number n) = m.equalWithin n := rfl
    rw [equal, hwithin, Number.equal_eq_true, Number.equalWithin_eq_true, notANumber_number]
    simp only [Sum.exists, Number.essence?_eq_inl, Number.essence?_eq_inr]
    constructor
    · rintro ⟨x, hm, hn⟩
      exact ⟨.inl ⟨x, hm, hn⟩, by simp [hm]⟩
    · rintro ⟨⟨x, hm, hn⟩ | ⟨k, ⟨hobject, -⟩, -⟩, hsome⟩
      · exact ⟨x, hm, hn⟩
      · exact absurd (Number.exactValue?_of_isSome_object? hobject) hsome
  · rw [equal_eq_equalWithin fun m n ha hb => hnumbers ⟨m, n, ha, hb⟩, iff_self_and]
    -- A truth value has an exact value, and other contents are those of no number.
    rintro h ⟨m, rfl, hm⟩
    have hnone := notANumber_number.mp ⟨m, rfl, hm⟩
    cases pairing (.number m) b with
    | single within_eq =>
      obtain ⟨hcontent, hsome⟩ := equalSingle_eq_true.mp (within_eq ▸ h)
      cases b with
      | number n => exact hnumbers ⟨m, n, rfl, rfl⟩
      | bool t =>
        have hvalue : m.essence? = (Number.int (if t then 1 else 0)).essence? :=
          Option.map_injective (fun _ _ => Content.number.inj) hcontent
        simp [Number.essence?_eq_inl.mp hvalue] at hnone
      | _ => simp_all [content?]

/-- Two values are equal where they have one structure and equal contents at every position, and the
first is not itself the number that is none. -/
theorem equal_iff_matching {a b : Value} (ha : a.Keyed) (hb : b.Keyed) :
    a.equal b = .ok true ↔ Matching equalWithin a b ∧ ¬ a.NotANumber := by
  rw [equal_iff_equalWithin, equalWithin_iff_matching ha hb]

/-! ## Operands -/

/-- At no position in both values is one a truth value and the other not. -/
def Unmixed (a b : Value) : Prop :=
  ∀ path x y, a.at? path = some x → b.at? path = some y → x.isBool = y.isBool

/-- At no position is the value a number that is none. -/
def IsDefined (v : Value) : Prop :=
  ∀ path x, v.at? path = some x → ¬ x.NotANumber

lemma corresponds_same {a b : Value} :
    Corresponds same a b ↔
      Corresponds equalWithin a b ∧ a.isBool = b.isBool ∧ ¬ a.NotANumber := by
  fun_cases Corresponds equalWithin a b with
  | case1 | case2 | case3 => simp [Corresponds, isBool, NotANumber]
  | case4 a b =>
    have hleaf : Corresponds same a b ↔ a.same b = .ok true := by
      rw [Corresponds] <;> assumption
    rw [hleaf, same_eq_true, equal_iff_equalWithin, and_left_comm]

lemma rel_and {r p : Value → Value → Prop} {o o' : Option Value} :
    Option.Rel (fun x y => r x y ∧ p x y) o o' ↔
      Option.Rel r o o' ∧ ∀ x y, o = some x → o' = some y → p x y := by
  constructor
  · rintro (⟨hr, hp⟩ | _)
    · exact ⟨.some hr, by simpa using hp⟩
    · exact ⟨.none, nofun⟩
  · rintro ⟨hr | _, hp⟩
    · exact .some ⟨hr, hp _ _ rfl rfl⟩
    · exact .none

/-- To match by the equality of operands at every position is to match, not to mix, and to be
defined everywhere. -/
lemma matching_same {a b : Value} :
    Matching same a b ↔ Matching equalWithin a b ∧ Unmixed a b ∧ a.IsDefined := by
  have hleaf : Corresponds same = fun x y =>
      Corresponds equalWithin x y ∧ x.isBool = y.isBool ∧ ¬ x.NotANumber := by
    funext x y
    exact propext corresponds_same
  simp only [Matching, hleaf, rel_and, forall_and]
  refine and_congr_right fun h => and_congr_right fun _ => ⟨fun hdefined path x hx => ?_, ?_⟩
  · have hrel := h path
    rw [hx] at hrel
    cases hy : b.at? path with
    | none => simp [hy] at hrel
    | some y => exact hdefined path x y hx hy
  · exact fun hdefined path x y hx _ => hdefined path x hx

lemma same_list_eq_true {xs ys : List Value} : (Value.list xs).same (.list ys) = .ok true ↔
    xs.Forall₂ (fun x y => x.equalWithin y = .ok true) ys :=
  same_eq_true.trans ((and_iff_right rfl).trans equalWithin_list_eq_true)

/-- **Equality of operands.** It goes by the top and by the content of every position: operands are
equal where either both or neither is a truth value, they match, and they are not themselves one
object that is not a number.  To be equal with one rule at every position they must moreover not mix
truth values with others further inside and hold no such object, and lists have to be so item by
item. -/
theorem same_iff_matching {a b : Value} (ha : a.Keyed) (hb : b.Keyed) :
    (a.same b = .ok true ↔
      a.isBool = b.isBool ∧ Matching equalWithin a b ∧ ¬ a.NotANumber) ∧
    (a.same b = .ok true ∧ Unmixed a b ∧ a.IsDefined ↔ Matching same a b) ∧
    ∀ xs ys : List Value,
      ((Value.list xs).same (.list ys) = .ok true ∧
          xs.Forall₂ (fun x y => x.isBool = y.isBool) ys ∧ (∀ x ∈ xs, ¬ x.NotANumber) ↔
        xs.Forall₂ (fun x y => x.same y = .ok true) ys) := by
  refine ⟨?_, ?_, fun xs ys => ?_⟩
  · rw [same_eq_true, equal_iff_matching ha hb]
  · rw [matching_same, same_eq_true, equal_iff_matching ha hb]
    constructor
    · rintro ⟨⟨-, hmatch, -⟩, hunmixed, hdefined⟩
      exact ⟨hmatch, hunmixed, hdefined⟩
    · rintro ⟨hmatch, hunmixed, hdefined⟩
      exact ⟨⟨hunmixed [] a b rfl rfl, hmatch, hdefined [] a rfl⟩, hunmixed, hdefined⟩
  · rw [same_list_eq_true, ← and_assoc, ← Outcome.forall₂_and, and_comm, ← List.forall₂_and_left]
    simp only [same_eq_true, equal_iff_equalWithin, and_comm, and_assoc]

lemma keyed_list {xs : List Value} (h : ∀ x ∈ xs, x.Keyed) : (Value.list xs).Keyed :=
  keyed_iff.mpr ⟨trivial, trivial, h⟩

lemma keyed_bool (b : Bool) : (Value.bool b).Keyed :=
  keyed_iff.mpr ⟨trivial, trivial, fun _ hw => absurd hw List.not_mem_nil⟩

lemma keyed_number {n : Number} (h : (Value.number n).Proper) : (Value.number n).Keyed :=
  keyed_iff.mpr ⟨h, trivial, fun _ hw => absurd hw List.not_mem_nil⟩

/-- A list of a truth value and a map, and one that differs from it in the kinds of a number and of
the map. -/
theorem kinds_do_not_matter :
    let a : Value := .list [.bool true, .map false [(.text "age", .number (.int 30))]]
    let b : Value := .list [.bool true, .map true [(.text "age", .number (.fraction 30))]]
    a.same b = .ok true ∧ Matching equalWithin a b := by
  intro a b
  have hmap : ∀ (readOnly : Bool) (n : Number), (Value.number n).Proper →
      (Value.map readOnly [(.text "age", .number n)]).Keyed := fun readOnly n hn =>
    keyed_iff.mpr ⟨List.pairwise_singleton _ _, List.forall_mem_singleton.mpr ⟨_, rfl⟩,
      List.forall_mem_singleton.mpr (keyed_number hn)⟩
  have hlist : ∀ v : Value, v.Keyed → (Value.list [.bool true, v]).Keyed := fun v hv =>
    keyed_list (List.forall_mem_cons.mpr ⟨keyed_bool true, List.forall_mem_singleton.mpr hv⟩)
  have ha : a.Keyed := hlist _ (hmap false (.int 30) trivial)
  have hb : b.Keyed := hlist _ (hmap true (.fraction 30) trivial)
  have hsame : a.same b = .ok true := by decide +kernel
  exact ⟨hsame, ((same_iff_matching ha hb).1.mp hsame).2.1⟩

/-- Equal operands may have a truth value where the other has a number. -/
theorem not_always_unmixed :
    ¬ ∀ a b : Value, a.Keyed → b.Keyed → a.same b = .ok true → Unmixed a b := by
  intro h
  have ha : (Value.list [.bool true]).Keyed :=
    keyed_list (List.forall_mem_singleton.mpr (keyed_bool true))
  have hb : (Value.list [.number (.int 1)]).Keyed :=
    keyed_list (List.forall_mem_singleton.mpr (keyed_number trivial))
  have hsame : (Value.list [.bool true]).same (.list [.number (.int 1)]) = .ok true := by
    decide +kernel
  exact Bool.noConfusion (h _ _ ha hb hsame [.item 0] _ _ rfl rfl)

end QueryTemplate.Value
