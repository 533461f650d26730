import QueryTemplate.Proofs.Document.Condition

/-!
# Decoded values

Decoding goes into the items of lists and the values of maps that can be written, and replaces each
tagged object that it meets by what its tag says.  What it gives holds no tagged object where it
would look for one (`Value.Decoded`), since what a tag says is neither a text nor a container that
is gone into.  Such values are exactly those that decode to themselves, so decoding a second time
changes nothing, and a comparison that is made anew from its own fields stays as it is.
-/

namespace QueryTemplate

namespace Value

/-- The values that decoding goes into. -/
def opened : Value → List Value
  | .list xs => xs
  | .map false es => es.map (·.2)
  | _ => []

/-- The value looks like a tagged object. -/
def LooksTagged : Value → Prop
  | .map _ es => IsTagged es
  | _ => False

/-- No tagged object stands where decoding looks for one. -/
inductive Decoded : Value → Prop where
  | intro {v : Value} (here : ¬ v.LooksTagged) (inside : ∀ w ∈ v.opened, Decoded w) : Decoded v

/-! ## Values that decode to themselves -/

/-- Where no tagged object is left, decoding changes nothing. -/
theorem Decoded.decode_eq {v : Value} (h : v.Decoded) : v.decode = .ok v := by
  induction h with
  | @intro v here _ ih =>
    cases v with
    | list xs =>
      have hitems : decodeEach xs = xs.map .ok := by
        rw [decodeEach_eq]
        exact List.map_congr_left ih
      rw [decode, hitems, Outcome.mapM_id_eq_ok.mpr rfl]
      rfl
    | map readOnly es =>
      cases readOnly with
      | true => exact decode_readOnly here
      | false =>
        have hentries : decodeEntries es = .ok es := by
          rw [decodeEntries_eq_ok]
          exact List.forall₂_same.mpr fun e he => ⟨rfl, ih e.2 (List.mem_map_of_mem he)⟩
        rw [decode_map here, hentries]
        rfl
    | _ => rfl

/-! ## What decoding gives -/

/-- What a tag says is not gone into. -/
lemma IsTagContent.decoded {v : Value} (h : v.IsTagContent) : v.Decoded := by
  cases v with
  | number | date | time | moment | tuple | set => exact .intro nofun nofun
  | _ => cases h

/-- Nothing but a text is read as that text. -/
lemma decode_eq_text {v : Value} {s : String} (h : v.decode = .ok (.text s)) : v = .text s := by
  cases v with
  | list xs =>
    obtain ⟨ys, -, hys⟩ := Outcome.map_eq_ok.mp h
    cases hys
  | map readOnly es =>
    by_cases htag : IsTagged es
    · exact (isTagContent_of_decode htag h).elim
    · cases readOnly with
      | true =>
        rw [decode_readOnly htag] at h
        cases h
      | false =>
        rw [decode_map htag] at h
        obtain ⟨fs, -, hfs⟩ := Outcome.map_eq_ok.mp h
        cases hfs
  | _ => exact Except.ok.inj h

/-- Two entries are decoded from two entries under the same keys. -/
lemma eq_pair_of_decodeEntries {es : List (Value × Value)} {k l v w : Value}
    (h : decodeEntries es = .ok [(k, v), (l, w)]) :
    ∃ a b, es = [(k, a), (l, b)] ∧ a.decode = .ok v ∧ b.decode = .ok w := by
  obtain ⟨⟨_, a⟩, es', ⟨rfl, ha⟩, htail, rfl⟩ :=
    List.forall₂_cons_right_iff.mp (decodeEntries_eq_ok.mp h)
  obtain ⟨⟨_, b⟩, es'', ⟨rfl, hb⟩, hend, rfl⟩ := List.forall₂_cons_right_iff.mp htail
  obtain rfl := List.forall₂_nil_right_iff.mp hend
  exact ⟨a, b, rfl, ha, hb⟩

/-- Decoding makes no tagged object of entries that were none, since a kind that is a text after
it was that text before. -/
lemma isTagged_of_decodeEntries {es fs : List (Value × Value)} (h : decodeEntries es = .ok fs)
    (hfs : IsTagged fs) : IsTagged es := by
  obtain ⟨kind, raw, rfl | rfl⟩ := hfs
  · obtain ⟨a, b, rfl, ha, -⟩ := eq_pair_of_decodeEntries h
    obtain rfl := decode_eq_text ha
    exact ⟨kind, b, .inl rfl⟩
  · obtain ⟨a, b, rfl, -, hb⟩ := eq_pair_of_decodeEntries h
    obtain rfl := decode_eq_text hb
    exact ⟨kind, a, .inr rfl⟩

/-- **Decoding leaves no tagged object** where it looks for one. -/
theorem decoded_of_decode {v w : Value} (h : v.decode = .ok w) : w.Decoded := by
  induction v using parts_induction generalizing w with
  | step v ih =>
    cases v with
    | list xs =>
      obtain ⟨ys, hys, rfl⟩ := Outcome.map_eq_ok.mp h
      rw [decodeEach_eq, Outcome.mapM_id_eq_ok] at hys
      refine .intro nofun fun y hy => ?_
      have hmem : Except.ok y ∈ xs.map decode := hys ▸ List.mem_map_of_mem hy
      obtain ⟨x, hx, hxy⟩ := List.mem_map.mp hmem
      exact ih x hx hxy
    | map readOnly es =>
      by_cases htag : IsTagged es
      · exact (isTagContent_of_decode htag h).decoded
      · cases readOnly with
        | true =>
          rw [decode_readOnly htag] at h
          obtain rfl := Except.ok.inj h
          exact .intro htag nofun
        | false =>
          rw [decode_map htag] at h
          obtain ⟨fs, hfs, rfl⟩ := Outcome.map_eq_ok.mp h
          refine .intro (fun htag' => htag (isTagged_of_decodeEntries hfs htag')) fun y hy => ?_
          obtain ⟨f, hf, rfl⟩ := List.mem_map.mp hy
          exact Outcome.forall_of_forall₂ (p := fun f => f.2.Decoded) (decodeEntries_eq_ok.mp hfs)
            (fun e he f hef => ih e.2 (List.mem_map_of_mem he) hef.2) f hf
    | _ =>
      obtain rfl := Except.ok.inj h
      exact .intro nofun nofun

/-- **Values that decode to themselves** are those without a tagged object where decoding looks
for one. -/
theorem decode_eq_self_iff {v : Value} : v.decode = .ok v ↔ v.Decoded :=
  ⟨decoded_of_decode, Decoded.decode_eq⟩

end Value

/-! ## Comparisons -/

namespace Condition

open Checked

/-- The fields of a comparison. -/
def comparisonFields (name : String) (op : Operator) (v : Value) : List (Value × Value) :=
  [(.text "name", .text name), (.text "op", .text op.text), (.text "value", v)]

/-- The value of a comparison has been decoded. -/
lemma decoded_of_simpleCondition {origin : Origin} {es : List (Value × Value)} {c : Condition}
    (h : simpleCondition origin "compare" es = .ok c) :
    ∃ name op v, c = .compare name op v ∧ v.Decoded := by
  obtain ⟨⟨name, op, v⟩, hfields, rfl⟩ := map_eq_ok.mp h
  obtain ⟨-, hrest⟩ := and_eq_ok.mp hfields
  obtain ⟨-, hvalue⟩ := and_eq_ok.mp hrest
  refine ⟨name, op, v, rfl, ?_⟩
  obtain ⟨-, rfl⟩ | ⟨given, -, hgiven⟩ := optional_eq_ok.mp hvalue
  · exact .intro nofun nofun
  · exact Value.decoded_of_decode (compareValue_eq_ok.mp hgiven)

/-- A comparison with a decoded value is made anew from its fields. -/
lemma simpleCondition_comparisonFields {origin : Origin} {name : String} {op : Operator}
    {v : Value} (h : v.Decoded) :
    simpleCondition origin "compare" (comparisonFields name op v) = .ok (.compare name op v) :=
  (simpleCondition_compare rfl rfl rfl).mpr h.decode_eq

end Condition

/-- **Decoding twice** is decoding once.  What decoding gives decodes to itself, as exactly those
values do that hold no tagged object where decoding looks for one; and a comparison, wherever its
fields came from, is made again from the fields it has. -/
theorem Value.decoded_values_stay (v : Value) (origin : Origin) (es : List (Value × Value)) :
    (∀ w, v.decode = .ok w → w.decode = .ok w) ∧
      (v.decode = .ok v ↔ v.Decoded) ∧
      ∀ c, Checked.simpleCondition origin "compare" es = .ok c →
        ∃ name op w, c = .compare name op w ∧ ∀ origin' : Origin,
          Checked.simpleCondition origin' "compare" (Condition.comparisonFields name op w) =
            .ok c := by
  refine ⟨fun w h => (Value.decoded_of_decode h).decode_eq, Value.decode_eq_self_iff, ?_⟩
  intro c h
  obtain ⟨name, op, w, rfl, hw⟩ := Condition.decoded_of_simpleCondition h
  exact ⟨name, op, w, rfl, fun _ => Condition.simpleCondition_comparisonFields hw⟩

namespace Value

/-- A tuple of the characters of a text, as a document has it. -/
def taggedLetters : Value :=
  .map false [(.text "value", .text "ab"), (.text "$kind", .text "tuple")]

/-- A map whose kind is no text but a list, with a tagged object shielded by a map that cannot be
written. -/
def nearlyTagged (kind : Value) : Value :=
  .map false
    [(.text "$kind", .list [kind]), (.text "value", .map true [(.text "a", taggedLetters)])]

/-- The tagged object inside the kind is replaced and the shielded one is not; decoding the outcome
or making a comparison of it once more changes nothing. -/
theorem nearlyTagged_stays :
    (nearlyTagged taggedLetters).decode = .ok (nearlyTagged (.tuple [.text "a", .text "b"])) ∧
      (nearlyTagged (.tuple [.text "a", .text "b"])).decode =
        .ok (nearlyTagged (.tuple [.text "a", .text "b"])) ∧
      Checked.simpleCondition .values "compare"
          (Condition.comparisonFields "p" .eq (nearlyTagged taggedLetters)) =
        .ok (.compare "p" .eq (nearlyTagged (.tuple [.text "a", .text "b"]))) ∧
      Checked.simpleCondition .values "compare"
          (Condition.comparisonFields "p" .eq (nearlyTagged (.tuple [.text "a", .text "b"]))) =
        .ok (.compare "p" .eq (nearlyTagged (.tuple [.text "a", .text "b"]))) := by
  have hdecode : (nearlyTagged taggedLetters).decode =
      .ok (nearlyTagged (.tuple [.text "a", .text "b"])) := rfl
  have hmade : Checked.simpleCondition .values "compare"
      (Condition.comparisonFields "p" .eq (nearlyTagged taggedLetters)) =
        .ok (.compare "p" .eq (nearlyTagged (.tuple [.text "a", .text "b"]))) :=
    (Condition.simpleCondition_compare rfl rfl rfl).mpr hdecode
  obtain ⟨htwice, -, hanew⟩ := decoded_values_stay (nearlyTagged taggedLetters) .values
    (Condition.comparisonFields "p" .eq (nearlyTagged taggedLetters))
  obtain ⟨name, op, w, hw, hagain⟩ := hanew _ hmade
  cases hw
  exact ⟨hdecode, htwice _ hdecode, hmade, hagain .values⟩

end Value

end QueryTemplate
