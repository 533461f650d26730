import Mathlib.Tactic.Common
import QueryTemplate.Proofs.Expression.Lexemes

/-!
# The division of a text into tokens

The tokens of a text lie in it one behind the other, each is the longest beginning of its kind of
what stands at its place, and what is left between them is blank.  A text that has no tokens is
divided in this way up to the place that is reported, and nothing that begins there is spelled as a
lexeme.
-/

namespace QueryTemplate.Token

/-! ## Tokens in their places -/

/-- The tokens are cut out of the characters one behind the other, each as long as its kind allows,
and only blanks are left. -/
structure Divides (ts : List Token) (cs : List Char) : Prop where
  increasing : ts.Pairwise fun t u => t.position < u.position
  apart : ts.Pairwise fun t u => t.position + t.text.length ≤ u.position
  slice : ∀ t ∈ ts, t.text ≠ "" ∧ t.text.toList = (cs.drop t.position).take t.text.length
  spelled : ∀ t ∈ ts, Spelled (some t.kind) t.text.toList
  longest : ∀ t ∈ ts, ∀ w, w <+: cs.drop t.position → Spelled (some t.kind) w →
    w.length ≤ t.text.length
  blank : ∀ i c, cs[i]? = some c →
    (∀ t ∈ ts, i < t.position ∨ t.position + t.text.length ≤ i) → Text.isBlank c

variable {position n : ℕ} {c : Char} {cs rest : List Char} {ts : List Token}
  {kind? : Option TokenKind}

lemma Lexeme.length_text (h : Lexeme c rest kind? n) :
    (String.ofList (c :: rest.take n)).length = n + 1 := by
  rw [String.length_ofList, List.length_cons, List.length_take, Nat.min_eq_left h.le_length]

namespace Scanned

lemma apart (h : Scanned position cs ts) :
    ts.Pairwise fun t u => t.position + t.text.length ≤ u.position := by
  induction h with
  | nil => exact .nil
  | blanks _ _ ih => exact ih
  | @token position n _ _ _ _ here more ih =>
    refine List.pairwise_cons.mpr ⟨fun u hu => ?_, ih⟩
    have hle := more.le_position u hu
    dsimp only
    rw [here.length_text]
    omega

/-- A character that is in no token is blank. -/
lemma isBlank_of_outside (h : Scanned position cs ts) {i : ℕ} (hi : cs[i]? = some c)
    (hout : ∀ t ∈ ts, position + i < t.position ∨ t.position + t.text.length ≤ position + i) :
    Text.isBlank c := by
  induction h generalizing i with
  | nil => simp at hi
  | @blanks position n d rest ts here more ih =>
    by_cases hn : i < n + 1
    · have hmem : c ∈ (d :: rest).take (n + 1) :=
        List.mem_of_getElem? ((List.getElem?_take_of_lt hn).trans hi)
      rw [List.take_succ_cons] at hmem
      cases here.spelled with
      | blanks hblank => exact hblank c hmem
    · obtain ⟨j, rfl⟩ : ∃ j, i = j + (n + 1) := ⟨i - (n + 1), by omega⟩
      refine ih (i := j) ?_ fun t ht => ?_
      · rwa [List.getElem?_drop, Nat.add_comm n, ← List.getElem?_cons_succ (a := d)]
      · have := hout t ht
        omega
  | @token position n d rest kind ts here more ih =>
    obtain ⟨hhere, hmore⟩ := List.forall_mem_cons.mp hout
    rw [here.length_text] at hhere
    dsimp only at hhere
    obtain ⟨j, rfl⟩ : ∃ j, i = j + (n + 1) := ⟨i - (n + 1), by omega⟩
    refine ih (i := j) ?_ fun t ht => ?_
    · rwa [List.getElem?_drop, Nat.add_comm n, ← List.getElem?_cons_succ (a := d)]
    · have := hmore t ht
      omega

end Scanned

/-- Each token is what the scanner takes at its place. -/
lemma exists_lexeme?_of_scanFrom (whole : List Char) (h : scanFrom position cs = .ok ts)
    (hcs : whole.drop position = cs) : ∀ t ∈ ts, ∃ c rest n, whole.drop t.position = c :: rest ∧
      lexeme? c rest = some (some t.kind, n) ∧ t.text = String.ofList (c :: rest.take n) := by
  have hnext : ∀ {p n : ℕ} {c : Char} {rest : List Char}, whole.drop p = c :: rest →
      whole.drop (p + 1 + n) = rest.drop n := by
    intro p n c rest hp
    rw [Nat.add_assoc, ← List.drop_drop, hp, Nat.add_comm, List.drop_succ_cons]
  fun_induction scanFrom position cs generalizing ts with
  | case1 =>
    obtain rfl : [] = ts := by simpa using h
    simp
  | case2 | case3 => simp at h
  | case4 position c rest n ts' hmore hlex ih =>
    obtain rfl : ts' = ts := by simpa using h
    exact ih hmore (hnext hcs)
  | case5 position c rest n ts' hmore kind hlex ih =>
    obtain rfl := Except.ok.inj h
    exact List.forall_mem_cons.mpr ⟨⟨c, rest, n, hcs, hlex, rfl⟩, ih hmore (hnext hcs)⟩

/-- The tokens that are found divide the text. -/
lemma divides_of_scan {source : String} (h : scan source = .ok ts) : Divides ts source.toList := by
  have hscanned := scanned_of_scan h
  have hfound := exists_lexeme?_of_scanFrom source.toList h rfl
  have hpos : ∀ t ∈ ts, 0 < t.text.length := by
    intro t ht
    obtain ⟨c, rest, n, -, hlex, htext⟩ := hfound t ht
    rw [htext, (lexeme_of_eq_some hlex).length_text]
    exact Nat.succ_pos n
  refine ⟨?_, hscanned.apart, fun t ht => ?_, fun t ht => ?_, fun t ht w hw hspelled => ?_, ?_⟩
  · refine hscanned.apart.imp_of_mem fun ht _ hle => ?_
    have := hpos _ ht
    omega
  · obtain ⟨c, rest, n, hdrop, hlex, htext⟩ := hfound t ht
    refine ⟨fun hempty => ?_, ?_⟩
    · have := hpos t ht
      simp [hempty] at this
    · rw [hdrop, htext, (lexeme_of_eq_some hlex).length_text, String.toList_ofList,
        List.take_succ_cons]
  · obtain ⟨c, rest, n, -, hlex, htext⟩ := hfound t ht
    rw [htext, String.toList_ofList]
    exact (lexeme_of_eq_some hlex).spelled
  · obtain ⟨c, rest, n, hdrop, hlex, htext⟩ := hfound t ht
    rw [htext, (lexeme_of_eq_some hlex).length_text]
    obtain ⟨d, w, rfl⟩ := List.exists_cons_of_ne_nil hspelled.ne_nil
    rw [hdrop] at hw
    obtain ⟨rfl, hbegin⟩ := List.cons_prefix_cons.mp hw
    exact Nat.succ_le_succ ((lexeme?_eq_some_iff.mp hlex).2.2 _ _ hspelled hbegin)
  · intro i c hi hout
    exact hscanned.isBlank_of_outside hi (by simpa using hout)

/-! ## Where the tokens end -/

/-- Up to the place that is reported a text has tokens, and there the scanner takes nothing. -/
lemma exists_of_scanFrom_error {e : Unexpected} (h : scanFrom position cs = .error e) :
    ∃ before rest ts, cs = before ++ e.character :: rest ∧ e.position = position + before.length ∧
      scanFrom position before = .ok ts ∧ lexeme? e.character rest = none := by
  fun_induction scanFrom position cs with
  | case1 | case4 | case5 => simp at h
  | case2 position c rest hlex =>
    obtain rfl := Except.error.inj h
    exact ⟨[], rest, [], rfl, rfl, scanFrom_nil position, hlex⟩
  | case3 position c rest kind? n hlex e' hmore ih =>
    obtain rfl : e' = e := by simpa using h
    obtain ⟨before, more, ts, hrest, hposition, hbefore, hnone⟩ := ih hmore
    have hn := (lexeme_of_eq_some hlex).le_length
    have htake : rest.take (n + before.length) = rest.take n ++ before := by
      rw [List.take_add, hrest, List.take_left]
    have hcut := lexeme?_take hlex (Nat.le_add_right n before.length)
    have hdrop : (rest.take n ++ before).drop n = before := by
      rw [List.drop_append_of_le_length (by simp [hn]), List.drop_take, Nat.sub_self,
        List.take_zero, List.nil_append]
    rw [htake] at hcut
    have hfront : scanFrom position (c :: (rest.take n ++ before)) = _ := scanFrom_cons hcut
    rw [hdrop, hbefore] at hfront
    refine ⟨c :: (rest.take n ++ before), more, _, ?_, ?_, hfront, hnone⟩
    · rw [List.cons_append, List.append_assoc, ← hrest, List.take_append_drop]
    · rw [hposition, List.length_cons, List.length_append, List.length_take, Nat.min_eq_left hn]
      omega

/-- Every text either has tokens, which divide it, or it has tokens up to the place that is
reported, which divide what stands before that place, and at that place stands the character that
is reported, and neither blanks nor a token of any kind begin there. -/
theorem scan_divides (source : String) :
    (∃ ts, scan source = .ok ts ∧ Divides ts source.toList) ∨
      ∃ c position ts, scan source = .error ⟨c, position⟩ ∧ source.toList[position]? = some c ∧
        scan (String.ofList (source.toList.take position)) = .ok ts ∧
        Divides ts (source.toList.take position) ∧
        ∀ k w, w <+: source.toList.drop position → ¬ Spelled k w := by
  cases h : scan source with
  | ok ts => exact .inl ⟨ts, rfl, divides_of_scan h⟩
  | error e =>
    obtain ⟨before, rest, ts, hsource, hposition, hbefore, hnone⟩ := exists_of_scanFrom_error h
    rw [Nat.zero_add] at hposition
    have htake : source.toList.take e.position = before := by
      rw [hposition, hsource, List.take_left]
    have hscan : scan (String.ofList before) = .ok ts := by rwa [scan, String.toList_ofList]
    have hdivides := divides_of_scan hscan
    rw [String.toList_ofList] at hdivides
    refine .inr ⟨e.character, e.position, ts, rfl, ?_, ?_, ?_, fun k w hw hspelled => ?_⟩
    · rw [hsource, hposition, List.getElem?_append_right (Nat.le_refl _), Nat.sub_self]
      rfl
    · rwa [htake]
    · rwa [htake]
    · obtain ⟨d, w, rfl⟩ := List.exists_cons_of_ne_nil hspelled.ne_nil
      rw [hposition, hsource, List.drop_left] at hw
      obtain ⟨rfl, hbegin⟩ := List.cons_prefix_cons.mp hw
      exact lexeme?_eq_none_iff.mp hnone k w hbegin hspelled

end QueryTemplate.Token
