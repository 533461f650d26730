import Mathlib.Data.List.TakeWhile
import Mathlib.Tactic.Common
import QueryTemplate.Expression.Token

/-!
# How a text is cut into tokens

`Lexeme` says once what can begin at a place of a text and how far it reaches, and `Scanned` how the
lexemes follow each other.  What a scan gives is related to its text by `Scanned`, so facts about
all tokens of a text are proved by induction on that.  `replaceTokens` puts other characters in the
places of the tokens; because lexemes follow each other without a gap, it changes nothing else.
-/

namespace QueryTemplate.Token

/-! ## Lexemes -/

/-- A lexeme of this kind, none for blanks, begins with `c` before `rest` and has so many further
characters. -/
inductive Lexeme (c : Char) (rest : List Char) : Option TokenKind → ℕ → Prop where
  | blank (hc : Text.isBlank c) : Lexeme c rest none (rest.takeWhile Text.isBlank).length
  | param (hc : c = '@') (hrest : wordTail rest ≠ 0) :
      Lexeme c rest (some .param) (wordTail rest)
  | number (hc : Text.isDigit c) : Lexeme c rest (some .number) (numberTail rest)
  | negative {d : Char} {more : List Char} (hc : c = '-') (hrest : rest = d :: more)
      (hd : Text.isDigit d) : Lexeme c rest (some .number) (numberTail more + 1)
  | singleQuoted {n : ℕ} (hc : c = '\'') (closed : singleQuoted? rest = some n) :
      Lexeme c rest (some .string) n
  | doubleQuoted {n : ℕ} (hc : c = '"') (closed : doubleQuoted? rest = some n) :
      Lexeme c rest (some .string) n
  | pair (h : rest.head?.any (isPair c)) : Lexeme c rest (some .op) 1
  | sign (hc : isSingle c) : Lexeme c rest (some .op) 0
  | word (hc : c.isAlpha ∨ c = '_') : Lexeme c rest (some .word) (wordTail rest)

variable {c : Char} {rest : List Char} {kind? : Option TokenKind} {n : ℕ}

lemma lexeme_of_eq_some (h : lexeme? c rest = some (kind?, n)) : Lexeme c rest kind? n := by
  unfold lexeme? at h
  split_ifs at h with hblank hat hword hdigit hminus hsingle hdouble hpair hsign hletter
  · obtain ⟨rfl, rfl⟩ : none = kind? ∧ _ = n := by simpa using h
    exact .blank hblank
  · obtain ⟨rfl, rfl⟩ : some .param = kind? ∧ _ = n := by simpa using h
    exact .param hat hword
  · obtain ⟨rfl, rfl⟩ : some .number = kind? ∧ _ = n := by simpa using h
    exact .number hdigit
  · cases rest with
    | nil => simp at h
    | cons d more =>
      dsimp only at h
      split_ifs at h with hd
      obtain ⟨rfl, rfl⟩ : some .number = kind? ∧ _ = n := by simpa using h
      exact .negative hminus rfl hd
  · obtain ⟨m, hm, heq⟩ := Option.map_eq_some_iff.mp h
    obtain ⟨rfl, rfl⟩ : some .string = kind? ∧ m = n := by simpa using heq
    exact .singleQuoted hsingle hm
  · obtain ⟨m, hm, heq⟩ := Option.map_eq_some_iff.mp h
    obtain ⟨rfl, rfl⟩ : some .string = kind? ∧ m = n := by simpa using heq
    exact .doubleQuoted hdouble hm
  · obtain ⟨rfl, rfl⟩ : some .op = kind? ∧ _ = n := by simpa using h
    exact .pair hpair
  · obtain ⟨rfl, rfl⟩ : some .op = kind? ∧ _ = n := by simpa using h
    exact .sign hsign
  · obtain ⟨rfl, rfl⟩ : some .word = kind? ∧ _ = n := by simpa using h
    exact .word (by simpa using hletter)

/-- The longest run of characters of a class, counted off a text. -/
lemma take_length_takeWhile (p : Char → Bool) (cs : List Char) :
    cs.take (cs.takeWhile p).length = cs.takeWhile p :=
  (List.prefix_iff_eq_take.mp (List.takeWhile_prefix p)).symm

lemma drop_length_takeWhile (p : Char → Bool) (cs : List Char) :
    cs.drop (cs.takeWhile p).length = cs.dropWhile p := by
  induction cs with
  | nil => rfl
  | cons c cs ih => by_cases hc : p c <;> simp [hc, ih]

/-- A number holds digits and points. -/
lemma mem_take_numberTail {cs : List Char} {d : Char} (h : d ∈ cs.take (numberTail cs)) :
    Text.isDigit d ∨ d = '.' := by
  have hdigits : ∀ {ds : List Char}, d ∈ ds.take (ds.takeWhile Text.isDigit).length →
      Text.isDigit d := by
    intro ds hd
    rw [take_length_takeWhile] at hd
    exact List.mem_takeWhile_imp hd
  rw [numberTail] at h
  dsimp only at h
  split at h
  · next fraction hdrop =>
    split_ifs at h with hzero
    · exact .inl (hdigits h)
    · rw [Nat.add_assoc, List.take_add, hdrop, Nat.add_comm, List.take_succ_cons] at h
      rcases List.mem_append.mp h with h | h
      · exact .inl (hdigits h)
      · rcases List.mem_cons.mp h with rfl | h
        · exact .inr rfl
        · exact .inl (hdigits h)
  · exact .inl (hdigits h)

lemma at_ne_of_isPair {d : Char} (h : isPair c d) : '@' ≠ c ∧ '@' ≠ d := by
  unfold isPair at h
  split at h <;> first | exact absurd h (by decide) | decide

lemma numberTail_le_length (cs : List Char) : numberTail cs ≤ cs.length := by
  have hwhole := (List.takeWhile_sublist (l := cs) Text.isDigit).length_le
  rw [numberTail]
  dsimp only
  split
  · next fraction hdrop =>
    have hfraction := (List.takeWhile_sublist (l := fraction) Text.isDigit).length_le
    have hlength := congrArg List.length hdrop
    rw [List.length_drop, List.length_cons] at hlength
    split_ifs <;> omega
  · exact hwhole

lemma exists_of_singleQuoted {cs : List Char} {m : ℕ} (h : singleQuoted? cs = some m) :
    ∃ body, cs = body ++ '\'' :: cs.drop m ∧ m = body.length + 1 := by
  fun_induction singleQuoted? cs generalizing m with
  | case1 => simp at h
  | case2 rest k hk ih =>
    obtain ⟨body, hbody, rfl⟩ := ih hk
    obtain rfl : body.length + 1 + 2 = m := by simpa using h
    exact ⟨'\'' :: '\'' :: body, by simpa using hbody, rfl⟩
  | case3 rest hk =>
    obtain rfl : 1 = m := by simpa using h
    exact ⟨[], rfl, rfl⟩
  | case4 rest hne =>
    obtain rfl : 1 = m := by simpa using h
    exact ⟨[], rfl, rfl⟩
  | case5 c rest h₁ h₂ ih =>
    obtain ⟨k, hk, rfl⟩ := Option.map_eq_some_iff.mp h
    obtain ⟨body, hbody, rfl⟩ := ih hk
    exact ⟨c :: body, by simpa using hbody, rfl⟩

lemma exists_of_doubleQuoted {cs : List Char} {m : ℕ} (h : doubleQuoted? cs = some m) :
    ∃ body, cs = body ++ '"' :: cs.drop m ∧ m = body.length + 1 := by
  fun_induction doubleQuoted? cs generalizing m with
  | case1 => simp at h
  | case2 rest =>
    obtain rfl : 1 = m := by simpa using h
    exact ⟨[], rfl, rfl⟩
  | case3 => simp at h
  | case4 => simp at h
  | case5 c rest hne ih =>
    obtain ⟨k, hk, rfl⟩ := Option.map_eq_some_iff.mp h
    obtain ⟨body, hbody, rfl⟩ := ih hk
    exact ⟨'\\' :: c :: body, by simpa using hbody, rfl⟩
  | case6 c rest h₁ h₂ h₃ ih =>
    obtain ⟨k, hk, rfl⟩ := Option.map_eq_some_iff.mp h
    obtain ⟨body, hbody, rfl⟩ := ih hk
    exact ⟨c :: body, by simpa using hbody, rfl⟩

namespace Lexeme

/-- A quoted text ends with the mark that closes it. -/
lemma exists_of_string (h : Lexeme c rest (some .string) n) :
    ∃ body q, (q = '\'' ∨ q = '"') ∧ rest = body ++ q :: rest.drop n ∧ n = body.length + 1 := by
  cases h with
  | singleQuoted _ closed =>
    obtain ⟨body, hbody⟩ := exists_of_singleQuoted closed
    exact ⟨body, '\'', .inl rfl, hbody⟩
  | doubleQuoted _ closed =>
    obtain ⟨body, hbody⟩ := exists_of_doubleQuoted closed
    exact ⟨body, '"', .inr rfl, hbody⟩

/-- A lexeme is part of the text. -/
lemma le_length (h : Lexeme c rest kind? n) : n ≤ rest.length := by
  by_cases hs : kind? = some .string
  · subst hs
    obtain ⟨body, q, -, hrest, rfl⟩ := h.exists_of_string
    have hlength := congrArg List.length hrest
    rw [List.length_append, List.length_cons] at hlength
    omega
  · cases h with
    | blank | param | word => exact (List.takeWhile_sublist _).length_le
    | number => exact numberTail_le_length rest
    | negative hc hrest => exact hrest ▸ Nat.succ_le_succ (numberTail_le_length _)
    | singleQuoted | doubleQuoted => exact absurd rfl hs
    | pair h => cases rest <;> simp_all
    | sign => exact Nat.zero_le _

/-- A parameter is an at sign with the word behind it. -/
lemma eq_of_param (h : Lexeme c rest (some .param) n) :
    c = '@' ∧ rest.take n = rest.takeWhile Text.isWordChar ∧
      rest.drop n = rest.dropWhile Text.isWordChar ∧ rest.takeWhile Text.isWordChar ≠ [] := by
  cases h with
  | param hc hrest =>
    refine ⟨hc, take_length_takeWhile _ _, drop_length_takeWhile _ _, fun h => hrest ?_⟩
    rw [wordTail, h, List.length_nil]

/-- Only parameters and quoted texts hold an at sign. -/
lemma at_not_mem (h : Lexeme c rest kind? n) (hp : kind? ≠ some .param)
    (hs : kind? ≠ some .string) : '@' ∉ c :: rest.take n := by
  rw [List.mem_cons, not_or]
  cases h with
  | blank hc =>
    rw [take_length_takeWhile]
    refine ⟨?_, fun h => absurd (List.mem_takeWhile_imp h) (by decide)⟩
    rintro rfl
    exact absurd hc (by decide)
  | param => exact absurd rfl hp
  | number hc =>
    refine ⟨?_, fun h => ?_⟩
    · rintro rfl
      exact absurd hc (by decide)
    · rcases mem_take_numberTail h with h | h <;> exact absurd h (by decide)
  | @negative d more hc hrest hd =>
    subst hrest
    refine ⟨by rw [hc]; decide, fun h => ?_⟩
    rw [List.take_succ_cons, List.mem_cons] at h
    rcases h with rfl | h
    · exact absurd hd (by decide)
    · rcases mem_take_numberTail h with h | h <;> exact absurd h (by decide)
  | singleQuoted | doubleQuoted => exact absurd rfl hs
  | pair h =>
    cases rest with
    | nil => simp at h
    | cons d more => simpa using at_ne_of_isPair h
  | sign hc =>
    refine ⟨?_, by simp⟩
    rintro rfl
    exact absurd hc (by decide)
  | word hc =>
    rw [wordTail, take_length_takeWhile]
    refine ⟨?_, fun h => absurd (List.mem_takeWhile_imp h) (by decide)⟩
    rintro rfl
    exact absurd hc (by decide)

end Lexeme

/-! ## The lexemes of a text -/

/-- From this position on the text is cut into lexemes, which leave these tokens. -/
inductive Scanned : ℕ → List Char → List Token → Prop where
  | nil {position : ℕ} : Scanned position [] []
  | blanks {position n : ℕ} {c : Char} {rest : List Char} {ts : List Token}
      (here : Lexeme c rest none n) (more : Scanned (position + 1 + n) (rest.drop n) ts) :
      Scanned position (c :: rest) ts
  | token {position n : ℕ} {c : Char} {rest : List Char} {kind : TokenKind} {ts : List Token}
      (here : Lexeme c rest (some kind) n) (more : Scanned (position + 1 + n) (rest.drop n) ts) :
      Scanned position (c :: rest) (⟨kind, String.ofList (c :: rest.take n), position⟩ :: ts)

lemma scanned_of_scanFrom {position : ℕ} {cs : List Char} {ts : List Token}
    (h : scanFrom position cs = .ok ts) : Scanned position cs ts := by
  fun_induction scanFrom position cs generalizing ts with
  | case1 =>
    obtain rfl : [] = ts := by simpa using h
    exact .nil
  | case2 => simp at h
  | case3 => simp at h
  | case4 position c rest n ts' hmore hlex ih =>
    obtain rfl : ts' = ts := by simpa using h
    exact .blanks (lexeme_of_eq_some hlex) (ih hmore)
  | case5 position c rest n ts' hmore kind hlex ih =>
    obtain rfl := Except.ok.inj h
    exact .token (lexeme_of_eq_some hlex) (ih hmore)

/-- The tokens of a text stand where its lexemes do. -/
lemma scanned_of_scan {source : String} {ts : List Token} (h : scan source = .ok ts) :
    Scanned 0 source.toList ts :=
  scanned_of_scanFrom h

namespace Scanned

variable {position : ℕ} {cs : List Char} {ts : List Token}

lemma le_position (h : Scanned position cs ts) : ∀ t ∈ ts, position ≤ t.position := by
  induction h with
  | nil => simp
  | blanks _ _ ih => exact fun t ht => Nat.le_trans (by omega) (ih t ht)
  | token _ _ ih =>
    refine List.forall_mem_cons.mpr ⟨Nat.le_refl _, fun t ht => ?_⟩
    exact Nat.le_trans (by omega) (ih t ht)

end Scanned

/-! ## Other characters in the places of the tokens -/

/-- The text from `position` on with other characters in the place of each token. -/
def replaceTokens (write : Token → List Char) : ℕ → List Char → List Token → List Char
  | _, cs, [] => cs
  | position, cs, t :: ts =>
    cs.take (t.position - position) ++ write t ++
      replaceTokens write (t.position + t.text.length)
        (cs.drop (t.position - position + t.text.length)) ts

variable {write : Token → List Char}

lemma replaceTokens_congr {write' : Token → List Char} {position : ℕ} {cs : List Char}
    {ts : List Token} (h : ∀ t ∈ ts, write t = write' t) :
    replaceTokens write position cs ts = replaceTokens write' position cs ts := by
  induction ts generalizing position cs with
  | nil => rfl
  | cons t ts ih =>
    obtain ⟨ht, hts⟩ := List.forall_mem_cons.mp h
    rw [replaceTokens, replaceTokens, ht, ih hts]

/-- What stands before the first token stays. -/
lemma replaceTokens_append {position : ℕ} (xs cs : List Char) {ts : List Token}
    (h : ∀ t ∈ ts, position + xs.length ≤ t.position) :
    replaceTokens write position (xs ++ cs) ts =
      xs ++ replaceTokens write (position + xs.length) cs ts := by
  cases ts with
  | nil => rfl
  | cons t ts =>
    have hgap : t.position - position = xs.length + (t.position - (position + xs.length)) := by
      have := h t List.mem_cons_self
      omega
    rw [replaceTokens, replaceTokens, hgap, Nat.add_assoc, List.take_length_add_append,
      List.drop_length_add_append, List.append_assoc, List.append_assoc, List.append_assoc]

namespace Scanned

variable {position : ℕ} {cs : List Char} {ts : List Token}

/-- Blanks in front stay. -/
lemma replaceTokens_blanks (here : Lexeme c rest none n)
    (more : Scanned (position + 1 + n) (rest.drop n) ts) :
    replaceTokens write position (c :: rest) ts =
      c :: rest.take n ++ replaceTokens write (position + 1 + n) (rest.drop n) ts := by
  have hlength : (c :: rest.take n).length = 1 + n := by
    rw [List.length_cons, List.length_take, Nat.min_eq_left here.le_length, Nat.add_comm]
  have hpositions : ∀ t ∈ ts, position + (c :: rest.take n).length ≤ t.position := by
    rw [hlength, ← Nat.add_assoc]
    exact more.le_position
  rw [Nat.add_assoc, ← hlength, ← replaceTokens_append _ _ hpositions, List.cons_append,
    List.take_append_drop]

/-- A token in front is replaced. -/
lemma replaceTokens_token {kind : TokenKind} (here : Lexeme c rest (some kind) n) :
    replaceTokens write position (c :: rest)
        (⟨kind, String.ofList (c :: rest.take n), position⟩ :: ts) =
      write ⟨kind, String.ofList (c :: rest.take n), position⟩ ++
        replaceTokens write (position + 1 + n) (rest.drop n) ts := by
  have hlength : (String.ofList (c :: rest.take n)).length = n + 1 := by
    rw [String.length_ofList, List.length_cons, List.length_take, Nat.min_eq_left here.le_length]
  rw [replaceTokens]
  dsimp only
  rw [hlength, Nat.sub_self, Nat.zero_add, List.take_zero, List.nil_append, List.drop_succ_cons,
    Nat.add_comm n 1, ← Nat.add_assoc]

/-- Longer replacements make a longer text. -/
lemma length_replaceTokens_le {write' : Token → List Char} (h : Scanned position cs ts)
    (hle : ∀ t ∈ ts, (write t).length ≤ (write' t).length) :
    (replaceTokens write position cs ts).length ≤ (replaceTokens write' position cs ts).length := by
  induction h with
  | nil => exact Nat.le_refl _
  | blanks here more ih =>
    rw [replaceTokens_blanks here more, replaceTokens_blanks here more, List.length_append,
      List.length_append]
    exact Nat.add_le_add_left (ih hle) _
  | token here more ih =>
    obtain ⟨ht, hts⟩ := List.forall_mem_cons.mp hle
    rw [replaceTokens_token here, replaceTokens_token here, List.length_append, List.length_append]
    exact Nat.add_le_add ht (ih hts)

/-- Replacements that make the same text are the same, if none is longer on the other side. -/
lemma eq_of_replaceTokens_eq {write' : Token → List Char} (h : Scanned position cs ts)
    (hle : ∀ t ∈ ts, (write t).length ≤ (write' t).length)
    (heq : replaceTokens write position cs ts = replaceTokens write' position cs ts) :
    ∀ t ∈ ts, write t = write' t := by
  induction h with
  | nil => simp
  | blanks here more ih =>
    rw [replaceTokens_blanks here more, replaceTokens_blanks here more] at heq
    exact ih hle (List.append_cancel_left heq)
  | token here more ih =>
    obtain ⟨ht, hts⟩ := List.forall_mem_cons.mp hle
    rw [replaceTokens_token here, replaceTokens_token here] at heq
    have hrest := more.length_replaceTokens_le hts
    have hlength := congrArg List.length heq
    rw [List.length_append, List.length_append] at hlength
    obtain ⟨hhere, hmore⟩ := List.append_inj heq (by omega)
    exact List.forall_mem_cons.mpr ⟨hhere, ih hts hmore⟩

end Scanned

end QueryTemplate.Token
