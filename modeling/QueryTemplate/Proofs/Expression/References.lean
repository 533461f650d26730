import QueryTemplate.Engine.Predicate
import QueryTemplate.Proofs.Expression.Reading
import QueryTemplate.Proofs.Expression.Scanning

/-!
# References and parameters

The references of an expression are found in its text, its parameters in its tree.  A lexeme is cut
into pieces apart from what follows it (`Lexeme.ofChars_append`), so the references of the text are
those of its tokens: each parameter refers to itself, operators and words and numbers to nothing,
and a quoted text to whatever looks like a reference in it.  So the two agree for the expressions
whose quoted texts hold nothing of the kind, and for no others.
-/

namespace QueryTemplate

open Text (isWordChar)

/-! ## Pieces of a text -/

namespace Piece

/-- What holds no at sign holds no reference. -/
lemma ofChars_append_of_not_mem {xs : List Char} (h : '@' ∉ xs) (ys : List Char) :
    ofChars (xs ++ ys) = xs.map .character ++ ofChars ys := by
  induction xs with
  | nil => rfl
  | cons x xs ih =>
    rw [List.mem_cons, not_or] at h
    rw [List.cons_append, ofChars, if_neg fun hx => h.1 hx.1.symm, ih h.2, List.map_cons,
      List.cons_append]

lemma filterMap_name?_characters (xs : List Char) : (xs.map character).filterMap name? = [] := by
  induction xs with
  | nil => rfl
  | cons x xs ih => rwa [List.map_cons, List.filterMap_cons_none rfl]

lemma flatMap_engineChars_characters (xs : List Char) :
    (xs.map character).flatMap engineChars = xs := by
  induction xs with
  | nil => rfl
  | cons x xs ih => rw [List.map_cons, List.flatMap_cons, ih, engineChars, List.singleton_append]

/-- A run of word characters ends where another character stands. -/
lemma word_append_cons {q : Char} (hq : isWordChar q = false) (xs ys : List Char) :
    (xs ++ q :: ys).takeWhile isWordChar = xs.takeWhile isWordChar ∧
      (xs ++ q :: ys).dropWhile isWordChar = xs.dropWhile isWordChar ++ q :: ys := by
  induction xs with
  | nil => simp [hq]
  | cons x xs ih => by_cases hx : isWordChar x <;> simp [hx, ih]

/-- No reference goes on beyond a character of no word. -/
lemma ofChars_append_cons {q : Char} (hq : isWordChar q = false) (hat : q ≠ '@')
    (xs ys : List Char) : ofChars (xs ++ q :: ys) = ofChars (xs ++ [q]) ++ ofChars ys := by
  fun_induction ofChars xs with
  | case1 => simp [ofChars, hat]
  | case2 c rest h ih =>
    have hhead : ∀ zs : List Char, (rest ++ zs).head? = rest.head? := by
      cases rest with
      | nil => simp at h
      | cons d rest => simp
    rw [List.cons_append, List.cons_append, ofChars, ofChars, hhead, hhead, if_pos h, if_pos h,
      (word_append_cons hq rest ys).1, (word_append_cons hq rest ys).2,
      (word_append_cons hq rest []).1, (word_append_cons hq rest []).2, ih, List.cons_append]
  | case3 c rest h ih =>
    have hnot : ∀ zs : List Char, ¬ (c = '@' ∧ (rest ++ q :: zs).head?.any isWordChar) := by
      intro zs
      cases rest with
      | nil => simp [hq]
      | cons d rest => simpa using h
    rw [List.cons_append, List.cons_append, ofChars, ofChars, if_neg (hnot ys), if_neg (hnot []),
      ih, List.cons_append]

/-- An at sign before a word refers to it. -/
lemma ofChars_at {cs : List Char} (h : cs.takeWhile isWordChar ≠ []) :
    ofChars ('@' :: cs) =
      .reference (cs.takeWhile isWordChar) :: ofChars (cs.dropWhile isWordChar) := by
  have hhead : cs.head?.any isWordChar := by
    cases cs with
    | nil => simp at h
    | cons c cs =>
      by_contra hc
      simp_all
  rw [ofChars, if_pos ⟨rfl, hhead⟩]

/-- An at sign with a word refers to it. -/
lemma ofChars_word {cs : List Char} (h : cs.takeWhile isWordChar ≠ []) :
    ofChars ('@' :: cs.takeWhile isWordChar) = [.reference (cs.takeWhile isWordChar)] := by
  have hword : ∀ c ∈ cs.takeWhile isWordChar, isWordChar c := fun c hc => List.mem_takeWhile_imp hc
  have hself := List.takeWhile_eq_self_iff.mpr hword
  rw [ofChars_at (by rwa [hself]), hself, List.dropWhile_eq_nil_iff.mpr hword, ofChars]

/-- The engine writes each reference with five characters more. -/
lemma length_flatMap_engineChars (ps : List Piece) :
    (ps.flatMap engineChars).length =
      (ps.flatMap source).length + 5 * (ps.filterMap name?).length := by
  induction ps with
  | nil => rfl
  | cons p ps ih =>
    rw [List.flatMap_cons, List.flatMap_cons, List.length_append, List.length_append, ih]
    cases p with
    | character c =>
      rw [List.filterMap_cons_none rfl]
      simp only [engineChars, source, List.length_singleton]
      omega
    | reference name =>
      have hnames : (reference name :: ps).filterMap name? =
          String.ofList name :: ps.filterMap name? := List.filterMap_cons_some rfl
      have hlength : (reference name).engineChars.length = name.length + 6 := by
        simp [engineChars]
      rw [hnames, hlength, List.length_cons, source, List.length_cons]
      omega

/-- Without references the engine's form is the text. -/
lemma flatMap_engineChars_eq {ps : List Piece} (h : ps.filterMap name? = []) :
    ps.flatMap engineChars = ps.flatMap source := by
  refine List.flatMap_congr fun p hp => ?_
  cases p with
  | character c => rfl
  | reference name => simpa [name?] using List.filterMap_eq_nil_iff.mp h _ hp

end Piece

/-! ## References of tokens -/

namespace Token

/-- The names that the text of a token refers to. -/
def references (t : Token) : List String :=
  (Piece.ofChars t.text.toList).filterMap Piece.name?

/-- The characters of a token with its references in the engine's form. -/
def referencesWritten (t : Token) : List Char :=
  (Piece.ofChars t.text.toList).flatMap Piece.engineChars

/-- The parameter that a token stands for. -/
def param? (t : Token) : Option String :=
  if t.kind = .param then some (String.ofList t.text.toList.tail) else none

/-- The characters of a token with parameters in the engine's form. -/
def paramsWritten (t : Token) : List Char :=
  match t.param? with
  | some name => (Engine.reference name).toList
  | none => t.text.toList

lemma length_referencesWritten (t : Token) :
    t.referencesWritten.length = t.text.toList.length + 5 * t.references.length := by
  rw [referencesWritten, Piece.length_flatMap_engineChars, Piece.flatMap_source_ofChars, references]

lemma referencesWritten_of_references {t : Token} (h : t.references = []) :
    t.referencesWritten = t.text.toList := by
  rw [referencesWritten, Piece.flatMap_engineChars_eq h, Piece.flatMap_source_ofChars]

variable {c : Char} {rest : List Char} {n : ℕ}

namespace Lexeme

/-- A lexeme is cut into pieces apart from what follows it. -/
lemma ofChars_append {kind? : Option TokenKind} (h : Lexeme c rest kind? n) :
    Piece.ofChars (c :: rest) =
      Piece.ofChars (c :: rest.take n) ++ Piece.ofChars (rest.drop n) := by
  by_cases hp : kind? = some .param
  · subst hp
    obtain ⟨rfl, htake, hdrop, hne⟩ := h.eq_of_param
    rw [htake, hdrop, Piece.ofChars_at hne, Piece.ofChars_word hne, List.singleton_append]
  by_cases hs : kind? = some .string
  · subst hs
    obtain ⟨body, q, hq, hrest, rfl⟩ := h.exists_of_string
    have hword : isWordChar q = false ∧ q ≠ '@' := by
      rcases hq with rfl | rfl <;> decide
    have htake : rest.take (body.length + 1) = body ++ [q] := by
      conv_lhs => rw [hrest]
      rw [List.take_length_add_append]
      rfl
    rw [htake, ← List.cons_append, ← Piece.ofChars_append_cons hword.1 hword.2, List.cons_append,
      ← hrest]
  · have hat := h.at_not_mem hp hs
    have hwhole := Piece.ofChars_append_of_not_mem hat (rest.drop n)
    have hhere := Piece.ofChars_append_of_not_mem hat []
    rw [List.append_nil, Piece.ofChars, List.append_nil] at hhere
    rw [hhere, ← hwhole, List.cons_append, List.take_append_drop]

/-- Without an at sign the pieces are characters. -/
lemma ofChars_eq {kind? : Option TokenKind} (h : Lexeme c rest kind? n)
    (hp : kind? ≠ some .param) (hs : kind? ≠ some .string) :
    Piece.ofChars (c :: rest.take n) = (c :: rest.take n).map .character := by
  have hpieces := Piece.ofChars_append_of_not_mem (h.at_not_mem hp hs) []
  rwa [List.append_nil, Piece.ofChars, List.append_nil] at hpieces

end Lexeme

namespace Scanned

variable {position : ℕ} {cs : List Char} {ts : List Token}

/-- The references of a text are those of its tokens. -/
lemma filterMap_name? (h : Scanned position cs ts) :
    (Piece.ofChars cs).filterMap Piece.name? = ts.flatMap references := by
  induction h with
  | nil => rw [Piece.ofChars, List.filterMap_nil, List.flatMap_nil]
  | blanks here more ih =>
    rw [here.ofChars_append, List.filterMap_append, ih, here.ofChars_eq (by simp) (by simp),
      Piece.filterMap_name?_characters, List.nil_append]
  | token here more ih =>
    rw [here.ofChars_append, List.filterMap_append, ih, List.flatMap_cons, references,
      String.toList_ofList]

/-- Writing the references of a text writes those of its tokens. -/
lemma flatMap_engineChars (h : Scanned position cs ts) :
    (Piece.ofChars cs).flatMap Piece.engineChars =
      replaceTokens referencesWritten position cs ts := by
  induction h with
  | nil => rw [Piece.ofChars, List.flatMap_nil, replaceTokens]
  | blanks here more ih =>
    rw [here.ofChars_append, List.flatMap_append, ih, replaceTokens_blanks here more,
      here.ofChars_eq (by simp) (by simp), Piece.flatMap_engineChars_characters]
  | token here more ih =>
    rw [here.ofChars_append, List.flatMap_append, ih, replaceTokens_token here, referencesWritten,
      String.toList_ofList]

/-- Outside quoted texts the references are the parameters, and are written alike. -/
lemma references_eq (h : Scanned position cs ts) : ∀ t ∈ ts, t.kind ≠ .string →
    t.references = t.param?.toList ∧ t.referencesWritten = t.paramsWritten := by
  induction h with
  | nil => simp
  | blanks _ _ ih => exact ih
  | @token position n c rest kind ts here more ih =>
    refine List.forall_mem_cons.mpr ⟨fun hs => ?_, ih⟩
    by_cases hp : kind = .param
    · subst hp
      obtain ⟨rfl, htake, -, hne⟩ := here.eq_of_param
      simp [references, referencesWritten, param?, paramsWritten, htake, Piece.ofChars_word hne,
        Piece.name?, Piece.engineChars, Engine.reference]
    · have hnone : references ⟨kind, String.ofList (c :: rest.take n), position⟩ = [] := by
        rw [references, String.toList_ofList,
          here.ofChars_eq (by simpa using hp) (by simpa using hs),
          Piece.filterMap_name?_characters]
      rw [hnone, referencesWritten_of_references hnone]
      simp [param?, paramsWritten, hp]

/-- The two ways of writing a text for the engine agree exactly where no quoted text holds a
reference. -/
lemma replaceTokens_eq_iff (h : Scanned position cs ts) :
    replaceTokens referencesWritten position cs ts = replaceTokens paramsWritten position cs ts ↔
      ∀ t ∈ ts, t.kind = .string → t.references = [] := by
  have hquoted : ∀ t : Token, t.kind = .string → t.paramsWritten = t.text.toList := by
    intro t ht
    simp [paramsWritten, param?, ht]
  constructor
  · intro heq t ht hs
    have hle : ∀ u ∈ ts, u.paramsWritten.length ≤ u.referencesWritten.length := by
      intro u hu
      by_cases hu' : u.kind = .string
      · rw [hquoted u hu', length_referencesWritten]
        exact Nat.le_add_right _ _
      · exact Nat.le_of_eq (congrArg List.length (h.references_eq u hu hu').2.symm)
    have hlength := congrArg List.length (h.eq_of_replaceTokens_eq hle heq.symm t ht)
    rw [hquoted t hs, length_referencesWritten] at hlength
    exact List.length_eq_zero_iff.mp (by omega)
  · intro hnone
    refine replaceTokens_congr fun t ht => ?_
    by_cases hs : t.kind = .string
    · rw [hquoted t hs, referencesWritten_of_references (hnone t ht hs)]
    · exact (h.references_eq t ht hs).2

end Scanned

end Token

/-! ## Parameters of a tree -/

namespace Grammar

open Token (ReadAs)

variable {limit : ℕ}

lemma param?_of_isOp {o : Token} {w : String} (h : o.isOp w) : o.param? = none := by
  simp [Token.param?, kind_of_isOp h]

lemma param?_of_isKeyword {o : Token} {w : String} (h : o.isKeyword w) : o.param? = none := by
  simp [Token.param?, kind_of_isKeyword h]

/-- A word or sign that connects operands is no parameter. -/
lemma param?_of_sign {o : Token} {w s : String} (h : (o.isKeyword w || o.isOp s) = true) :
    o.param? = none := by
  rcases Bool.or_eq_true_iff.mp h with h | h
  · exact param?_of_isKeyword h
  · exact param?_of_isOp h

lemma IsComparator.params {o : List Token} {op : Operator} (h : IsComparator o op) :
    o.filterMap Token.param? = [] := by
  cases h with
  | sign kind _ => simp [Token.param?, kind]
  | isIn hi => simp [param?_of_isKeyword hi]
  | notIn hn hi => simp [param?_of_isKeyword hn, param?_of_isKeyword hi]

/-- Connected operands have their parameters from left to right. -/
lemma params_connect {make : List Tree → Tree} (hmake : ∀ ts, (make ts).params = paramsOfAll ts)
    (t : Tree) (ts : List Tree) : (connect make (t :: ts)).params = t.params ++ paramsOfAll ts := by
  cases ts with
  | nil => simp [connect, paramsOfAll]
  | cons u us =>
    rw [connect, hmake, paramsOfAll]
    simp

mutual

/-- The parameters of a tree are those of its tokens. -/
theorem IsOr.params : ∀ {a : List Token} {t : Tree}, IsOr (ReadAs limit) a t →
    t.params = a.filterMap Token.param?
  | _, _, .mk first more => by
      rw [params_connect (fun _ => rfl), first.params, more.params, List.filterMap_append]

theorem IsOrTail.params : ∀ {a : List Token} {ts : List Tree}, IsOrTail (ReadAs limit) a ts →
    paramsOfAll ts = a.filterMap Token.param?
  | _, _, .nil => rfl
  | _, _, .cons ho next more => by
      rw [paramsOfAll, next.params, more.params, List.filterMap_cons_none (param?_of_sign ho),
        List.filterMap_append]

theorem IsAnd.params : ∀ {a : List Token} {t : Tree}, IsAnd (ReadAs limit) a t →
    t.params = a.filterMap Token.param?
  | _, _, .mk first more => by
      rw [params_connect (fun _ => rfl), first.params, more.params, List.filterMap_append]

theorem IsAndTail.params : ∀ {a : List Token} {ts : List Tree}, IsAndTail (ReadAs limit) a ts →
    paramsOfAll ts = a.filterMap Token.param?
  | _, _, .nil => rfl
  | _, _, .cons ho next more => by
      rw [paramsOfAll, next.params, more.params, List.filterMap_cons_none (param?_of_sign ho),
        List.filterMap_append]

theorem IsUnary.params : ∀ {a : List Token} {t : Tree}, IsUnary (ReadAs limit) a t →
    t.params = a.filterMap Token.param?
  | _, _, .not hn operand => by
      rw [Tree.params, operand.params, List.filterMap_cons_none (param?_of_sign hn)]
  | _, _, .comparison h => h.params

theorem IsComparison.params : ∀ {a : List Token} {t : Tree}, IsComparison (ReadAs limit) a t →
    t.params = a.filterMap Token.param?
  | _, _, .operand h => h.params
  | _, _, .compare left ho right => by
      rw [Tree.params, left.params, right.params, List.filterMap_append, List.filterMap_append,
        ho.params, List.nil_append]

theorem IsOperand.params : ∀ {a : List Token} {t : Tree}, IsOperand (ReadAs limit) a t →
    t.params = a.filterMap Token.param?
  | _, _, .param kind => by simp [Tree.params, Token.param?, kind]
  | _, _, .const hv => by rcases hv.kind with kind | kind <;> simp [Tree.params, Token.param?, kind]
  | _, _, .true ho | _, _, .false ho | _, _, .null ho => by
      simp [Tree.params, param?_of_isKeyword ho]
  | _, _, .group ho inner hc => by
      rw [inner.params, List.filterMap_cons_none (param?_of_isOp ho), List.filterMap_append,
        List.filterMap_cons_none (param?_of_isOp hc), List.filterMap_nil, List.append_nil]
  | _, _, .list _ ho items hc => by
      rw [Tree.params, items.params, List.filterMap_cons_none (param?_of_isOp ho),
        List.filterMap_append, List.filterMap_cons_none (param?_of_isOp hc), List.filterMap_nil,
        List.append_nil]

theorem IsList.params : ∀ {a : List Token} {ts : List Tree}, IsList (ReadAs limit) a ts →
    paramsOfAll ts = a.filterMap Token.param?
  | _, _, .nil => rfl
  | _, _, .cons first more => by
      rw [paramsOfAll, first.params, more.params, List.filterMap_append]

theorem IsListTail.params : ∀ {a : List Token} {ts : List Tree}, IsListTail (ReadAs limit) a ts →
    paramsOfAll ts = a.filterMap Token.param?
  | _, _, .nil => rfl
  | _, _, .cons ho next more => by
      rw [paramsOfAll, next.params, more.params, List.filterMap_cons_none (param?_of_isOp ho),
        List.filterMap_append]

end

end Grammar

/-! ## Expressions -/

/-- Keeping the first of equal names in turn keeps each name once. -/
lemma foldl_unseen (names seen : List String) :
    names.foldl (fun seen name => if seen.contains name then seen else seen ++ [name]) seen =
      seen ++ (names.filter fun name => !seen.contains name).eraseDups := by
  induction names generalizing seen with
  | nil => simp
  | cons name names ih =>
    rw [List.foldl_cons]
    by_cases h : seen.contains name
    · rw [if_pos h, ih, List.filter_cons_of_neg (by simpa using h)]
    · rw [if_neg h, ih, List.filter_cons_of_pos (by simpa using h), List.eraseDups_cons,
        List.filter_filter, List.append_assoc, List.singleton_append]
      congr 3
      refine List.filter_congr fun other _ => ?_
      simp [Bool.and_comm, beq_eq_decide]

lemma referencedParams_eq (source : String) :
    referencedParams source =
      ((Piece.ofChars source.toList).filterMap Piece.name?).eraseDups := by
  rw [referencedParams, foldl_unseen]
  simp

namespace Expression

/-- The text of an expression has tokens, which are its lexemes and have its tree. -/
lemma exists_scanned (e : Expression) : ∃ ts, Token.scan e.source = .ok ts ∧
    Token.Scanned 0 e.source.toList ts ∧ e.tree.params = ts.filterMap Token.param? := by
  obtain ⟨ts, hscan, htree⟩ := Grammar.parse_eq_ok_iff.mp e.parse_source
  exact ⟨ts, hscan, Token.scanned_of_scan hscan, htree.params⟩

/-- The text of an expression refers to each parameter of its tree. -/
lemma mem_referencedParams {e : Expression} {name : String} (h : name ∈ e.tree.params) :
    name ∈ referencedParams e.source := by
  obtain ⟨ts, -, hts, hparams⟩ := e.exists_scanned
  rw [hparams, List.mem_filterMap] at h
  obtain ⟨t, ht, hname⟩ := h
  have hkind : t.kind ≠ .string := by
    intro hs
    simp [Token.param?, hs] at hname
  rw [referencedParams_eq, hts.filterMap_name?, List.mem_eraseDups, List.mem_flatMap]
  exact ⟨t, ht, by rw [(hts.references_eq t ht hkind).1, hname]; simp⟩

/-- The parameters of an expression are those of its tokens from left to right.  The references of
its text, each once, are those of its tokens, quoted texts included, and writing the text for the
engine rewrites the references in each token and leaves everything else.  So the references are the
parameters of the tree, and only parameters are rewritten, exactly where no quoted text holds
something that looks like a reference. -/
theorem references_agree_iff (e : Expression) :
    ∃ ts, Token.scan e.source = .ok ts ∧
      e.tree.params = ts.filterMap Token.param? ∧
      referencedParams e.source = (ts.flatMap Token.references).eraseDups ∧
      engineSyntax e.source = String.ofList
        (Token.replaceTokens Token.referencesWritten 0 e.source.toList ts) ∧
      (∀ t ∈ ts, t.kind ≠ .string →
        t.references = t.param?.toList ∧ t.referencesWritten = t.paramsWritten) ∧
      ((referencedParams e.source = e.tree.params.eraseDups ∧
          engineSyntax e.source = String.ofList
            (Token.replaceTokens Token.paramsWritten 0 e.source.toList ts)) ↔
        ∀ t ∈ ts, t.kind = .string → t.references = []) := by
  obtain ⟨ts, hscan, hts, hparams⟩ := e.exists_scanned
  have hnames : referencedParams e.source = (ts.flatMap Token.references).eraseDups := by
    rw [referencedParams_eq, hts.filterMap_name?]
  have hengine : engineSyntax e.source = String.ofList
      (Token.replaceTokens Token.referencesWritten 0 e.source.toList ts) := by
    rw [engineSyntax, hts.flatMap_engineChars]
  refine ⟨ts, hscan, hparams, hnames, hengine, hts.references_eq, ?_⟩
  rw [hengine, String.ofList_inj, hts.replaceTokens_eq_iff]
  refine ⟨And.right, fun hnone => ⟨?_, hnone⟩⟩
  have hreferences : ∀ t ∈ ts, t.references = t.param?.toList := by
    intro t ht
    by_cases hs : t.kind = .string
    · rw [hnone t ht hs]
      simp [Token.param?, hs]
    · exact (hts.references_eq t ht hs).1
  rw [hnames, hparams, List.flatMap_congr hreferences, List.filterMap_eq_flatMap_toList]

/-- A parameter is compared with a text that holds an at sign. -/
def mailbox : Expression where
  source := "@mail == 'a@b'"
  tree := .compare .eq (.param "mail") (.const (.text "a@b"))
  parse_source := by
    have hscan : Token.scan "@mail == 'a@b'" =
        .ok [⟨.param, "@mail", 0⟩, ⟨.op, "==", 6⟩, ⟨.string, "'a@b'", 9⟩] := by decide +kernel
    rw [Tree.parse, hscan]
    rfl

/-- So not every expression has the references of its text for parameters. -/
theorem not_every_reference_is_param :
    ¬ ∀ e : Expression, ∃ ts, Token.scan e.source = .ok ts ∧
      referencedParams e.source = e.tree.params.eraseDups ∧
      engineSyntax e.source = String.ofList
        (Token.replaceTokens Token.paramsWritten 0 e.source.toList ts) := by
  intro h
  obtain ⟨-, -, hnames, -⟩ := h mailbox
  have hreferences : referencedParams mailbox.source = ["mail", "b"] := by decide +kernel
  rw [hreferences] at hnames
  exact absurd hnames (by decide)

end Expression

end QueryTemplate
