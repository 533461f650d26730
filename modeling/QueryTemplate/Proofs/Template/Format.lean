import QueryTemplate.Proofs.Outcome
import QueryTemplate.Proofs.Template.NormalForm
import QueryTemplate.Template.Format

/-!
# Formats and their parts

A format is written as a text, fields, and a text behind each field; in the texts every brace stands
twice.  Cutting it into pieces gives back the characters of the texts and the names of the fields
(`scan_source`), and a text taken character by character compiles to the same as the text as a whole
(`ofParts_letters`).  So a format compiles to what its texts and units compile to as parts.
-/

namespace QueryTemplate

/-- The characters of a text, braces twice. -/
def doubleBraces : List Char → List Char
  | [] => []
  | c :: cs =>
    if c = '\x7b' ∨ c = '\x7d' then c :: c :: doubleBraces cs else c :: doubleBraces cs

/-- A text with fields, and a text behind each of them. -/
structure Format where
  first : String
  fields : List (String × String)

namespace Format

/-- The names of the fields, in order. -/
def names (f : Format) : List String :=
  f.fields.map (·.1)

/-- What holds of all names holds of the name of each field. -/
lemma forall_fields {f : Format} {p : String → Prop} (h : ∀ n ∈ f.names, p n) :
    ∀ g ∈ f.fields, p g.1 :=
  fun g hg => h g.1 (List.mem_map_of_mem hg)

/-- Fields as they are written, each with the text behind it. -/
def fieldChars (fields : List (String × String)) : List Char :=
  fields.flatMap fun g => '\x7b' :: g.1.toList ++ '\x7d' :: doubleBraces g.2.toList

/-- The format as it is written. -/
def source (f : Format) : String :=
  String.ofList (doubleBraces f.first.toList ++ fieldChars f.fields)

/-- A name that stands between braces as it is. -/
structure IsName (n : String) : Prop where
  filled : n ≠ ""
  plain : ∀ c ∈ n.toList, c ≠ '\x7b' ∧ c ≠ '\x7d' ∧ c ≠ '[' ∧ c ≠ ':' ∧ c ≠ '!'

/-- The unit of this name. -/
def unit? (units : List (String × Part)) (n : String) : Option Part :=
  (units.find? (·.1 == n)).map (·.2)

/-- The units of fields, each with the text behind it, if there is a unit for every field. -/
def fieldParts (units : List (String × Part)) : List (String × String) → Option (List Part)
  | [] => some []
  | (n, s) :: rest => do
    let u ← unit? units n
    let ps ← fieldParts units rest
    some (u :: .text s :: ps)

/-- The parts that a format stands for. -/
def parts (units : List (String × Part)) (f : Format) : Option (List Part) :=
  (fieldParts units f.fields).map (.text f.first :: ·)

end Format

/-! ## Cutting a format into pieces -/

namespace FormatPiece

/-- With a step of fuel for every character the text is cut into these pieces. -/
def Cuts (cs : List Char) (ps : List FormatPiece) : Prop :=
  ∀ fuel, cs.length ≤ fuel → scanAll fuel cs = .ok ps

lemma cuts_nil : Cuts [] [] := by
  intro fuel _
  cases fuel <;> rfl

/-- A step that cuts off a piece and leaves a rest no longer than what follows. -/
lemma Cuts.step {c : Char} {cs rest : List Char} {p : FormatPiece} {ps : List FormatPiece}
    (h : Cuts rest ps) (hrest : rest.length ≤ cs.length)
    (hstep : ∀ fuel, scanAll (fuel + 1) (c :: cs) =
      scanAll fuel rest >>= fun pieces => .ok (p :: pieces)) : Cuts (c :: cs) (p :: ps) := by
  intro fuel hfuel
  rw [List.length_cons] at hfuel
  obtain ⟨k, rfl⟩ : ∃ k, fuel = k + 1 := ⟨fuel - 1, by omega⟩
  rw [hstep, h k (by omega), Outcome.ok_bind]

/-- A brace that stands twice is a character. -/
lemma Cuts.brace {c : Char} {cs : List Char} {ps : List FormatPiece} (h : Cuts cs ps)
    (hc : c = '\x7b' ∨ c = '\x7d') : Cuts (c :: c :: cs) (.character c :: ps) := by
  refine h.step (by simp) fun fuel => ?_
  rcases hc with rfl | rfl <;> rfl

/-- Every other character stands for itself. -/
lemma Cuts.character {c : Char} {cs : List Char} {ps : List FormatPiece} (h : Cuts cs ps)
    (hc : ¬ (c = '\x7b' ∨ c = '\x7d')) : Cuts (c :: cs) (.character c :: ps) := by
  obtain ⟨hopen, hclose⟩ := not_or.mp hc
  refine h.step le_rfl fun fuel => ?_
  rw [scanAll.eq_def]
  simp only [if_neg hopen, if_neg hclose]

/-- A text with its braces doubled is cut into its characters. -/
lemma Cuts.doubleBraces {cs : List Char} {ps : List FormatPiece} (h : Cuts cs ps) (s : List Char) :
    Cuts (doubleBraces s ++ cs) (s.map .character ++ ps) := by
  induction s with
  | nil => exact h
  | cons c s ih =>
    by_cases hc : c = '\x7b' ∨ c = '\x7d'
    · rw [QueryTemplate.doubleBraces, if_pos hc]
      exact ih.brace hc
    · rw [QueryTemplate.doubleBraces, if_neg hc]
      exact ih.character hc

lemma scanName_of_isName {n : List Char}
    (hn : ∀ c ∈ n, c ≠ '\x7b' ∧ c ≠ '\x7d' ∧ c ≠ '[' ∧ c ≠ ':' ∧ c ≠ '!') (cs : List Char) :
    scanName false (n ++ '\x7d' :: cs) = .ok (n, '\x7d', cs) := by
  induction n with
  | nil => rfl
  | cons c n ih =>
    obtain ⟨⟨h1, h2, h3, h4, h5⟩, hn⟩ := List.forall_mem_cons.mp hn
    rw [List.cons_append, scanName, if_neg (by simp), if_neg h1, if_neg (by simp [h2, h4, h5]),
      beq_eq_false_iff_ne.mpr h3, ih hn]
    rfl

/-- A field is cut off as one piece. -/
lemma Cuts.field {cs : List Char} {ps : List FormatPiece} (h : Cuts cs ps) {n : String}
    (hn : Format.IsName n) :
    Cuts ('\x7b' :: (n.toList ++ '\x7d' :: cs)) (.field n.toList false :: ps) := by
  obtain ⟨hfilled, hplain⟩ := hn
  have hfield : scanField (n.toList ++ '\x7d' :: cs) = .ok (.field n.toList false, cs) := by
    rw [scanField, scanName_of_isName hplain]
    rfl
  refine h.step (by simp; omega) fun fuel => ?_
  rcases hcs : n.toList with _ | ⟨c, rest⟩
  · exact absurd (String.toList_eq_nil_iff.mp hcs) hfilled
  · rw [hcs] at hplain hfield
    obtain ⟨⟨hopen, -⟩, -⟩ := List.forall_mem_cons.mp hplain
    rw [List.cons_append] at hfield ⊢
    simp only [scanAll, if_true, if_neg hopen, hfield, Outcome.ok_bind]

end FormatPiece

namespace Format

open FormatPiece

variable {units : List (String × Part)} {fields : List (String × String)}

/-- The pieces of a text. -/
def textPieces (s : String) : List FormatPiece :=
  s.toList.map .character

/-- The pieces of fields, each with the text behind it. -/
def fieldPieces (fields : List (String × String)) : List FormatPiece :=
  fields.flatMap fun g => .field g.1.toList false :: textPieces g.2

/-- The pieces of a format. -/
def pieces (f : Format) : List FormatPiece :=
  textPieces f.first ++ fieldPieces f.fields

lemma cuts_fields (h : ∀ g ∈ fields, IsName g.1) :
    Cuts (fieldChars fields) (fieldPieces fields) := by
  induction fields with
  | nil => exact cuts_nil
  | cons g fields ih =>
    obtain ⟨hg, hfields⟩ := List.forall_mem_cons.mp h
    simp only [fieldChars, fieldPieces, List.flatMap_cons, List.cons_append, List.append_assoc]
    exact ((ih hfields).doubleBraces g.2.toList).field hg

/-- Cutting a format gives its pieces back. -/
theorem scan_source {f : Format} (h : ∀ n ∈ f.names, IsName n) : scan f.source = .ok f.pieces := by
  have hcuts : Cuts f.source.toList f.pieces := by
    rw [source, String.toList_ofList]
    exact (cuts_fields (forall_fields h)).doubleBraces f.first.toList
  exact hcuts _ le_rfl

/-! ## The parts of the pieces -/

/-- The characters of a text, each as a part. -/
def letters (s : List Char) : List Part :=
  s.map fun c => .text (String.singleton c)

lemma mapM_part_text (s : String) (ps : List FormatPiece) :
    (textPieces s ++ ps).mapM (part units) =
      (ps.mapM (part units)).map (letters s.toList ++ ·) := by
  rw [textPieces]
  induction s.toList with
  | nil => simp [letters]
  | cons c s ih =>
    rw [List.map_cons, List.cons_append, List.mapM_cons, ih, part, Outcome.ok_bind]
    rcases ps.mapM (part units) with e | qs <;> rfl

lemma unit?_eq_none {n : String} : unit? units n = none ↔ n ∉ units.map (·.1) := by
  rw [unit?, Option.map_eq_none_iff, List.find?_eq_none, List.mem_map, not_exists]
  simp only [beq_iff_eq, not_and]

lemma exists_unit {n : String} (h : n ∈ units.map (·.1)) : ∃ u, unit? units n = some u :=
  Option.ne_none_iff_exists'.mp fun hnone => unit?_eq_none.mp hnone h

/-- A field is the unit of its name. -/
lemma part_field {n : String} (hn : IsName n) :
    part units (.field n.toList false) =
      match unit? units n with
      | none => .error (.unknownField n (units.map (·.1)))
      | some u => .ok u := by
  rw [part, String.ofList_toList, unit?]
  simp only [if_neg hn.filled, Bool.false_eq_true, if_false]
  cases units.find? (·.1 == n) <;> rfl

lemma mapM_part_field {n : String} (hn : IsName n) (s : String) (ps : List FormatPiece) :
    (.field n.toList false :: (textPieces s ++ ps)).mapM (part units) =
      match unit? units n with
      | none => .error (.unknownField n (units.map (·.1)))
      | some u => (ps.mapM (part units)).map fun qs => u :: (letters s.toList ++ qs) := by
  rw [List.mapM_cons, part_field hn, mapM_part_text]
  rcases unit? units n with _ | u
  · rfl
  · rcases ps.mapM (part units) with e | qs <;> rfl

lemma fieldPieces_cons (n s : String) (fields : List (String × String)) :
    fieldPieces ((n, s) :: fields) =
      .field n.toList false :: (textPieces s ++ fieldPieces fields) := by
  rw [fieldPieces, List.flatMap_cons, List.cons_append]
  rfl

/-- The first field without a unit is an error. -/
lemma mapM_part_missing {n : String} (h : ∀ g ∈ fields, IsName g.1)
    (hn : (fields.map (·.1)).find? (· ∉ units.map (·.1)) = some n) :
    (fieldPieces fields).mapM (part units) = .error (.unknownField n (units.map (·.1))) := by
  induction fields with
  | nil => simp at hn
  | cons g fields ih =>
    obtain ⟨hg, hfields⟩ := List.forall_mem_cons.mp h
    rw [fieldPieces_cons, mapM_part_field hg]
    rw [List.map_cons] at hn
    by_cases hmem : g.1 ∈ units.map (·.1)
    · obtain ⟨u, hu⟩ := exists_unit hmem
      rw [List.find?_cons_of_neg (by simpa using hmem)] at hn
      simp only [hu, ih hfields hn]
      rfl
    · rw [List.find?_cons_of_pos (by simpa using hmem)] at hn
      obtain rfl := Option.some.inj hn
      rw [unit?_eq_none.mpr hmem]

lemma filterMap_name_text (s : String) (ps : List FormatPiece) :
    (textPieces s ++ ps).filterMap name? = ps.filterMap name? := by
  rw [textPieces, List.filterMap_append]
  simp [Function.comp_def, name?]

lemma filterMap_name (f : Format) : f.pieces.filterMap name? = f.names := by
  rw [pieces, filterMap_name_text, names]
  induction f.fields with
  | nil => rfl
  | cons g fields ih =>
    rw [fieldPieces_cons, List.filterMap_cons]
    simp only [name?]
    rw [filterMap_name_text, ih, String.ofList_toList, List.map_cons]

end Format

/-! ## Parts in letters -/

namespace Template

/-- A part in front of others. -/
lemma ofParts_cons (p : Part) (ps : List Part) :
    ofParts (p :: ps) =
      p.segment.bind fun s => (ofParts ps).bind fun t => .ok ⟨s.cons t.segments⟩ := by
  simp only [ofParts, Part.segments, Traced.bind_assoc, Traced.ok_bind]
  rfl

/-- Parts that compile to the same do so behind the same part. -/
lemma ofParts_cons_congr {ps qs : List Part} (h : ofParts ps = ofParts qs) (p : Part) :
    ofParts (p :: ps) = ofParts (p :: qs) := by
  rw [ofParts_cons, h, ← ofParts_cons]

/-- A text may be taken letter by letter. -/
lemma ofParts_letters (s : List Char) (ps : List Part) :
    ofParts (Format.letters s ++ ps) = ofParts (.text (String.ofList s) :: ps) := by
  induction s with
  | nil =>
    simp only [ofParts_cons, Part.segment, Traced.ok_bind, String.ofList_nil, Segment.put_empty]
    exact (Traced.bind_ok _).symm
  | cons c s ih =>
    have hrest := ofParts_cons_congr ih (.text (String.singleton c))
    rw [Format.letters, List.map_cons, List.cons_append, ← Format.letters, hrest]
    simp only [ofParts_cons, Part.segment, Traced.ok_bind, Traced.bind_assoc,
      Segment.put_put_literal, ← String.ofList_cons]

end Template

namespace Format

variable {units : List (String × Part)} {fields : List (String × String)}

/-- Fields that all have units are cut into parts that compile to the same as the units. -/
lemma mapM_part_fields (h : ∀ g ∈ fields, IsName g.1)
    (hunits : ∀ g ∈ fields, g.1 ∈ units.map (·.1)) :
    ∃ ps qs, fieldParts units fields = some ps ∧
      (fieldPieces fields).mapM (FormatPiece.part units) = .ok qs ∧
      Template.ofParts qs = Template.ofParts ps := by
  induction fields with
  | nil => exact ⟨[], [], rfl, rfl, rfl⟩
  | cons g fields ih =>
    obtain ⟨n, s⟩ := g
    obtain ⟨hn, hfields⟩ := List.forall_mem_cons.mp h
    obtain ⟨hmem, hunits⟩ := List.forall_mem_cons.mp hunits
    obtain ⟨u, hu⟩ := exists_unit hmem
    obtain ⟨ps, qs, hps, hqs, hsame⟩ := ih hfields hunits
    refine ⟨u :: .text s :: ps, u :: (letters s.toList ++ qs), ?_, ?_, ?_⟩
    · simp [fieldParts, hu, hps]
    · rw [fieldPieces_cons, mapM_part_field hn, hu, hqs]
      rfl
    · refine Template.ofParts_cons_congr ?_ u
      rw [Template.ofParts_letters, String.ofList_toList]
      exact Template.ofParts_cons_congr hsame (.text s)

/-- A format is compiled once its fields and units are checked against each other. -/
lemma ofFormat_source {f : Format} (h : ∀ n ∈ f.names, IsName n)
    (hsource : "source" ∉ units.map (·.1)) :
    Part.ofFormat f.source units = f.pieces.mapM (FormatPiece.part units) >>= fun ps =>
      let unused := (units.map (·.1)).filter (· ∉ f.names)
      if unused.isEmpty then .ok ps else .error (.unused unused) := by
  have hany : units.any (·.1 == "source") = false := List.any_eq_false.mpr fun u hu heq =>
    hsource (List.mem_map.mpr ⟨u, hu, beq_iff_eq.mp heq⟩)
  have hused : (fun n => !f.names.contains n) = fun n => decide (n ∉ f.names) := by
    funext n
    simp
  rw [Part.ofFormat, hany, scan_source h, ← hused, ← filterMap_name]
  rfl

lemma ofFormat_reserved (source : String) (h : "source" ∈ units.map (·.1)) :
    Template.ofFormat source units = .error .reserved := by
  obtain ⟨u, hu, heq⟩ := List.mem_map.mp h
  have hany : units.any (·.1 == "source") = true :=
    List.any_eq_true.mpr ⟨u, hu, beq_iff_eq.mpr heq⟩
  rw [Template.ofFormat, Part.ofFormat, hany]
  rfl

/-- A format whose fields and units have the same names compiles to what its parts compile to. -/
lemma ofFormat_eq_ofParts {f : Format} (h : ∀ n ∈ f.names, IsName n)
    (hsource : "source" ∉ units.map (·.1)) (hunits : ∀ n, n ∈ f.names ↔ n ∈ units.map (·.1)) :
    ∃ ps, f.parts units = some ps ∧ Template.ofFormat f.source units = Template.ofParts ps := by
  have hknown : ∀ n ∈ f.names, n ∈ units.map (·.1) := fun n => (hunits n).mp
  obtain ⟨ps, qs, hps, hqs, hsame⟩ := mapM_part_fields (forall_fields h) (forall_fields hknown)
  have hunused : (units.map (·.1)).filter (· ∉ f.names) = [] :=
    List.filter_eq_nil_iff.mpr fun n hn => by simpa using (hunits n).mpr hn
  refine ⟨.text f.first :: ps, by rw [parts, hps]; rfl, ?_⟩
  rw [Template.ofFormat, ofFormat_source h hsource, pieces, mapM_part_text, hqs, hunused]
  calc Template.ofParts (letters f.first.toList ++ qs)
    _ = Template.ofParts (.text f.first :: qs) := by
      rw [Template.ofParts_letters, String.ofList_toList]
    _ = Template.ofParts (.text f.first :: ps) := Template.ofParts_cons_congr hsame _

/-- Otherwise the first field without a unit is to blame, or else the units without a field. -/
lemma ofFormat_mismatch {f : Format} (h : ∀ n ∈ f.names, IsName n)
    (hsource : "source" ∉ units.map (·.1)) (hunits : ¬ ∀ n, n ∈ f.names ↔ n ∈ units.map (·.1)) :
    Template.ofFormat f.source units = .error
      (match f.names.find? (· ∉ units.map (·.1)) with
        | some n => .unknownField n (units.map (·.1))
        | none => .unused ((units.map (·.1)).filter (· ∉ f.names))) := by
  rw [Template.ofFormat, ofFormat_source h hsource, pieces, mapM_part_text]
  rcases hfind : f.names.find? (· ∉ units.map (·.1)) with _ | n
  · have hknown : ∀ n ∈ f.names, n ∈ units.map (·.1) := fun n hn => by
      simpa using List.find?_eq_none.mp hfind n hn
    obtain ⟨ps, qs, -, hqs, -⟩ := mapM_part_fields (forall_fields h) (forall_fields hknown)
    have hunused : ((units.map (·.1)).filter (· ∉ f.names)).isEmpty = false := by
      by_contra hempty
      refine hunits fun n => ⟨hknown n, fun hn => ?_⟩
      rw [Bool.not_eq_false, List.isEmpty_iff, List.filter_eq_nil_iff] at hempty
      simpa using hempty n hn
    simp only [hqs, Except.map, Outcome.ok_bind, hunused, hfind]
    rfl
  · simp only [mapM_part_missing (forall_fields h) hfind, hfind]
    rfl

/-- **A format compiles as its parts.**  If its fields and units have the same names, a format
compiles to the same template, or fails with the same error, and reports the same, as its texts and
the units of its fields do as parts.  Otherwise it is refused for the first field without a unit, or
else for the units without a field; a unit with the name of the format itself is not even taken. -/
theorem compiles_as_parts {f : Format} (h : ∀ n ∈ f.names, IsName n ∧ n ≠ "source")
    (units : List (String × Part)) :
    ((∀ n, n ∈ f.names ↔ n ∈ units.map (·.1)) →
      ∃ ps, f.parts units = some ps ∧ Template.ofFormat f.source units = Template.ofParts ps) ∧
    ((¬ ∀ n, n ∈ f.names ↔ n ∈ units.map (·.1)) →
      Template.ofFormat f.source units = .error
        (if "source" ∈ units.map (·.1) then .reserved
        else match f.names.find? (· ∉ units.map (·.1)) with
          | some n => .unknownField n (units.map (·.1))
          | none => .unused ((units.map (·.1)).filter (· ∉ f.names)))) := by
  have hnames : ∀ n ∈ f.names, IsName n := fun n hn => (h n hn).1
  refine ⟨fun hunits => ?_, fun hunits => ?_⟩
  · exact ofFormat_eq_ofParts hnames (fun hs => (h _ ((hunits _).mpr hs)).2 rfl) hunits
  · split_ifs with hsource
    · exact ofFormat_reserved f.source hsource
    · exact ofFormat_mismatch hnames hsource hunits

/-- A field in braces of the text, and the same field again. -/
def braced : Format :=
  ⟨"\x7b", [("a", "\x7d"), ("a", "")]⟩

/-- Doubled braces are written once, and those of a unit stay. -/
theorem braced_compiles :
    braced.source = "\x7b\x7b\x7ba\x7d\x7d\x7d\x7ba\x7d" ∧
      (∀ n ∈ braced.names, IsName n ∧ n ≠ "source") ∧
      (Template.ofFormat braced.source [("a", .text "\x7b!\x7d")]).outcome =
        .ok ⟨[.literal "\x7b\x7b!\x7d\x7d\x7b!\x7d"]⟩ ∧
      Template.ofFormat braced.source [("b", .text "")] = .error (.unknownField "a" ["b"]) ∧
      Template.ofFormat braced.source [("a", .text ""), ("b", .text "")] =
        .error (.unused ["b"]) := by
  have hnames : ∀ n ∈ braced.names, IsName n ∧ n ≠ "source" := by
    intro n hn
    obtain rfl : n = "a" := by simpa [braced, names] using hn
    exact ⟨⟨by simp, by simp⟩, by simp⟩
  refine ⟨by decide +kernel, hnames, ?_, ?_, ?_⟩
  · obtain ⟨ps, hps, h⟩ := (compiles_as_parts hnames [("a", .text "\x7b!\x7d")]).1 (by
      simp [braced, names])
    obtain rfl : [.text "\x7b", .text "\x7b!\x7d", .text "\x7d", .text "\x7b!\x7d", .text ""] = ps :=
      Option.some.inj hps
    rw [h]
    rfl
  · exact (compiles_as_parts hnames [("b", .text "")]).2 (by simp [braced, names])
  · exact (compiles_as_parts hnames [("a", .text ""), ("b", .text "")]).2 (by
      simp [braced, names])

/-- So units that do not fit the fields are not always an error about either. -/
theorem not_every_mismatch_blamed :
    ¬ ∀ (f : Format) (units : List (String × Part)),
      (∀ n ∈ f.names, IsName n ∧ n ≠ "source") →
        (¬ ∀ n, n ∈ f.names ↔ n ∈ units.map (·.1)) →
          ∃ e, e ≠ .reserved ∧ Template.ofFormat f.source units = .error e := by
  intro h
  obtain ⟨e, hne, he⟩ := h ⟨"", []⟩ [("source", .text "x")] (by simp [names])
    (by simp [names])
  rw [ofFormat_reserved _ (by simp)] at he
  cases he
  exact hne rfl

end Format

end QueryTemplate
