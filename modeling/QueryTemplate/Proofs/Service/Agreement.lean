import QueryTemplate.CommandLine.Run
import QueryTemplate.Proofs.Evaluation.FromSource
import QueryTemplate.Proofs.Json.Reading
import QueryTemplate.Service.Respond

/-!
# The command line and the service agree

A command reports every error of the library, the service answers those of evaluation only.  The two
differ just where building a text ends with an error of the library that is not one of evaluation,
and none does: the only candidate is a malformed expression, and no template holds one.

The command reads its parameters from a text.  An integer of too many digits keeps it from reading
them, with an error that is not reported, while the service is given the object as it is.
-/

namespace QueryTemplate.Service

open CommandLine Outcome

/-- What a command leaves behind and what the service responds about the statement `name` say the
same.  What escapes from one escapes from the other. -/
structure SaySame {ε ε' : Type} (same : ε → ε' → Prop) (name : String) (command : Except ε Answer)
    (response : Except ε' Response) : Prop where
  built : ∀ text, (∃ notices, command = .ok ⟨0, text ++ "\n", notices⟩) ↔
    response = .ok (.built name text)
  failed : (∃ notices, command = .ok ⟨1, "", notices⟩) ↔
    ∃ r, response = .ok r ∧ (r.status = 404 ∨ r.status = 422)
  escapes : ∀ e, command = .error e → ∃ e', response = .error e' ∧ same e e'
  raised : ∀ e', response = .error e' → ∃ e, command = .error e ∧ same e e'

namespace SaySame

variable {ε ε' : Type} {name : String}

lemma of_text (text : String) (notices : List Notice) :
    SaySame (ε := ε) Eq name (.ok ⟨0, outputLines [text], notices⟩) (.ok (.built name text)) where
  built := by simp [outputLines]
  failed := by simp [Response.status]
  escapes := by simp
  raised := by simp

lemma of_failure (notices : List Notice) (reason : String) {r : Response}
    (h : r.status = 404 ∨ r.status = 422) :
    SaySame (ε := ε) Eq name (.ok (.failure notices reason)) (.ok r) where
  built text := by
    have hr : r ≠ .built name text := by
      rintro rfl
      simp [Response.status] at h
    simp [Answer.failure, hr]
  failed := by simp [Answer.failure, h]
  escapes := by simp
  raised := by simp

lemma of_error (e : ε) : SaySame Eq name (.error e) (.error e) where
  built := by simp
  failed := by simp
  escapes := by simp
  raised := by simp

/-- The errors of both may be renamed. -/
lemma mapError {α β : Type} {command : Except ε Answer} {response : Except ε Response}
    (h : SaySame Eq name command response) (f : ε → α) (g : ε → β) :
    SaySame (fun a b => ∃ e, f e = a ∧ g e = b) name (command.mapError f)
      (response.mapError g) where
  built text := by simp only [mapError_eq_ok, h.built]
  failed := by simp only [mapError_eq_ok, h.failed]
  escapes a ha := by
    obtain ⟨e, he, rfl⟩ := mapError_eq_error.mp ha
    obtain ⟨_, he', rfl⟩ := h.escapes e he
    exact ⟨_, mapError_eq_error.mpr ⟨e, he', rfl⟩, e, rfl, rfl⟩
  raised b hb := by
    obtain ⟨e, he, rfl⟩ := mapError_eq_error.mp hb
    obtain ⟨_, he', rfl⟩ := h.raised e he
    exact ⟨_, mapError_eq_error.mpr ⟨_, he', rfl⟩, _, rfl, rfl⟩

end SaySame

/-- The error of a program and that of the service are the one that a statement ended with. -/
def SameError (e : RunError) (e' : Crash) : Prop :=
  ∃ d : TemplateError, .template d = e ∧ .template d = e'

section Handlers

variable {ε : Type} {kind : ε → ErrorKind} {message : ε → String} {notices : List Notice}
  {name : String} {built : Option (Traced ε String)}

/-- The two say the same exactly when building ends with no error of the library besides those of
evaluation. -/
lemma saySame_iff :
    SaySame Eq name (buildAnswer kind message notices name built)
        (buildReply kind message name built) ↔
      ∀ b ∈ built, ∀ e, b.outcome = .error e → kind e ≠ .library := by
  rcases built with _ | ⟨e | text, more⟩
  · simpa [buildAnswer, buildReply] using .of_failure _ _ (.inl rfl)
  · cases hk : kind e with
    | evaluation => simpa [buildAnswer, buildReply, hk] using .of_failure _ _ (.inr rfl)
    | foreign => simpa [buildAnswer, buildReply, hk] using .of_error e
    | library =>
      -- The command reports the error and the service does not answer it.
      have hdiffer : ¬ SaySame Eq name (.ok (.failure (notices ++ more)
          ("Failed to build " ++ name ++ ": " ++ message e))) (.error e) := by
        intro h
        obtain ⟨_, hcommand, -⟩ := h.raised e rfl
        cases hcommand
      simpa [buildAnswer, buildReply, hk] using hdiffer
  · simpa [buildAnswer, buildReply] using .of_text text _

lemma buildReply_notFound_iff :
    (∃ r, buildReply kind message name built = .ok r ∧ r.status = 404) ↔ built = none := by
  rcases built with _ | ⟨e | text, more⟩
  · simp [buildReply, unknownStatement, Response.status]
  · cases hk : kind e <;> simp [buildReply, hk, Response.status]
  · simp [buildReply, Response.status]

lemma buildReply_unprocessable_iff :
    (∃ r, buildReply kind message name built = .ok r ∧ r.status = 422) ↔
      ∃ b ∈ built, ∃ e, b.outcome = .error e ∧ kind e = .evaluation := by
  rcases built with _ | ⟨e | text, more⟩
  · simp [buildReply, unknownStatement, Response.status]
  · cases hk : kind e <;> simp [buildReply, hk, Response.status]
  · simp [buildReply, Response.status]

end Handlers

/-! ## The entries of the program -/

lemma buildStatement_eq {s : Surroundings} {path : Option String} {text name : String}
    {catalog : Catalog} {notices : List Notice} {fields : List (String × Json)}
    (loaded : loadLibrary s path = .ok (.ok (catalog, notices)))
    (given : Json.read .parameters text = .ok (.object fields)) :
    buildStatement s name text path =
      (buildIn catalog notices name (.ofJson (.object fields))).mapError .template := by
  simp only [buildStatement, given, withLibrary, loaded]

lemma respond_build {catalog : Catalog} {r : Request} {name : String}
    {fields : List (String × Json)} (posted : r.method = .post)
    (target : Route.ofTarget? r.target = some (.build name))
    (body : bodyParams r.body = .ok (.object fields)) :
    respond catalog r =
      (buildResponse catalog name (.ofJson (.object fields))).mapError .template := by
  simp only [respond, posted, target, body]

/-- **The command line and the service give the same answer** about a statement of any catalog and
any object of parameters that is read from JSON.  A text is printed exactly when the service
responds with it, a command fails without output exactly when the response has the status 404 or
422, and an error escapes from the command exactly when it escapes from the service.  This is so
although evaluation may read every expression again, for it finds none malformed.  The same holds of
the programs, once the library is loaded and the request is one for the text of the statement: the
status is then 404 if no statement has the name, and 422 if its evaluation ends with an error of
evaluation. -/
theorem command_and_service_agree (catalog : Catalog) (name : String)
    (fields : List (String × Json)) :
    let params := Value.ofJson (.object fields)
    let built := catalog.buildFromSource? name params
    built = (catalog.build? name params).map (Traced.mapError .template) ∧
      (∀ notices, SaySame Eq name
        (buildAnswer SourceError.kind SourceError.message notices name built)
        (buildReply SourceError.kind SourceError.message name built)) ∧
      (∀ notices, SaySame Eq name (buildIn catalog notices name params)
        (buildResponse catalog name params)) ∧
      ∀ (s : Surroundings) (path : Option String) (text : String) (notices : List Notice)
        (r : Request), loadLibrary s path = .ok (.ok (catalog, notices)) →
        Json.read .parameters text = .ok (.object fields) → r.method = .post →
        Route.ofTarget? r.target = some (.build name) → bodyParams r.body = .ok (.object fields) →
        let response := respond catalog r
        SaySame SameError name (buildStatement s name text path) response ∧
          ((∃ a, response = .ok a ∧ a.status = 404) ↔ catalog.get? name = none) ∧
          ((∃ a, response = .ok a ∧ a.status = 422) ↔ ∃ t ∈ catalog.get? name,
            ∃ e, (t.evalWith params).outcome = .error e ∧ e.kind = .evaluation) := by
  intro params built
  have hbuilt : built = (catalog.build? name params).map (Traced.mapError .template) :=
    catalog.buildFromSource?_eq name params
  have hreread : ∀ b ∈ built, ∀ e, b.outcome = .error e → e.kind ≠ .library := by
    rw [hbuilt]
    rintro b hb e he
    obtain ⟨b, -, rfl⟩ := Option.map_eq_some_iff.mp hb
    obtain ⟨e, -, rfl⟩ := mapError_eq_error.mp he
    exact e.kind_ne_library
  have hsame : ∀ notices, SaySame Eq name (buildIn catalog notices name params)
      (buildResponse catalog name params) := fun notices =>
    saySame_iff.mpr fun _ _ e _ => e.kind_ne_library
  refine ⟨hbuilt, fun notices => saySame_iff.mpr hreread, hsame, ?_⟩
  intro s path text notices r loaded given posted target body response
  have hresponse : response = (buildResponse catalog name params).mapError .template :=
    respond_build posted target body
  rw [buildStatement_eq loaded given, hresponse]
  refine ⟨(hsame notices).mapError _ _, ?_, ?_⟩
  · simp only [mapError_eq_ok, buildResponse, buildReply_notFound_iff, Catalog.build?,
      Option.map_eq_none_iff]
  · simp only [mapError_eq_ok, buildResponse, buildReply_unprocessable_iff, Catalog.build?,
      Option.mem_def, Option.map_eq_some_iff, exists_exists_and_eq_and]

/-- Surroundings with one definition file, which defines one statement. -/
def oneStatement (name : String) (t : Template) : Surroundings :=
  ⟨fun _ => some (.file (.mapping [(.text name, .template t)])), none⟩

lemma loadLibrary_oneStatement (name : String) (t : Template) : ∃ notices,
    loadLibrary (oneStatement name t) (some "greetings.py") =
      .ok (.ok (⟨[(name, t)]⟩, notices)) := by
  have hpath : normalPath "greetings.py" = "greetings.py" := by decide +kernel
  have hread : readDefinitions "greetings.py" (.file (.mapping [(.text name, .template t)])) =
      .ok [(name, t)] := by
    have hsuffix : "greetings.py".endsWith definitionSuffix = true := by decide +kernel
    rw [readDefinitions, hsuffix]
    rfl
  refine ⟨[.defined name t.decisions.length, .loaded 1 "greetings.py"], ?_⟩
  simp only [loadLibrary, Option.getD_some, String.reduceEq, ↓reduceIte, Catalog.load,
    oneStatement, hpath, Catalog.loadFiles, hread]
  rfl

/-- A statement with an expression in a denial in a chain, and with a comparison behind it. -/
def greeting : Template :=
  let unseen : Expression :=
    { source := "!@seen"
      tree := .not (.param "seen")
      parse_source := by
        have hscan : Token.scan "!@seen" = .ok [⟨.op, "!", 0⟩, ⟨.param, "@seen", 1⟩] := by
          decide +kernel
        rw [Tree.parse, hscan]
        rfl }
  ⟨[.decision (.chain
    ⟨[⟨.noneOf [.isTrue unseen], "Welcome back"⟩, ⟨.compare "name" .ne .null, "Hello"⟩],
      none, none⟩)]⟩

/-- Without parameters its comparison has no answer: the command fails and the status is 422. -/
theorem greeting_without_name_fails :
    let catalog : Catalog := ⟨[("greeting", greeting)]⟩
    let s := oneStatement "greeting" greeting
    let r : Request :=
      ⟨.post, "/statements/greeting/build", some (.object [("params", .object [])])⟩
    (∃ notices, loadLibrary s (some "greetings.py") = .ok (.ok (catalog, notices))) ∧
      Json.read .parameters "\x7b\x7d" = .ok (.object []) ∧ r.method = .post ∧
      Route.ofTarget? r.target = some (.build "greeting") ∧
      bodyParams r.body = .ok (.object []) ∧
      (∃ a, respond catalog r = .ok a ∧ a.status = 422) ∧
      ∃ notices, buildStatement s "greeting" "\x7b\x7d" (some "greetings.py") =
        .ok ⟨1, "", notices⟩ := by
  intro catalog s r
  obtain ⟨notices, loaded⟩ := loadLibrary_oneStatement "greeting" greeting
  have given : Json.read .parameters "\x7b\x7d" = .ok (.object []) := rfl
  have target : Route.ofTarget? r.target = some (.build "greeting") := by decide +kernel
  have body : bodyParams r.body = .ok (.object []) := rfl
  obtain ⟨-, -, -, hagree⟩ := command_and_service_agree catalog "greeting" []
  obtain ⟨hsame, -, hunprocessable⟩ := hagree s _ _ _ r loaded given rfl target body
  have hresponse : ∃ a, respond catalog r = .ok a ∧ a.status = 422 :=
    hunprocessable.mpr ⟨greeting, rfl, .eval (.missingParameter "name"), rfl, rfl⟩
  refine ⟨⟨notices, loaded⟩, given, rfl, target, body, hresponse, hsame.failed.mpr ?_⟩
  obtain ⟨a, ha, hstatus⟩ := hresponse
  exact ⟨a, ha, .inr hstatus⟩

/-! ## Parameters that are not read -/

lemma maxDigits_lt_length {n : ℕ} (h : Nat.pow 10 maxDigits ≤ n) :
    maxDigits < (Nat.toDigits 10 n).length := by
  generalize hk : maxDigits = k at h
  have hpos : 0 < k := hk ▸ (by decide)
  exact Nat.lt_of_not_le ((Text.digitCount_lt_iff hpos).not.mpr (Nat.not_lt.mpr h))

/-- A text that stands for an object with an integer of too many digits is not read. -/
lemma read_tooLong {n : ℕ} (hlong : maxDigits < (Nat.toDigits 10 n).length) :
    Json.read .parameters (Json.render .compact (.object [("a", .int n)])) =
      .error (.tooLong (Nat.toDigits 10 n).length) := by
  have hchars : (Json.render .compact (.object [("a", .int n)])).toList =
      ['\x7b', '"', 'a', '"', ':'] ++ (Nat.toDigits 10 n ++ ['\x7d']) := by
    have hint : (Int.repr n).toList = Nat.toDigits 10 n := Nat.toList_repr
    have hname : Json.textChars "a" = ['"', 'a', '"'] := by decide
    simp [Json.render, Json.chars, Json.fieldChars, Json.Layout.lineBreak, Json.Layout.colon, hint,
      hname]
  have hends : Json.EndsNumber ['\x7d'] := by
    intro c hc
    obtain rfl := Option.some.inj hc
    decide
  have hvalue : ∀ k, Json.readValue .parameters (k + 1) (Nat.toDigits 10 n ++ ['\x7d']) =
      .error (.tooLong (Nat.toDigits 10 n).length) :=
    fun k => Json.readValue_tooLong hends hlong (Nat.succ_pos k)
  have hfields : ∀ k, Json.readFields .parameters (k + 2)
      ('"' :: 'a' :: '"' :: ':' :: (Nat.toDigits 10 n ++ ['\x7d'])) =
        .error (.tooLong (Nat.toDigits 10 n).length) := by
    intro k
    simp [Json.readFields, Json.skipBlanks, Json.readText, hvalue]
  have hobject : ∀ k, Json.readValue .parameters (k + 3)
      ('\x7b' :: '"' :: 'a' :: '"' :: ':' :: (Nat.toDigits 10 n ++ ['\x7d'])) =
        .error (.tooLong (Nat.toDigits 10 n).length) := by
    intro k
    simp [Json.readValue, Json.skipBlanks, hfields, Except.map]
  rw [Json.read, hchars]
  obtain ⟨k, hk⟩ := Nat.exists_eq_add_of_le' (m := 3)
    (n := 2 * ('\x7b' :: '"' :: 'a' :: '"' :: ':' :: (Nat.toDigits 10 n ++ ['\x7d'])).length + 2)
    (by simp only [List.length_cons]; omega)
  dsimp only [List.cons_append, List.nil_append]
  rw [hk, hobject]

lemma buildStatement_tooLong {n : ℕ} (h : Nat.pow 10 maxDigits ≤ n) (s : Surroundings)
    (name : String) (path : Option String) :
    ∃ e, buildStatement s name (Json.render .compact (.object [("a", .int n)])) path =
      .error e := by
  rw [buildStatement, read_tooLong (maxDigits_lt_length h)]
  exact ⟨_, rfl⟩

/-- The service answers a request with an integer of too many digits, and the command fails at it
with an error that it does not report. -/
theorem long_number_for_service_only :
    let catalog : Catalog := ⟨[("one", ⟨[.literal "x"]⟩)]⟩
    let s := oneStatement "one" ⟨[.literal "x"]⟩
    let params : Json := .object [("a", .int (Nat.pow 10 maxDigits : ℕ))]
    let r : Request := ⟨.post, "/statements/one/build", some (.object [("params", params)])⟩
    (∃ notices, loadLibrary s (some "greetings.py") = .ok (.ok (catalog, notices))) ∧
      respond catalog r = .ok (.built "one" "x") ∧
      ∃ e, buildStatement s "one" (params.render .compact) (some "greetings.py") = .error e := by
  intro catalog s params r
  have target : Route.ofTarget? r.target = some (.build "one") := by decide +kernel
  have hresponse : respond catalog r = .ok (.built "one" "x") := by
    rw [respond_build rfl target rfl]
    rfl
  exact ⟨loadLibrary_oneStatement _ _, hresponse, buildStatement_tooLong (Nat.le_refl _) s "one" _⟩

end QueryTemplate.Service
