import Mathlib.Tactic.Common
import SignOn.Endpoint.Directory
import SignOn.Proofs.Endpoint.Negotiation
import SignOn.Proofs.Text.Split
import SignOn.Proofs.Text.Utf8

/-!
# Whom a directory lets in

A handler that asks a directory knows a user on the word of the directory alone. The directory is
asked about a request only if this carries a user and a password, both are such that the directory
cannot take them for access without a user, and then it is asked once, with the password as it came
(`DirectoryHandler.Asks`). How it is asked depends on how it knows its users (`Naming.Calls`). The
user is authenticated exactly if the directory accepts and the full name can stand in a token
(`DirectoryHandler.bind_decides`).
-/

namespace SignOn

open SignOn.Http (Headers Request)

/-! ## Names -/

namespace Naming

/-- The name carries a domain or a host: its first separator stands behind another character. -/
def CarriesDomain (user : String) : Prop :=
  ∃ front separator back, user.toList = front ++ separator :: back ∧ front ≠ [] ∧
    (separator = '/' ∨ separator = '@') ∧ '/' ∉ front ∧ '@' ∉ front

/-- What the full name of a user is, and under which name the directory is asked about it. -/
inductive Calls : Naming → String → String → String → Prop
  | below (entry user : String) :
      Calls (.base entry) user user ("uid=" ++ user ++ "," ++ entry)
  | complete (suffix : String) {user : String} (h : CarriesDomain user) :
      Calls (.domain suffix) user user user
  | completed (suffix : String) {user : String} (h : ¬ CarriesDomain user) :
      Calls (.domain suffix) user (user ++ "@" ++ suffix) (user ++ "@" ++ suffix)

variable {naming : Naming} {user name entry : String}

theorem hasDomain_iff : hasDomain user = true ↔ CarriesDomain user := by
  have hSeparator : ∀ c : Char, (c == '/' || c == '@') = true ↔ c = '/' ∨ c = '@' := by
    simp
  unfold hasDomain
  constructor
  · intro h
    split at h
    · rename_i i hIndex
      obtain ⟨hLength, hAt, hBefore⟩ := List.findIdx?_eq_some_iff_getElem.mp hIndex
      have hFree : ∀ c ∈ user.toList.take i, ¬ (c = '/' ∨ c = '@') := by
        intro c hc
        obtain ⟨j, hj, rfl⟩ := List.mem_take_iff_getElem.mp hc
        rw [← hSeparator]
        exact hBefore j (by omega)
      refine ⟨user.toList.take i, _, user.toList.drop (i + 1), ?_, ?_, (hSeparator _).mp hAt,
        fun hc => hFree _ hc (.inl rfl), fun hc => hFree _ hc (.inr rfl)⟩
      · rw [← List.drop_eq_getElem_cons hLength, List.take_append_drop]
      · have hPositive : 0 < i := by simpa using h
        intro hNil
        have hZero := congrArg List.length hNil
        rw [List.length_take, List.length_nil] at hZero
        omega
    · cases h
  · rintro ⟨front, separator, back, hText, hFront, hAt, hSlash, hHost⟩
    have hNone : front.findIdx? (fun c => c == '/' || c == '@') = none := by
      rw [List.findIdx?_eq_none_iff]
      intro c hc
      rw [← Bool.not_eq_true, hSeparator]
      rintro (rfl | rfl)
      · exact hSlash hc
      · exact hHost hc
    have hPositive := List.length_pos_iff.mpr hFront
    rw [hText, List.findIdx?_append, hNone, List.findIdx?_cons, if_pos ((hSeparator _).mpr hAt)]
    simpa using hPositive

theorem calls_iff :
    naming.Calls user name entry ↔ name = naming.qualify user ∧ entry = naming.entryOf name := by
  constructor
  · intro h
    cases h with
    | below => exact ⟨rfl, rfl⟩
    | complete _ hDomain => exact ⟨by rw [qualify, if_pos (hasDomain_iff.mpr hDomain)], rfl⟩
    | completed _ hNone => exact ⟨by rw [qualify, if_neg (mt hasDomain_iff.mp hNone)], rfl⟩
  · rintro ⟨rfl, rfl⟩
    cases naming with
    | base entry => exact .below entry user
    | domain suffix =>
      rw [qualify, entryOf]
      split
      · rename_i hDomain
        exact .complete suffix (hasDomain_iff.mp hDomain)
      · rename_i hNone
        exact .completed suffix (mt hasDomain_iff.mpr hNone)

theorem Calls.name_ne_empty (h : naming.Calls user name entry) (hUser : user ≠ "") : name ≠ "" := by
  cases h with
  | below => exact hUser
  | complete => exact hUser
  | completed => simp

end Naming

/-! ## Credentials -/

/-- The request carries a user and a password: its credentials are basic and go on, in base64, with
the bytes of both with a colon between them. The colon is the first one. -/
def Http.Request.LogsIn (request : Request) (user password : String) : Prop :=
  ∃ credentials, credentials? request = some credentials ∧
    Scheme.basic.Introduces credentials
      (Text.Base64.encode (Text.Utf8.encode (user ++ ":" ++ password))) ∧
    ':' ∉ user.toList

namespace DirectoryHandler

variable {h : DirectoryHandler} {request : Request} {user password name : String}
  {question : BindRequest}

theorem cut_colon_iff {text : String} :
    ((Text.cut? ':' text.toList).map fun (front, back) =>
      (String.ofList front, String.ofList back)) = some (user, password) ↔
      text = user ++ ":" ++ password ∧ ':' ∉ user.toList := by
  rw [Option.map_eq_some_iff]
  constructor
  · rintro ⟨⟨front, back⟩, hCut, hEq⟩
    obtain ⟨hFront, hText⟩ := Text.cut?_eq_some_iff.mp hCut
    cases hEq
    refine ⟨?_, by rwa [String.toList_ofList]⟩
    rw [← String.toList_inj, hText]
    simp
  · rintro ⟨rfl, hUser⟩
    refine ⟨(user.toList, password.toList), Text.cut?_eq_some_iff.mpr ⟨hUser, ?_⟩, by simp⟩
    simp

theorem userAndPassword?_eq_some_iff {encoded : String} :
    userAndPassword? encoded = some (user, password) ↔
      encoded = Text.Base64.encode (Text.Utf8.encode (user ++ ":" ++ password)) ∧
        ':' ∉ user.toList := by
  unfold userAndPassword?
  rw [← Text.Base64.decode?_eq_some_iff]
  cases Text.Base64.decode? encoded with
  | none => simp
  | some bytes =>
    rw [Option.map_some, Option.some.injEq, ← Text.Utf8.decode_eq_ok_iff]
    cases Text.Utf8.decode bytes with
    | error e => simp
    | ok text =>
      rw [Except.ok.injEq]
      exact cut_colon_iff

theorem logsIn_iff :
    request.LogsIn user password ↔
      (credentials? request).bind (fun text =>
        (Scheme.basic.behind? text).bind userAndPassword?) = some (user, password) := by
  rw [Http.Request.LogsIn, Option.bind_eq_some_iff]
  simp only [Option.bind_eq_some_iff, Scheme.behind?_eq_some_iff, userAndPassword?_eq_some_iff]
  constructor
  · rintro ⟨credentials, hCredentials, hBasic, hUser⟩
    exact ⟨credentials, hCredentials, _, hBasic, rfl, hUser⟩
  · rintro ⟨credentials, hCredentials, _, hBasic, rfl, hUser⟩
    exact ⟨credentials, hCredentials, hBasic, hUser⟩

theorem logsIn_unique {user' password' : String} (hLog : request.LogsIn user password)
    (hLog' : request.LogsIn user' password') : user = user' ∧ password = password' := by
  rw [logsIn_iff] at hLog hLog'
  exact Prod.mk.inj (Option.some.inj (hLog.symm.trans hLog'))

theorem isBlankPassword_eq_false_iff :
    isBlankPassword password = false ↔ password ≠ "" ∧ ∀ rest, password ≠ "\x00" ++ rest := by
  have hZero : password.toList.head? = some '\x00' ↔ ∃ rest, password = "\x00" ++ rest := by
    rw [List.head?_eq_some_iff]
    constructor
    · rintro ⟨rest, hText⟩
      refine ⟨String.ofList rest, ?_⟩
      rw [← String.toList_inj, hText]
      simp
    · rintro ⟨rest, rfl⟩
      exact ⟨rest.toList, by simp⟩
  rw [isBlankPassword, Bool.or_eq_false_iff, beq_eq_false_iff_ne, Ne, hZero, not_exists]
  simp [String.isEmpty_iff, ← Bool.not_eq_true]

/-! ## Asking -/

/-- The directory has to be asked this question about a request. The request carries a user, whose
full name this is, and the password in question. -/
structure Asks (h : DirectoryHandler) (request : Request) (user name : String)
    (question : BindRequest) : Prop where
  carried : request.LogsIn user question.password
  named : user ≠ ""
  guarded : question.password ≠ "" ∧ ∀ rest, question.password ≠ "\x00" ++ rest
  called : h.naming.Calls user name question.name
  directory : question.url = h.url ∧ question.transport = h.transport ∧ question.anyHost = h.anyHost

theorem asks_iff :
    h.Asks request user name question ↔
      request.LogsIn user question.password ∧ user ≠ "" ∧
        isBlankPassword question.password = false ∧ name = h.naming.qualify user ∧
        question = h.bindRequest name question.password := by
  constructor
  · rintro ⟨hCarried, hUser, hPassword, hCalled, hUrl, hTransport, hHost⟩
    obtain ⟨hName, hEntry⟩ := Naming.calls_iff.mp hCalled
    refine ⟨hCarried, hUser, isBlankPassword_eq_false_iff.mpr hPassword, hName, ?_⟩
    cases question
    simp_all [bindRequest]
  · rintro ⟨hCarried, hUser, hPassword, hName, hQuestion⟩
    refine ⟨hCarried, hUser, isBlankPassword_eq_false_iff.mp hPassword,
      Naming.calls_iff.mpr ⟨hName, ?_⟩, ?_⟩
    · rw [hQuestion]
      rfl
    · rw [hQuestion]
      exact ⟨rfl, rfl, rfl⟩

theorem Asks.unique {user' name' : String} {question' : BindRequest}
    (hAsks : h.Asks request user name question) (hAsks' : h.Asks request user' name' question') :
    user = user' ∧ name = name' ∧ question = question' := by
  obtain ⟨hCarried, -, -, hName, hQuestion⟩ := asks_iff.mp hAsks
  obtain ⟨hCarried', -, -, hName', hQuestion'⟩ := asks_iff.mp hAsks'
  obtain ⟨rfl, hPassword⟩ := logsIn_unique hCarried hCarried'
  rw [← hName'] at hName
  rw [hName, hPassword, ← hQuestion'] at hQuestion
  exact ⟨rfl, hName, hQuestion⟩

/-! ## Answers -/

/-- What follows from the answer of the directory about the user of a full name. -/
def verdict (h : DirectoryHandler) (name : String) : Except String Unit → Result Outcome
  | .ok () => (Token.make name name usualKind).map .ofToken
  | .error _ => refuse (.refused (h.naming.entryOf name))

theorem authenticateUser_of_named (hUser : user ≠ "")
    (hPassword : isBlankPassword password = false) :
    h.authenticateUser user password =
      .bind (h.bindRequest (h.naming.qualify user) password)
        (h.verdict (h.naming.qualify user)) := by
  have hFull : ¬ user.isEmpty = true := by simpa [String.isEmpty_iff] using hUser
  rw [authenticateUser, if_neg hFull]
  simp only [hPassword, Bool.false_eq_true, if_false]
  rfl

theorem authenticateUser_of_blank (hBlank : user = "" ∨ isBlankPassword password = true) :
    ∃ fault, h.authenticateUser user password = .done (refuse fault) := by
  unfold authenticateUser
  by_cases hUser : user = ""
  · rw [if_pos (by simp [hUser])]
    exact ⟨_, rfl⟩
  · have hFull : ¬ user.isEmpty = true := by simpa [String.isEmpty_iff] using hUser
    rw [if_neg hFull]
    simp only [hBlank.resolve_left hUser, if_true]
    exact ⟨_, rfl⟩

theorem authenticate_of_logsIn (hLog : request.LogsIn user password) :
    h.authenticate request = h.authenticateUser user password := by
  rw [authenticate, logsIn_iff.mp hLog]

/-- An attempt asks the directory, or it is decided without it and nobody is authenticated. -/
theorem authenticate_cases (h : DirectoryHandler) (request : Request) :
    (∃ user name question, h.Asks request user name question ∧
      h.authenticate request = .bind question (h.verdict name)) ∨
    (∀ user name question, ¬ h.Asks request user name question) ∧
      ∃ result, h.authenticate request = .done result ∧
        ∀ token headers, result ≠ .ok (.authenticated token headers) := by
  -- A request without a user and a password is challenged, and a blank one of either is refused.
  by_cases hLogs : ∃ user password, request.LogsIn user password
  · obtain ⟨user, password, hLog⟩ := hLogs
    rw [authenticate_of_logsIn hLog]
    by_cases hBlank : user = "" ∨ isBlankPassword password = true
    · right
      obtain ⟨fault, hDone⟩ := authenticateUser_of_blank (h := h) hBlank
      refine ⟨?_, _, hDone, nofun⟩
      intro user' name question hAsks
      obtain ⟨hLog', hUser, hPassword, -, -⟩ := asks_iff.mp hAsks
      obtain ⟨rfl, rfl⟩ := logsIn_unique hLog hLog'
      rcases hBlank with hNone | hZero
      · exact hUser hNone
      · rw [hPassword] at hZero
        cases hZero
    · left
      rw [not_or, Bool.not_eq_true] at hBlank
      obtain ⟨hUser, hPassword⟩ := hBlank
      refine ⟨user, h.naming.qualify user, h.bindRequest (h.naming.qualify user) password, ?_,
        authenticateUser_of_named hUser hPassword⟩
      exact asks_iff.mpr ⟨hLog, hUser, hPassword, rfl, rfl⟩
  · right
    refine ⟨fun user name question hAsks => hLogs ⟨user, _, hAsks.carried⟩, ?_⟩
    unfold authenticate
    split
    · rename_i user password hRead
      exact absurd ⟨user, password, logsIn_iff.mpr hRead⟩ hLogs
    · exact ⟨_, rfl, nofun⟩

theorem Asks.name_ne_empty (hAsks : h.Asks request user name question) : name ≠ "" :=
  hAsks.called.name_ne_empty hAsks.named

theorem verdict_authenticated_iff (hName : name ≠ "") {answer : Except String Unit} {token : Token}
    {headers : Headers} :
    h.verdict name answer = .ok (.authenticated token headers) ↔
      answer = .ok () ∧ '&' ∉ name.toList ∧
        token = { user := name, principal := name, kind := "ldap" } ∧ headers = {} := by
  cases answer with
  | error reason => simp [verdict, refuse]
  | ok =>
    rw [verdict, map_eq_ok_iff]
    constructor
    · rintro ⟨made, hMade, hToken⟩
      obtain ⟨rfl, hFields⟩ := Token.make_eq_ok_iff.mp hMade
      cases hToken
      exact ⟨rfl, (Token.isField_iff.mp hFields.user).2, rfl, rfl⟩
    · rintro ⟨-, hFree, rfl, rfl⟩
      have hField : Token.isField name = true := Token.isField_iff.mpr ⟨hName, hFree⟩
      have hKind : Token.isField usualKind = true := by decide
      exact ⟨_, Token.make_eq_ok_iff.mpr ⟨rfl, hField, hField, hKind⟩, rfl⟩

/-! ## Who is authenticated -/

/-- **The directory decides whom its handler lets in.** A request is authenticated exactly if the
directory has to be asked about it, accepts, and knows the user by a full name without ampersands;
the token is that of the full name. If the directory has to be asked, it is asked once and just this
question, with an effect of any kind, and nothing but its answer decides. Otherwise it is not asked,
and nobody is authenticated; so it is never asked about nobody or with a password that counts as
blank. -/
theorem bind_decides (h : DirectoryHandler) (request : Request) :
    (∀ authorities token headers,
      (h.authenticate request).run authorities = .ok (.authenticated token headers) ↔
        ∃ user name question, h.Asks request user name question ∧
          authorities.bind question = .ok () ∧ '&' ∉ name.toList ∧
          token = { user := name, principal := name, kind := "ldap" } ∧ headers = {}) ∧
    (∀ user name question, h.Asks request user name question →
      ∃ next : Except String Unit → Result Outcome,
        (∀ answer token headers, next answer = .ok (.authenticated token headers) ↔
          answer = .ok () ∧ '&' ∉ name.toList ∧
            token = { user := name, principal := name, kind := "ldap" } ∧ headers = {}) ∧
        ∀ (m : Type → Type) [Monad m] (bind : BindRequest → m (Except String Unit)) accept,
          (h.authenticate request).perform bind accept = do
            let answer ← bind question
            return next answer) ∧
    ((∀ user name question, ¬ h.Asks request user name question) →
      ∃ result, (∀ token headers, result ≠ .ok (.authenticated token headers)) ∧
        ∀ (m : Type → Type) [Monad m] (bind : BindRequest → m (Except String Unit)) accept,
          (h.authenticate request).perform bind accept = pure result) := by
  obtain ⟨user, name, question, hAsks, hAttempt⟩ | ⟨hNone, result, hAttempt, hResult⟩ :=
    authenticate_cases h request
  · rw [hAttempt]
    refine ⟨?_, ?_, fun hNone => absurd hAsks (hNone user name question)⟩
    · intro authorities token headers
      rw [Attempt.run, verdict_authenticated_iff hAsks.name_ne_empty]
      constructor
      · rintro ⟨hAnswer, hToken⟩
        exact ⟨user, name, question, hAsks, hAnswer, hToken⟩
      · rintro ⟨user', name', question', hAsks', hAnswer, hToken⟩
        obtain ⟨rfl, rfl, rfl⟩ := hAsks.unique hAsks'
        exact ⟨hAnswer, hToken⟩
    · intro user' name' question' hAsks'
      obtain ⟨rfl, rfl, rfl⟩ := hAsks.unique hAsks'
      refine ⟨h.verdict name, ?_, ?_⟩
      · intro answer token headers
        exact verdict_authenticated_iff hAsks.name_ne_empty
      · intro m _ bind accept
        rw [Attempt.perform]
  · rw [hAttempt]
    refine ⟨?_, fun user name question hAsks => absurd hAsks (hNone user name question), ?_⟩
    · intro authorities token headers
      rw [Attempt.run]
      constructor
      · intro hToken
        exact absurd hToken (hResult token headers)
      · rintro ⟨user, name, question, hAsks, -⟩
        exact absurd hAsks (hNone user name question)
    · intro _
      refine ⟨result, hResult, ?_⟩
      intro m _ bind accept
      rw [Attempt.perform]

/-- A directory that knows users by names in a domain. -/
def exampleDomain : DirectoryHandler where
  url := "ldap://localhost"
  naming := .domain "EXAMPLE.COM"

/-- The request with these credentials. -/
def carrying (credentials : String) : Request where
  target := { path := "/" }
  headers := .ofTexts [(Http.authorizationField, credentials)]

/-- A separator at the start of a name is no domain, the colons of a password belong to it, and the
directory is asked once. It is not asked about a password that begins with a zero. -/
theorem bind_decides_odd :
    let question : BindRequest :=
      ⟨"ldap://localhost", "/odd@EXAMPLE.COM", "p:ss", .plain, false⟩
    let answer (r : BindRequest) : Except String Unit :=
      if r = question then .ok () else .error "invalid credentials"
    (exampleDomain.authenticate (carrying "bAsIc  L29kZDpwOnNz")).run
        ⟨answer, fun _ _ => .error ""⟩ =
      .ok (.authenticated
        { user := "/odd@EXAMPLE.COM", principal := "/odd@EXAMPLE.COM", kind := "ldap" } {}) ∧
    (∃ next : Except String Unit → Result Outcome,
      (exampleDomain.authenticate (carrying "bAsIc  L29kZDpwOnNz")).perform
          (m := StateM (List BindRequest)) (fun r => do modify (r :: ·); return answer r)
          (fun _ _ => pure (.error "")) =
        (do
          modify (question :: ·)
          return next (answer question))) ∧
    ∃ result, ∀ (m : Type → Type) [Monad m] (bind : BindRequest → m (Except String Unit)) accept,
      (exampleDomain.authenticate (carrying "Basic Ym9iOgBzZWNyZXQ=")).perform bind accept =
        pure result := by
  intro question answer
  have hAsks : exampleDomain.Asks (carrying "bAsIc  L29kZDpwOnNz") "/odd" "/odd@EXAMPLE.COM"
      question := {
    carried := logsIn_iff.mpr rfl
    named := by decide
    guarded := isBlankPassword_eq_false_iff.mp (by decide)
    called := Naming.calls_iff.mpr ⟨by decide, by decide⟩
    directory := ⟨rfl, rfl, rfl⟩ }
  refine ⟨?_, ?_, ?_⟩
  · refine ((bind_decides exampleDomain _).1 _ _ _).mpr ?_
    exact ⟨"/odd", "/odd@EXAMPLE.COM", question, hAsks, by decide, by decide, rfl, rfl⟩
  · obtain ⟨next, -, hOnce⟩ := (bind_decides exampleDomain _).2.1 _ _ _ hAsks
    exact ⟨next, (hOnce _ _ _).trans (by rfl)⟩
  · have hNone : ∀ user name other, ¬ exampleDomain.Asks (carrying "Basic Ym9iOgBzZWNyZXQ=") user
        name other := by
      intro user name other hOther
      have hRead : (carrying "Basic Ym9iOgBzZWNyZXQ=").LogsIn "bob" "\x00secret" :=
        logsIn_iff.mpr rfl
      obtain ⟨hLog, -, hPassword, -, -⟩ := asks_iff.mp hOther
      obtain ⟨-, hZero⟩ := logsIn_unique hRead hLog
      rw [← hZero] at hPassword
      exact absurd hPassword (by decide)
    obtain ⟨result, -, hDone⟩ := (bind_decides exampleDomain _).2.2 hNone
    exact ⟨result, hDone⟩

end DirectoryHandler

end SignOn
