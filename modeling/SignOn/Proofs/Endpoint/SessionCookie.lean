import SignOn.Proofs.Endpoint.Admission
import SignOn.Proofs.Endpoint.Shipped
import SignOn.Proofs.Http.Cookie

/-!
# The session cookie

A gate issues a cookie whose value is the signed token in quotes. A client sends back what stands in
front of the first semicolon, and a gate reads fields that are ASCII only. So the session of a user
survives the way to the client and back exactly if the user's name, the full identity and the kind
are ASCII without semicolons (`Gate.issued_cookie`). A token may hold other characters than these:
its fields exclude the ampersand alone.
-/

namespace SignOn

open SignOn.Http (Headers Request IsPlain)

theorem Token.isAnonymous_of_sameUser {t s : Token} (h : t.SameUser s) :
    t.isAnonymous = s.isAnonymous := by
  rw [TokenState.isAnonymous, TokenState.isAnonymous, h.1]

theorem Token.WellFormed.of_sameUser {t s : Token} (h : t.SameUser s) (hs : s.WellFormed) :
    t.WellFormed :=
  ⟨h.1 ▸ hs.user, h.2.1 ▸ hs.principal, h.2.2 ▸ hs.kind⟩

/-- What the policy says of cookies may stand in a header field. -/
def SessionPolicy.Writable (p : SessionPolicy) : Prop :=
  (∀ path, p.path = some path → Headers.Admits path) ∧
    ∀ domain, p.domain = some domain → Headers.Admits (Http.Cookie.dropDot domain)

theorem SessionPolicy.writable_of_isPlain {p : SessionPolicy}
    (hDomain : ∀ d, p.domain = some d → IsPlain d) (hPath : ∀ s, p.path = some s → IsPlain s) :
    p.Writable :=
  ⟨fun s h => (hPath s h).admits, fun d h => (Http.Cookie.isPlain_dropDot (hDomain d h)).admits⟩

/-- Whether a cookie with the path and the domain of a policy may stand in a header field depends on
its pair and on the policy alone. -/
theorem SessionPolicy.admits_cookie_iff {p : SessionPolicy} {c : Http.Cookie}
    (hPath : c.path = p.path) (hDomain : c.domain = p.domain) :
    Headers.Admits c.text ↔ Headers.Admits c.pairText ∧ p.Writable := by
  rw [Http.Cookie.admits_text_iff, SessionPolicy.Writable, ← hPath, ← hDomain]
  refine and_congr_right fun _ => ?_
  constructor
  · intro h
    constructor
    · intro path hSome
      have hAll := h ("Path=" ++ path) (by simp [Http.Cookie.attributes, hSome])
      exact (Headers.admits_append.mp hAll).2
    · intro domain hSome
      have hAll := h ("Domain=" ++ Http.Cookie.dropDot domain) (by
        simp [Http.Cookie.attributes, hSome])
      exact (Headers.admits_append.mp hAll).2
  · rintro ⟨hPaths, hDomains⟩ a ha
    rcases Http.Cookie.mem_attributes ha with h | ⟨s, hs, rfl⟩ | ⟨d, hd, rfl⟩
    · exact h.admits
    · exact Headers.admits_append.mpr ⟨by decide, hPaths s hs⟩
    · exact Headers.admits_append.mpr ⟨by decide, hDomains d hd⟩

/-- The request carries one field of cookies. -/
def Http.Request.Carries (request : Request) (field : Text.Bytes) : Prop :=
  request.headers.getAll Http.cookieField = [field]

instance (request : Request) (field : Text.Bytes) : Decidable (request.Carries field) :=
  inferInstanceAs (Decidable (_ = _))

namespace Gate

variable {g : Gate} {keys keys' : Keyring} {now now' : Int64} {secure : Bool} {token : Token}
  {request : Request}

/-! ## Issuing -/

/-- A token with its signature. -/
def signedText (keys : Keyring) (token : Token) : String :=
  token.encode ++ Signature.mark ++ Signature.code keys.current token.encode

/-- Name and value of the session cookie for a token. -/
def pairText (keys : Keyring) (token : Token) : String :=
  "auth=\"" ++ signedText keys token ++ "\""

/-- The session cookie for a token. -/
def sessionCookie (g : Gate) (keys : Keyring) (now : Int64) (secure : Bool) (token : Token) :
    Http.Cookie :=
  g.policy.cookie (signedText keys token) token.expires secure now

theorem pairText_sessionCookie :
    (g.sessionCookie keys now secure token).pairText = pairText keys token := by
  rw [← String.toList_inj]
  simp [sessionCookie, SessionPolicy.cookie, SessionPolicy.cookieName, Http.Cookie.pairText,
    pairText]

/-- Whether a session cookie may stand in a header field depends on its pair and on the policy, but
not on the deadlines. -/
theorem admits_sessionCookie_iff :
    Headers.Admits (g.sessionCookie keys now secure token).text ↔
      Headers.Admits (pairText keys token) ∧ g.policy.Writable := by
  have hParts : Headers.Admits (g.sessionCookie keys now secure token).text ↔
      Headers.Admits (g.sessionCookie keys now secure token).pairText ∧ g.policy.Writable :=
    SessionPolicy.admits_cookie_iff rfl rfl
  rw [hParts, pairText_sessionCookie]

theorem cookieField_eq_ok_iff {cookie : Http.Cookie} {field : Text.Bytes} :
    cookieField cookie = .ok field ↔
      Headers.Admits cookie.text ∧ field = Text.Utf8.encode cookie.text := by
  rw [← Headers.value?_eq_some_iff, cookieField]
  cases Headers.value? cookie.text with
  | none => simp [misconfigured]
  | some value => simp

/-- For a token that names a user, issuing is a matter of the text of the cookie alone. -/
theorem issue_of_named (hToken : token.isAnonymous = false) (headers : Headers) :
    g.issue keys now secure token headers =
      (cookieField (g.sessionCookie keys now secure token)).map
        (headers.append Http.setCookieField) := by
  have hSign : Signature.sign keys token.encode = .ok (signedText keys token) :=
    Signature.sign_of_ne (Token.encode_ne_empty hToken) keys
  rw [issue, hSign, sessionCookie]
  simp only [bind, Except.bind]
  cases cookieField (g.policy.cookie (signedText keys token) token.expires secure now) <;> rfl

/-- A cookie is issued for a token that names a user if its text may stand in a header field. -/
theorem issue_eq_ok_iff (hToken : token.isAnonymous = false) {headers fields : Headers} :
    g.issue keys now secure token headers = .ok fields ↔
      Headers.Admits (g.sessionCookie keys now secure token).text ∧
        fields = headers.append Http.setCookieField
          (Text.Utf8.encode (g.sessionCookie keys now secure token).text) := by
  rw [issue_of_named hToken, map_eq_ok_iff]
  simp only [cookieField_eq_ok_iff]
  constructor
  · rintro ⟨field, ⟨hAdmits, rfl⟩, rfl⟩
    exact ⟨hAdmits, rfl⟩
  · rintro ⟨hAdmits, rfl⟩
    exact ⟨_, ⟨hAdmits, rfl⟩, rfl⟩

/-- A session goes on with a new deadline for inactivity and a new cookie if inactivity matters, and
otherwise as it is. -/
theorem resume_proceed_iff {seen : Token} {headers : Headers} (hSeen : seen.WellFormed) :
    g.resume keys now secure seen = .ok (.proceed token headers) ↔
      token = g.policy.refresh seen now ∧
        (g.policy.maxInactive = none ∧ headers = {} ∨
          g.policy.maxInactive ≠ none ∧
            Headers.Admits (g.sessionCookie keys now secure token).text ∧
            headers = ({} : Headers).append Http.setCookieField
              (Text.Utf8.encode (g.sessionCookie keys now secure token).text)) := by
  have hRefreshed : (g.policy.refresh seen now).WellFormed :=
    .of_sameUser (g.policy.sameUser_refresh seen now) hSeen
  unfold resume
  cases hLength : g.policy.maxInactive with
  | none =>
    have hSame : g.policy.refresh seen now = seen := by
      rw [SessionPolicy.refresh, hLength]
    simp [hSame, eq_comm]
  | some length =>
    simp only [Option.isSome_some, if_true, bind_eq_ok_iff,
      issue_eq_ok_iff hRefreshed.isAnonymous_eq_false]
    constructor
    · rintro ⟨_, ⟨hAdmits, rfl⟩, h⟩
      cases h
      exact ⟨rfl, .inr ⟨Option.some_ne_none _, hAdmits, rfl⟩⟩
    · rintro ⟨rfl, ⟨hNone, -⟩ | ⟨-, hAdmits, rfl⟩⟩
      · cases hNone
      · exact ⟨_, ⟨hAdmits, rfl⟩, rfl⟩

/-- A session begins with its deadlines and with a cookie. -/
theorem welcome_proceed_iff {seen : Token} {fields headers : Headers}
    (hSeen : seen.isAnonymous = false) :
    g.welcome keys now secure seen fields = .ok (.proceed token headers) ↔
      token = g.policy.refresh (seen.setExpires (g.policy.expiry now)) now ∧
        Headers.Admits (g.sessionCookie keys now secure token).text ∧
        headers = fields.append Http.setCookieField
          (Text.Utf8.encode (g.sessionCookie keys now secure token).text) := by
  have hSame := (g.policy.sameUser_refresh (seen.setExpires (g.policy.expiry now)) now).trans
    (seen.sameUser_setExpires _)
  have hToken := (Token.isAnonymous_of_sameUser hSame).trans hSeen
  unfold welcome
  rw [if_neg (by simp [hSeen])]
  simp only [bind_eq_ok_iff, issue_eq_ok_iff hToken]
  constructor
  · rintro ⟨_, ⟨hAdmits, rfl⟩, h⟩
    cases h
    exact ⟨rfl, hAdmits, rfl⟩
  · rintro ⟨rfl, hAdmits, rfl⟩
    exact ⟨_, ⟨hAdmits, rfl⟩, rfl⟩

/-- A cookie that vouches for somebody names a user. -/
theorem Vouched.wellFormed (h : g.Vouched keys now request token) :
    token.WellFormed ∧ token.kind ∈ g.handler.tokenKinds := by
  obtain ⟨_, _, _, _, _, _, _, _, hParse, hKind, -⟩ := h
  exact ⟨Token.wellFormed_of_parse hParse, hKind⟩

/-- Whatever the handler is, the cookie that is set for a request of a user is the session cookie of
the user's token. -/
theorem field_of_proceed (hToken : token.WellFormed) {authorities : Authorities}
    {headers : Headers} {field : Text.Bytes}
    (hCheck : (g.check keys now request).run authorities = .ok (.proceed token headers))
    (hField : (headers.getAll Http.setCookieField).getLast? = some field) :
    Headers.Admits (g.sessionCookie keys now request.target.isSecure token).text ∧
      field = Text.Utf8.encode (g.sessionCookie keys now request.target.isSecure token).text := by
  -- A cookie is set when a session goes on and when one begins.
  obtain ⟨seen, hSeen, hRun⟩ | ⟨-, rejected, hRun⟩ := check_run_cases g authorities keys now request
  · rw [hRun] at hCheck
    obtain ⟨-, ⟨-, rfl⟩ | ⟨-, hAdmits, rfl⟩⟩ := (resume_proceed_iff hSeen.wellFormed.1).mp hCheck
    · cases hField
    · rw [Headers.getAll_append, List.getLast?_concat] at hField
      exact ⟨hAdmits, (Option.some.inj hField).symm⟩
  · rw [hRun] at hCheck
    obtain ⟨seen, fields, hOutcome, hSame⟩ := decide_proceed hCheck
    have hSeen : seen.WellFormed := .of_sameUser hSame.symm hToken
    rw [hOutcome] at hCheck
    obtain ⟨-, hAdmits, rfl⟩ := (welcome_proceed_iff hSeen.isAnonymous_eq_false).mp hCheck
    rw [Headers.getAll_append, List.getLast?_concat] at hField
    exact ⟨hAdmits, (Option.some.inj hField).symm⟩

/-- Whenever a cookie is set for a request that passes, the token names a user and is of one of the
kinds that are accepted. -/
theorem user_of_proceed (hShipped : g.handler.Shipped) {authorities : Authorities}
    {headers : Headers} {field : Text.Bytes}
    (hCheck : (g.check keys now request).run authorities = .ok (.proceed token headers))
    (hField : (headers.getAll Http.setCookieField).getLast? = some field) :
    token.WellFormed ∧ token.kind ∈ g.handler.tokenKinds := by
  obtain ⟨seen, hSeen, hRun⟩ | ⟨-, rejected, hRun⟩ := check_run_cases g authorities keys now request
  · obtain ⟨hToken, hKind⟩ := hSeen.wellFormed
    rw [hRun] at hCheck
    obtain ⟨hSame, -⟩ := resume_proceed hCheck
    exact ⟨.of_sameUser hSame hToken, hSame.2.2 ▸ hKind⟩
  · rw [hRun] at hCheck
    obtain ⟨seen, fields, hOutcome, hSame⟩ := decide_proceed hCheck
    rw [hOutcome] at hCheck
    obtain ⟨hNobody | ⟨hSeen, hKind, -⟩, hFields⟩ := hShipped.proper hOutcome
    · subst hNobody
      cases hCheck
      rw [hFields] at hField
      cases hField
    · exact ⟨.of_sameUser hSame hSeen, hSame.2.2 ▸ hKind⟩

/-! ## Coming back -/

/-- The name of the session cookie and its value are read as they were sent. -/
theorem ofPair?_pairText :
    Http.Cookie.ofPair? (pairText keys token).toList =
      some { name := SessionPolicy.cookieName, value := "\"" ++ signedText keys token ++ "\"" } := by
  have hChars : (pairText keys token).toList =
      "auth".toList ++ '=' :: ('"' :: ((signedText keys token).toList ++ ['"'])) := by
    simp [pairText]
  have hName : Http.Cookie.trimmed "auth".toList = "auth" := by decide
  have hValue : String.ofList ('"' :: ((signedText keys token).toList ++ ['"'])) =
      "\"" ++ signedText keys token ++ "\"" := by
    rw [← String.toList_inj]
    simp
  rw [Http.Cookie.ofPair?, hChars, Text.cut?_append (by decide)]
  simp only [hName, Http.Cookie.trimmed_of_ends (show Text.isBlank '"' = false by decide)
    (show Text.isBlank '"' = false by decide), hValue]
  rfl

/-- A session cookie that is read as it was made vouches for its own token and for no other, until
that expires and while a secret in effect gives the token the code it was signed with. -/
theorem presented_signed_iff {seen : Token} (hToken : token.WellFormed) {value : String}
    (hValue : Http.Cookie.value? request.headers SessionPolicy.cookieName = some value)
    (hUnquoted : Text.unquote value = signedText keys token) :
    g.presented keys' now' request = .valid seen ↔
      seen = token ∧ token.kind ∈ g.handler.tokenKinds ∧ token.isExpired now' = false ∧
        ∃ live ∈ keys'.secrets, Hash.hmac live (Text.Utf8.encode token.encode) =
          Hash.hmac keys.current (Text.Utf8.encode token.encode) := by
  have hValid : g.presented keys' now' request = .valid seen ↔
      g.tokenOf? keys' now' (signedText keys token) = some seen := by
    unfold presented
    simp only [hValue, hUnquoted]
    cases g.tokenOf? keys' now' (signedText keys token) <;> simp
  rw [hValid, tokenOf?_eq_some_iff]
  constructor
  · rintro ⟨payload, hVerify, hParse, hKind, hExpired⟩
    obtain ⟨rfl, hLive⟩ := Signature.verify_signed_iff.mp hVerify
    rw [Token.parse_encode hToken] at hParse
    cases hParse
    exact ⟨rfl, hKind, hExpired, hLive⟩
  · rintro ⟨rfl, hKind, hExpired, hLive⟩
    exact ⟨_, Signature.verify_signed_iff.mpr ⟨rfl, hLive⟩, Token.parse_encode hToken, hKind,
      hExpired⟩

/-- So does one that can be read and has come back whole. -/
theorem vouched_pairText_iff {seen : Token} (hToken : token.WellFormed)
    (hRead : Headers.readable? (Text.Utf8.encode (pairText keys token)) =
      some (pairText keys token))
    (hWhole : ';' ∉ (pairText keys token).toList)
    (hSent : request.Carries (Text.Utf8.encode (pairText keys token))) :
    g.Vouched keys' now' request seen ↔
      seen = token ∧ token.kind ∈ g.handler.tokenKinds ∧ token.isExpired now' = false ∧
        ∃ live ∈ keys'.secrets, Hash.hmac live (Text.Utf8.encode token.encode) =
          Hash.hmac keys.current (Text.Utf8.encode token.encode) := by
  have hValue := Http.Cookie.value?_of_sent hSent hRead hWhole ofPair?_pairText
  rw [← presented_eq_valid_iff]
  exact presented_signed_iff hToken hValue (Text.unquote_quoted _)

/-- Cookies without the mark of a signature vouch for nobody. -/
theorem not_vouched_of_mark
    (h : ∀ field ∈ request.headers.getAll Http.cookieField, ∀ s,
      Headers.readable? field = some s → ¬ Signature.mark.toList <:+: s.toList) :
    ¬ g.Vouched keys now request token := by
  rintro ⟨value, signed, payload, secret, hFirst, hQuotes, -, hSigned, -⟩
  obtain ⟨field, hField, s, hRead, hValue⟩ :=
    Http.Cookie.value?_isInfix (Http.Cookie.value?_eq_some_iff.mpr hFirst)
  have hMark : Signature.mark.toList <:+: signed.toList :=
    ⟨payload.toList, (Signature.code secret payload).toList, by simp [hSigned]⟩
  have hInner : signed.toList <:+: value.toList := by
    rcases hQuotes with rfl | ⟨-, rfl⟩
    · exact ⟨['"'], ['"'], by simp⟩
    · exact List.infix_rfl
  exact h field hField s hRead (hMark.trans (hInner.trans hValue))

/-! ## Which sessions come back -/

theorem forall_mem_pairText_iff {P : Char → Prop} (keys : Keyring) (hToken : token.WellFormed)
    (hPlain : ∀ c, Headers.IsPrintable c ∧ c ≠ ';' → P c) :
    (∀ c ∈ (pairText keys token).toList, P c) ↔
      ∀ s ∈ [token.user, token.principal, token.kind], ∀ c ∈ s.toList, P c := by
  rw [← Token.forall_mem_encode_iff hToken.isAnonymous_eq_false hPlain]
  have plain : ∀ s, IsPlain s → ∀ c ∈ s.toList, P c := fun s hs c hc => hPlain c (hs c hc)
  have hAround : (∀ c ∈ "auth=\"".toList, P c) ∧ (∀ c ∈ Signature.mark.toList, P c) ∧
      (∀ c ∈ "\"".toList, P c) :=
    ⟨plain _ (by decide), plain _ (by decide), plain _ (by decide)⟩
  have hCode := plain _ (Http.isPlain_base64
    (Hash.hmac keys.current (Text.Utf8.encode token.encode)))
  simp only [pairText, signedText, String.toList_append, List.forall_mem_append]
  exact ⟨fun h => h.1.2.1.1, fun h => ⟨⟨hAround.1, ⟨h, hAround.2.1⟩, hCode⟩, hAround.2.2⟩⟩

theorem isPlain_pairText (keys : Keyring) (hToken : token.WellFormed)
    (hPlain : ∀ s ∈ [token.user, token.principal, token.kind], IsPlain s) :
    IsPlain (pairText keys token) :=
  (forall_mem_pairText_iff keys hToken fun _ hc => hc).mpr hPlain

theorem semicolon_not_mem_pairText_iff (keys : Keyring) (hToken : token.WellFormed) :
    ';' ∉ (pairText keys token).toList ↔
      ∀ s ∈ [token.user, token.principal, token.kind], ∀ c ∈ s.toList, c ≠ ';' := by
  rw [← forall_mem_pairText_iff keys hToken fun c hc => hc.2]
  exact ⟨fun h c hc hEq => h (hEq ▸ hc), fun h hc => h _ hc rfl⟩

/-- Who is authenticated under plain names, and not by a cookie, passes with a session cookie. -/
theorem check_run_of_authenticated {authorities : Authorities} {seen : Token} {text : String}
    (hNobody : ∀ other, ¬ g.Vouched keys now request other)
    (hOutcome : (g.handler.authenticate request).run authorities = .ok (.authenticated seen {}))
    (hSeen : seen.WellFormed) (hPlain : ∀ s ∈ [seen.user, seen.principal, seen.kind], IsPlain s)
    (hDomain : ∀ d, g.policy.domain = some d → IsPlain d)
    (hPath : ∀ p, g.policy.path = some p → IsPlain p)
    (hToken : token = g.policy.refresh (seen.setExpires (g.policy.expiry now)) now)
    (hText : (g.sessionCookie keys now request.target.isSecure token).text = text) :
    (g.check keys now request).run authorities =
      .ok (.proceed token (.ofTexts [(Http.setCookieField, text)])) := by
  have hSame : token.SameUser seen :=
    hToken ▸ (g.policy.sameUser_refresh _ now).trans (seen.sameUser_setExpires _)
  have hPair : IsPlain (pairText keys token) := by
    refine isPlain_pairText keys (.of_sameUser hSame hSeen) ?_
    rw [hSame.1, hSame.2.1, hSame.2.2]
    exact hPlain
  obtain ⟨rejected, hRun⟩ := check_run_of_not_vouched authorities hNobody
  rw [hRun, hOutcome, ← hText]
  exact (welcome_proceed_iff hSeen.isAnonymous_eq_false).mpr
    ⟨hToken, admits_sessionCookie_iff.mpr
      ⟨hPair.admits, SessionPolicy.writable_of_isPlain hDomain hPath⟩, rfl⟩

/-- A client sends name and value of a session cookie back if they are free of semicolons. -/
theorem before_text_of_not_mem (hWhole : ';' ∉ (pairText keys token).toList) :
    Text.before 0x3B (Text.Utf8.encode (g.sessionCookie keys now secure token).text) =
      Text.Utf8.encode (pairText keys token) := by
  rw [← pairText_sessionCookie] at hWhole
  rw [Http.Cookie.before_encode_text rfl hWhole, pairText_sessionCookie]

/-- Otherwise it sends a text in which no signature stands. -/
theorem before_text_of_mem (g : Gate) (now : Int64) (secure : Bool) (hToken : token.WellFormed)
    (hCut : ';' ∈ (pairText keys token).toList) :
    ∃ head : String,
      Text.before 0x3B (Text.Utf8.encode (g.sessionCookie keys now secure token).text) =
        Text.Utf8.encode head ∧ ¬ Signature.mark.toList <:+: head.toList := by
  -- Nothing else in the pair has a semicolon, so it is cut inside the token, before the signature.
  have hInside : ';' ∈ token.encode.toList := by
    refine Decidable.byContradiction fun hNone => ?_
    have hFields := (Token.forall_mem_encode_iff hToken.isAnonymous_eq_false fun c hc => hc.2).mp
      fun c hc hEq => hNone (hEq ▸ hc)
    exact (semicolon_not_mem_pairText_iff keys hToken).mpr hFields hCut
  obtain ⟨a, b, hEncode, ha⟩ := List.eq_append_cons_of_mem hInside
  obtain ⟨rest, hText⟩ :=
    Http.Cookie.text_toList_of_httpOnly (c := g.sessionCookie keys now secure token) rfl
  have hText' : (g.sessionCookie keys now secure token).text.toList =
      ("auth=\"" ++ String.ofList a).toList ++ ';' :: (b ++ (Signature.mark ++
        Signature.code keys.current token.encode ++ "\"").toList ++ ';' :: rest) := by
    rw [hText, pairText_sessionCookie, pairText, signedText]
    simp [hEncode]
  refine ⟨_, Http.Cookie.before_encode (by simp [ha]) hText', fun hMark => ?_⟩
  have hHead : ("auth=\"" ++ String.ofList a).toList <:+: "auth=\"".toList ++ token.encode.toList :=
    ⟨[], ';' :: b, by simp [hEncode]⟩
  exact hToken.mark_not_isInfix (by decide) (hMark.trans hHead)

/-- **An issued cookie says what was authenticated, and whether it can be read back.** The field
that sets a session cookie falls at its semicolons into the quoted signed token under the name
`auth` and exactly the attributes that the policy chose if and only if user, identity and kind are
free of semicolons. If they are also ASCII, then whoever sends the cookie back is known by an equal
token until it expires, also after the secret was rotated once; otherwise no gate ever knows the
sender. -/
theorem issued_cookie (hShipped : g.handler.Shipped)
    (hDomain : ∀ d, g.policy.domain = some d → IsPlain d)
    (hPath : ∀ p, g.policy.path = some p → IsPlain p) {authorities : Authorities}
    {headers : Headers} {field : Text.Bytes}
    (hCheck : (g.check keys now request).run authorities = .ok (.proceed token headers))
    (hField : (headers.getAll Http.setCookieField).getLast? = some field) :
    let signed := token.encode ++ "&s=" ++ Signature.code keys.current token.encode
    let cookie := g.policy.cookie signed token.expires request.target.isSecure now
    let fields := [token.user, token.principal, token.kind]
    (Text.pieces 0x3B field = Text.Utf8.encode ("auth=\"" ++ signed ++ "\"") ::
        cookie.attributes.map (fun a => 0x20 :: Text.Utf8.encode a) ↔
      ∀ s ∈ fields, ∀ c ∈ s.toList, c ≠ ';') ∧
    ((∀ s ∈ fields, ∀ c ∈ s.toList, c ≠ ';' ∧ c.toNat < 128) →
      ∀ keys' now' (request' : Request), request'.Carries (Text.before 0x3B field) →
        (keys' = keys ∨ ∃ next, keys' = keys.rotate next) → token.isExpired now' = false →
        g.presented keys' now' request' = .valid token) ∧
    (¬ (∀ s ∈ fields, ∀ c ∈ s.toList, c ≠ ';' ∧ c.toNat < 128) →
      ∀ (g' : Gate) keys' now' (request' : Request), request'.Carries (Text.before 0x3B field) →
        ∀ seen, g'.presented keys' now' request' ≠ .valid seen) := by
  intro signed cookie fields
  obtain ⟨hToken, hKind⟩ := user_of_proceed hShipped hCheck hField
  obtain ⟨hAdmits, rfl⟩ := field_of_proceed hToken hCheck hField
  have hAttributes : ∀ a ∈ cookie.attributes, IsPlain a :=
    Http.Cookie.isPlain_of_mem_attributes hPath hDomain
  have hWhole := semicolon_not_mem_pairText_iff keys hToken
  have hAscii := forall_mem_pairText_iff keys hToken fun _ hc => hc.1.lt
  refine ⟨?_, ?_, ?_⟩
  · rw [← hWhole]
    constructor
    · intro hPieces hCut
      have hNone := Text.not_mem_of_mem_pieces (hPieces ▸ List.mem_cons_self ..)
      exact hNone (Http.Cookie.semicolon_mem_encode_iff.mpr hCut)
    · intro hFree
      rw [← pairText_sessionCookie] at hFree
      have hPieces := Http.Cookie.pieces_encode_text hFree hAttributes
      rw [pairText_sessionCookie] at hPieces
      exact hPieces
  · intro hFields keys' now' request' hSent hKeys hExpired
    have hFree := hWhole.mpr fun s hs c hc => (hFields s hs c hc).1
    have hBack := Headers.readable?_encode_eq_some_iff.mpr
      ⟨rfl, (admits_sessionCookie_iff.mp hAdmits).1, hAscii.mpr fun s hs c hc => (hFields s hs c hc).2⟩
    have hLive : keys.current ∈ keys'.secrets := by
      rcases hKeys with rfl | ⟨next, rfl⟩
      · exact Keyring.mem_secrets.mpr (.inl rfl)
      · exact Keyring.mem_secrets.mpr (.inr rfl)
    rw [before_text_of_not_mem hFree] at hSent
    rw [presented_eq_valid_iff, vouched_pairText_iff hToken hBack hFree hSent]
    exact ⟨rfl, hKind, hExpired, _, hLive, rfl⟩
  · intro hFields g' keys' now' request' hSent seen
    rw [Ne, presented_eq_valid_iff]
    refine not_vouched_of_mark fun sent hMem s hSeen hMark => ?_
    rw [hSent, List.mem_singleton] at hMem
    rw [hMem] at hSeen
    -- What comes back has been cut, and then no signature is left in it, or it is not ASCII.
    by_cases hFree : ';' ∈ (pairText keys token).toList
    · obtain ⟨head, hHead, hNone⟩ := before_text_of_mem g now request.target.isSecure hToken hFree
      rw [hHead, Headers.readable?_encode_eq_some_iff] at hSeen
      exact hNone (hSeen.1 ▸ hMark)
    · rw [before_text_of_not_mem hFree, Headers.readable?_encode_eq_some_iff] at hSeen
      exact hFields fun s hs c hc => ⟨hWhole.mp hFree s hs c hc, hAscii.mp hSeen.2.2 s hs c hc⟩

/-- A request that claims a name in its query. -/
def claiming (query : String) : Request where
  target := { path := "/", query := some query }

/-- A request with cookies. -/
def sending (cookies : String) : Request where
  target := { path := "/" }
  headers := .ofTexts [(Http.cookieField, cookies)]

theorem not_vouched_claiming (g : Gate) (keys : Keyring) (now : Int64) (query : String)
    (token : Token) : ¬ g.Vouched keys now (claiming query) token :=
  not_vouched_of_mark fun field hField => by cases hField

/-- The code of the token of a user with a common name. -/
theorem code_common :
    Signature.code (Text.Utf8.encode "secret")
        (Token.ann (-1) 1700036000000).encode =
      "GsTyT2Fe0yyiNBkEoU4MwftMcGOGhQEhnii+TM3moHs=" := by
  decide +kernel

/-- A user with a common name is known by the cookie until the last moment, after a rotation too. -/
theorem issued_cookie_common :
    let keys : Keyring := ⟨Text.Utf8.encode "secret", none⟩
    let token : Token := .ann (-1) 1700036000000
    let value := "u=ann&p=ann&t=simple&e=1700036000000&s=GsTyT2Fe0yyiNBkEoU4MwftMcGOGhQEhnii+TM3moHs="
    (Gate.credulous.check keys 1700000000000 (claiming "user.name=ann")).run .silent =
      .ok (.proceed token
        (.ofTexts [(Http.setCookieField, "auth=\"" ++ value ++ "\"; HttpOnly")])) ∧
    Gate.credulous.presented (keys.rotate (Text.Utf8.encode "next")) 1700036000000
      (sending ("auth=\"" ++ value ++ "\"")) = .valid token := by
  intro keys token value
  have hNone : ∀ s, none = some s → IsPlain s := fun _ h => by cases h
  have hPlain : ∀ s ∈ [token.user, token.principal, token.kind], IsPlain s := by decide
  have hOutcome : (Gate.credulous.handler.authenticate (claiming "user.name=ann")).run .silent =
      .ok (.authenticated .ann {}) := by decide +kernel
  have hText : (Gate.credulous.sessionCookie keys 1700000000000 false token).text =
      "auth=\"" ++ value ++ "\"; HttpOnly" := by
    rw [sessionCookie, signedText, code_common]
    decide +kernel
  have hCheck : (Gate.credulous.check keys 1700000000000 (claiming "user.name=ann")).run .silent =
      .ok (.proceed token
        (.ofTexts [(Http.setCookieField, "auth=\"" ++ value ++ "\"; HttpOnly")])) :=
    check_run_of_authenticated (not_vouched_claiming _ _ _ _) hOutcome
      ⟨by decide, by decide, by decide⟩ hPlain hNone hNone (by decide +kernel) hText
  obtain ⟨-, hBack, -⟩ := issued_cookie (.pseudo {}) hNone hNone hCheck rfl
  refine ⟨hCheck, hBack ?_ _ _ _ (by decide +kernel) (.inr ⟨_, rfl⟩) (by decide)⟩
  exact fun s hs c hc => ⟨(hPlain s hs c hc).2, (hPlain s hs c hc).1.lt⟩

/-- A user with a semicolon in the name is authenticated and gets a cookie, but whoever sends it
back is not known. -/
theorem issued_cookie_semicolon :
    let keys : Keyring := ⟨Text.Utf8.encode "secret", none⟩
    let token : Token := {
      user := "a;b", principal := "a;b", kind := "simple", expires := 1700036000000 }
    let field := Text.Utf8.encode ("auth=\"u=a;b&p=a;b&t=simple&e=1700036000000&s=" ++
      "6/rSpxf23BZbK1zThXE94hRQ3PFAf3nrpXMD7nL3DDM=\"; HttpOnly")
    (Gate.credulous.check keys 1700000000000 (claiming "user.name=a%3Bb")).run .silent =
      .ok (.proceed token ⟨[(Http.setCookieField, field)]⟩) ∧
    token.isExpired 1700000000000 = false ∧
    (sending "auth=\"u=a").Carries (Text.before 0x3B field) ∧
    Gate.credulous.presented keys 1700000000000 (sending "auth=\"u=a") = .rejected := by
  decide +kernel

end Gate

end SignOn
