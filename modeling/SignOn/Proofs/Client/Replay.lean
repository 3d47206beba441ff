import Mathlib.Algebra.Group.Int.Defs
import SignOn.Client.Conversation
import SignOn.Proofs.Client.SessionCookie
import SignOn.Proofs.Endpoint.SessionCookie

/-!
# The client sends back what the server issued

A gate writes a session cookie and a client reads it, keeps the quoted value, and sends it in later
requests. All that gets lost on this way is the white space around the path and the domain, which
only a browser would look at. So the client holds the signed text itself, and a gate that gets it
back reads the token that was issued (`Gate.cookie_replayed`). But a client keeps a cookie for nine
tenths of its lifetime in whole seconds: it does not keep one that lives for less than two.
-/

namespace SignOn

open SignOn.Http (Headers Request IsPlain)

/-! ## Lifetimes -/

namespace SessionPolicy

variable {deadline now : Int64}

theorem toInt_secondsLeft_eq (deadline now : Int64) :
    (secondsLeft deadline now).toInt = max 0 (deadline - now).toInt / 1000 := by
  have hDivided : ∀ n : Int64, 0 ≤ n.toInt → (n / 1000).toInt = n.toInt / 1000 := by
    intro n hn
    have hHigh := n.toInt_lt
    have hThousand : (1000 : Int64).toInt = 1000 := rfl
    rw [Int64.toInt_div, hThousand, Int.tdiv_eq_ediv_of_nonneg hn]
    exact Int.bmod_eq_of_le (by omega) (by omega)
  have hZero : (0 : Int64).toInt = 0 := rfl
  rw [secondsLeft]
  split
  · rename_i hNegative
    rw [Int64.lt_iff_toInt_lt, hZero] at hNegative
    rw [hDivided 0 (by decide), Int.max_eq_left (Int.le_of_lt hNegative), hZero]
  · rename_i hNonneg
    rw [Int64.lt_iff_toInt_lt, hZero, Int.not_lt] at hNonneg
    rw [hDivided _ hNonneg, Int.max_eq_right hNonneg]

theorem secondsLeft_nonneg (deadline now : Int64) : 0 ≤ (secondsLeft deadline now).toInt := by
  rw [toInt_secondsLeft_eq]
  omega

/-- Within range, the time left is counted in whole seconds. -/
theorem toInt_secondsLeft (hDeadline : 0 ≤ deadline.toInt)
    (hRange : deadline.toInt - now.toInt < 2 ^ 63) :
    (secondsLeft deadline now).toInt = max 0 (deadline.toInt - now.toInt) / 1000 := by
  have hNow := now.toInt_lt
  rw [toInt_secondsLeft_eq, Int64.toInt_sub, Int.bmod_eq_of_le (by omega) (by omega)]

end SessionPolicy

namespace SessionCookie

/-- A value in quotes is kept as it is, unless its lifetime is too short. -/
theorem ofValue_quoted {signed : String} (hSigned : signed ≠ "") (lifetime : Option Int) :
    (∃ seconds, lifetime = some seconds ∧ keptSeconds seconds ≤ 0) ∧
        ofValue ("\"" ++ signed ++ "\"") lifetime = {} ∨
      (∀ seconds, lifetime = some seconds → 0 < keptSeconds seconds) ∧
        ∃ kept, ofValue ("\"" ++ signed ++ "\"") lifetime =
          { held := some { text := "\"" ++ signed ++ "\"", lifetime := kept } } := by
  have hQuoted : quoted ("\"" ++ signed ++ "\"") = "\"" ++ signed ++ "\"" := by
    simp [quoted]
  unfold ofValue
  rw [Text.unquote_quoted, if_neg hSigned, hQuoted]
  cases lifetime with
  | none => exact .inr ⟨fun _ h => (by cases h), none, rfl⟩
  | some seconds =>
    by_cases hShort : keptSeconds seconds ≤ 0
    · exact .inl ⟨⟨seconds, rfl, hShort⟩, if_pos hShort⟩
    · refine .inr ⟨?_, _, if_neg hShort⟩
      rintro _ ⟨⟩
      omega

end SessionCookie

namespace Gate

variable {g : Gate} {keys : Keyring} {now : Int64} {secure : Bool} {token : Token}

/-! ## Receiving -/

/-- The lifetime that the text of a session cookie gives a client: the whole seconds left, if the
cookie persists. -/
def lifetime (g : Gate) (now : Int64) (token : Token) : Option Int :=
  if g.policy.persistent && 0 ≤ token.expires then
    some (SessionPolicy.secondsLeft token.expires now).toInt
  else none

theorem lifetimeOf_reread (moment : Int) :
    SessionCookie.lifetimeOf (g.sessionCookie keys now secure token).reread moment =
      g.lifetime now token := by
  have hLeft : ¬ SessionPolicy.secondsLeft token.expires now < 0 := by
    rw [Int64.lt_iff_toInt_lt, Int.not_lt]
    exact SessionPolicy.secondsLeft_nonneg _ _
  unfold lifetime SessionCookie.lifetimeOf Http.Cookie.reread sessionCookie SessionPolicy.cookie
  generalize (g.policy.persistent && Decidable.decide (0 ≤ token.expires)) = timed
  cases timed <;> simp [hLeft]

theorem received?_sessionCookie (hToken : token.WellFormed)
    (hPlain : ∀ s ∈ [token.user, token.principal, token.kind], IsPlain s)
    (hDomain : ∀ d, g.policy.domain = some d → IsPlain d)
    (hPath : ∀ p, g.policy.path = some p → IsPlain p) (moment : Int) :
    SessionCookie.received? moment
        (Text.Utf8.encode (g.sessionCookie keys now secure token).text) =
      some (.ofValue ("\"" ++ signedText keys token ++ "\"") (g.lifetime now token)) := by
  have hPair := isPlain_pairText keys hToken hPlain
  have hAttributes : ∀ a ∈ (g.sessionCookie keys now secure token).attributes, IsPlain a :=
    Http.Cookie.isPlain_of_mem_attributes hPath hDomain
  have hPrintable : ∀ c ∈ (g.sessionCookie keys now secure token).text.toList,
      Headers.IsPrintable c := by
    refine (Http.Cookie.forall_mem_text_iff (by decide) (by decide)).mpr ⟨?_, ?_⟩
    · rw [pairText_sessionCookie]
      exact fun c hc => (hPair c hc).1
    · exact fun a ha c hc => (hAttributes a ha c hc).1
  have hParse : Http.Cookie.parse? (g.sessionCookie keys now secure token).text =
      some (g.sessionCookie keys now secure token).reread := by
    refine Http.Cookie.parse?_text ?_ ?_ hAttributes
    · rw [pairText_sessionCookie]
      exact ofPair?_pairText
    · rw [pairText_sessionCookie]
      exact hPair.not_mem
  have hName : Text.sameText SessionPolicy.cookieName SessionPolicy.cookieName = true := by decide
  unfold SessionCookie.received?
  rw [Headers.readable?_of_isPrintable hPrintable]
  simp only [Option.bind_some, hParse, Option.bind_eq_bind, lifetimeOf_reread]
  exact if_pos hName

/-! ## Sending -/

/-- A client that holds a session cookie sends it, and it is read as the signed text in quotes. -/
theorem value?_withCookie (hPair : IsPlain (pairText keys token)) {sent : Request}
    (hNone : Http.Cookie.value? sent.headers SessionPolicy.cookieName = none) (kept : Option Int) :
    let text := "\"" ++ signedText keys token ++ "\""
    Http.Cookie.value? (Talk.withCookie sent { held := some { text, lifetime := kept } }).headers
      SessionPolicy.cookieName = some text := by
  intro text
  have hText : SessionPolicy.cookieName ++ "=" ++ text = pairText keys token := by
    rw [← String.toList_inj]
    simp [SessionPolicy.cookieName, pairText, text]
  have hField : Headers.value? (pairText keys token) =
      some (Text.Utf8.encode (pairText keys token)) :=
    Headers.value?_eq_some_iff.mpr ⟨hPair.admits, rfl⟩
  simp only [Talk.withCookie, SessionCookie.field?, Option.bind_some, hText, hField]
  exact Http.Cookie.value?_append_of_sent hNone hPair.readable? hPair.not_mem ofPair?_pairText

theorem signedText_ne_empty (keys : Keyring) (token : Token) : signedText keys token ≠ "" := by
  intro h
  have hLength := congrArg String.length h
  simp [signedText, Signature.mark] at hLength

/-- A client drops the cookie of a session if it persists and lives for less than two whole seconds;
otherwise it keeps the signed text in quotes. -/
theorem ofValue_issued (g : Gate) (keys : Keyring) (now : Int64) (token : Token) :
    let isBrief := g.policy.persistent = true ∧ 0 ≤ token.expires.toInt ∧
      (SessionPolicy.secondsLeft token.expires now).toInt < 2
    let text := "\"" ++ signedText keys token ++ "\""
    isBrief ∧ SessionCookie.ofValue text (g.lifetime now token) = {} ∨
      ¬ isBrief ∧ ∃ lifetime, SessionCookie.ofValue text (g.lifetime now token) =
        { held := some { text, lifetime } } := by
  intro isBrief text
  have hZero : (0 : Int64).toInt = 0 := rfl
  have hBrief : (∃ seconds, g.lifetime now token = some seconds ∧
      SessionCookie.keptSeconds seconds ≤ 0) ↔ isBrief := by
    simp [lifetime, Int64.le_iff_toInt_le, hZero, SessionCookie.keptSeconds_le_iff, isBrief,
      and_assoc]
  obtain ⟨hShort, hNone⟩ | ⟨hLong, hKept⟩ :=
    SessionCookie.ofValue_quoted (signedText_ne_empty keys token) (g.lifetime now token)
  · exact .inl ⟨hBrief.mp hShort, hNone⟩
  · refine .inr ⟨?_, hKept⟩
    rw [← hBrief]
    rintro ⟨seconds, hSeconds, hShort⟩
    exact absurd (hLong seconds hSeconds) (Int.not_lt.mpr hShort)

/-- **A client replays what the server issued.** Let a field set the session cookie of a user for
whom a request passed, where the names, the domain and the path are plain, and let a client receive
an answer in which no later field sets the cookie again. The client is left without a cookie exactly
if the cookie persists and lives for less than two whole seconds. Otherwise it holds the signed text
itself; when it adds its cookie to a request, that text is what is read from the request; and every
gate takes the request for that of the issued token, if it takes tokens of this kind, until the
token expires and while a secret in effect gives the token the code it was signed with. -/
theorem cookie_replayed {request : Request} {authorities : Authorities} {headers : Headers}
    {field : Text.Bytes} (hDomain : ∀ d, g.policy.domain = some d → IsPlain d)
    (hPath : ∀ p, g.policy.path = some p → IsPlain p)
    (hCheck : (g.check keys now request).run authorities = .ok (.proceed token headers))
    (hField : (headers.getAll Http.setCookieField).getLast? = some field)
    (hToken : token.WellFormed)
    (hPlain : ∀ s ∈ [token.user, token.principal, token.kind], IsPlain s)
    (held : SessionCookie) (moment : Int) {answer : Headers} {before after : List Text.Bytes}
    (hAnswer : answer.getAll Http.setCookieField = before ++ field :: after)
    (hLast : ∀ other ∈ after, SessionCookie.received? moment other = none) :
    let signed := token.encode ++ "&s=" ++ Signature.code keys.current token.encode
    let left := SessionPolicy.secondsLeft token.expires now
    let kept := held.afterAnswer moment answer
    (kept.isSet = false ↔
      g.policy.persistent = true ∧ 0 ≤ token.expires.toInt ∧ left.toInt < 2) ∧
    (0 ≤ token.expires.toInt → token.expires.toInt - now.toInt < 2 ^ 63 →
      left.toInt = max 0 (token.expires.toInt - now.toInt) / 1000) ∧
    (kept.isSet = true →
      kept.value? = some signed ∧
      ∀ sent : Request, Http.Cookie.value? sent.headers "auth" = none →
        (∃ value, Http.Cookie.value? (Talk.withCookie sent kept).headers "auth" = some value ∧
          Text.unquote value = signed) ∧
        ∀ (g' : Gate) keys' now' seen,
          g'.presented keys' now' (Talk.withCookie sent kept) = .valid seen ↔
            seen = token ∧ token.kind ∈ g'.handler.tokenKinds ∧ token.isExpired now' = false ∧
              ∃ live ∈ keys'.secrets, Hash.hmac live (Text.Utf8.encode token.encode) =
                Hash.hmac keys.current (Text.Utf8.encode token.encode)) := by
  intro signed left kept
  obtain ⟨-, rfl⟩ := field_of_proceed hToken hCheck hField
  have hReceived : SessionCookie.received? moment
      (Text.Utf8.encode (g.sessionCookie keys now request.target.isSecure token).text) = some _ :=
    received?_sessionCookie hToken hPlain hDomain hPath moment
  have hKept : kept = .ofValue ("\"" ++ signed ++ "\"") (g.lifetime now token) :=
    SessionCookie.afterAnswer_of_last hAnswer hReceived hLast
  obtain ⟨hBrief, hNone⟩ | ⟨hLasts, lifetime, hSome⟩ := ofValue_issued g keys now token
  · have hUnset : kept.isSet = false := congrArg SessionCookie.isSet (hKept.trans hNone)
    exact ⟨iff_of_true hUnset hBrief, SessionPolicy.toInt_secondsLeft,
      fun hSet => absurd hUnset (by simp [hSet])⟩
  · have hHeld : kept = { held := some { text := "\"" ++ signed ++ "\"", lifetime } } :=
      hKept.trans hSome
    rw [hHeld]
    refine ⟨iff_of_false (by simp [SessionCookie.isSet]) hLasts,
      SessionPolicy.toInt_secondsLeft, ?_⟩
    intro _
    refine ⟨congrArg some (Text.unquote_quoted _), ?_⟩
    intro sent hNone
    have hValue := value?_withCookie (isPlain_pairText keys hToken hPlain) hNone lifetime
    refine ⟨⟨_, hValue, Text.unquote_quoted _⟩, ?_⟩
    intro g' keys' now' seen
    exact presented_signed_iff hToken hValue (Text.unquote_quoted _)

/-- A gate like the one that takes clients at their word, with cookies that persist for a time. -/
def lasting (validity : Duration) : Gate where
  handler := PseudoHandler.handler {}
  policy := { persistent := true, path := some "/", validity }

/-- A client keeps a cookie for ten hours and is known by it after the secret was rotated; a cookie
for a moment less than two seconds it does not keep. -/
theorem cookie_replayed_lasting :
    let keys : Keyring := ⟨Text.Utf8.encode "secret", none⟩
    let value := "u=ann&p=ann&t=simple&e=1700036000000" ++
      "&s=GsTyT2Fe0yyiNBkEoU4MwftMcGOGhQEhnii+TM3moHs="
    let brief := "u=ann&p=ann&t=simple&e=1700000001999" ++
      "&s=+Hpk7qWKdjKaXMg1W7rwJB9KnOOep5wqozLnTmqbwC4="
    let answer := Headers.ofTexts [(Http.setCookieField, "auth=\"" ++ value ++
      "\"; HttpOnly; Path=/; Max-Age=36000; Expires=Wed, 15 Nov 2023 08:13:20 GMT")]
    let answer' := Headers.ofTexts [(Http.setCookieField, "auth=\"" ++ brief ++
      "\"; HttpOnly; Path=/; Max-Age=1; Expires=Tue, 14 Nov 2023 22:13:21 GMT")]
    let kept := ({} : SessionCookie).afterAnswer 1700000000000 answer
    kept.value? = some value ∧
    (lasting (.ofSeconds 36000)).presented (keys.rotate (Text.Utf8.encode "next")) 1700036000000
      (Talk.withCookie { target := { path := "/" } } kept) =
        .valid (.ann (-1) 1700036000000) ∧
    (({} : SessionCookie).afterAnswer 1700000000000 answer').isSet = false := by
  intro keys value brief answer answer' kept
  have hNone : ∀ d, none = some d → IsPlain d := fun _ h => by cases h
  have hPath : ∀ p, some "/" = some p → IsPlain p := by
    rintro _ ⟨⟩
    decide
  have hPlain : ∀ s ∈ ["ann", "ann", "simple"], IsPlain s := by decide
  have hUser : Token.WellFormed .ann :=
    ⟨by decide, by decide, by decide⟩
  have hOutcome : ((PseudoHandler.handler {}).authenticate (claiming "user.name=ann")).run .silent =
      .ok (.authenticated .ann {}) := by decide +kernel
  have hText : ((lasting (.ofSeconds 36000)).sessionCookie keys 1700000000000 false
      (.ann (-1) 1700036000000)).text = "auth=\"" ++ value ++
        "\"; HttpOnly; Path=/; Max-Age=36000; Expires=Wed, 15 Nov 2023 08:13:20 GMT" := by
    rw [sessionCookie, signedText, code_common]
    decide +kernel
  have hText' : ((lasting (.ofMillis 1999)).sessionCookie keys 1700000000000 false
      (.ann (-1) 1700000001999)).text = "auth=\"" ++ brief ++
        "\"; HttpOnly; Path=/; Max-Age=1; Expires=Tue, 14 Nov 2023 22:13:21 GMT" := by
    decide +kernel
  have hCheck : ((lasting (.ofSeconds 36000)).check keys 1700000000000
      (claiming "user.name=ann")).run .silent =
        .ok (.proceed (.ann (-1) 1700036000000) answer) :=
    check_run_of_authenticated (not_vouched_claiming _ _ _ _) hOutcome hUser hPlain hNone hPath
      (by decide +kernel) hText
  have hCheck' : ((lasting (.ofMillis 1999)).check keys 1700000000000
      (claiming "user.name=ann")).run .silent =
        .ok (.proceed (.ann (-1) 1700000001999) answer') :=
    check_run_of_authenticated (not_vouched_claiming _ _ _ _) hOutcome hUser hPlain hNone hPath
      (by decide +kernel) hText'
  obtain ⟨hDropped, -, hBack⟩ := cookie_replayed hNone hPath hCheck rfl
    ⟨by decide, by decide, by decide⟩ hPlain {} 1700000000000
    (show answer.getAll _ = [] ++ _ :: [] from rfl) (by simp)
  obtain ⟨hDropped', -⟩ := cookie_replayed hNone hPath hCheck' rfl
    ⟨by decide, by decide, by decide⟩ hPlain {} 1700000000000
    (show answer'.getAll _ = [] ++ _ :: [] from rfl) (by simp)
  have hKept : kept.isSet = true := by
    rw [← Bool.not_eq_false, hDropped]
    decide
  obtain ⟨hValue, hBack⟩ := hBack hKept
  refine ⟨?_, ?_, hDropped'.mpr (by decide)⟩
  · rw [hValue, code_common]
    decide +kernel
  · exact ((hBack { target := { path := "/" } } (by decide)).2 _ _ _ _).mpr
      ⟨rfl, by decide, by decide, Text.Utf8.encode "secret", by decide +kernel, rfl⟩

end Gate

end SignOn
