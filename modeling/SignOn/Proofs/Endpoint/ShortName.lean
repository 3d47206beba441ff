import SignOn.Proofs.Endpoint.Negotiation
import SignOn.Proofs.Kerberos.Name
import SignOn.Proofs.Kerberos.RuleOrder
import SignOn.Proofs.Text.Case

/-!
# Which short names are simple

Access is checked by bare user names, so a user name should have neither the slash nor the at sign
that set off the parts of a principal. Under the strict mechanism a rule gives only such names, also
when it makes letters small (`RuleSet.isSimple_of_firstDecision?`). But a principal without host and
realm goes by its own text, and no rule is asked. If it has slashes that do not set off a host, a
bare path such as `a/b/c`, then it is a user name as it stands. The users of all other principals
are simple (`RuleSet.simple_names`).
-/

namespace SignOn

open SignOn.Http (Request)

/-! ## Simple names and bare paths -/

namespace PrincipalName

/-- A user name without the signs that set off the parts of a principal. -/
def IsSimple (user : String) : Prop :=
  '/' ∉ user.toList ∧ '@' ∉ user.toList

instance (user : String) : Decidable (IsSimple user) :=
  inferInstanceAs (Decidable (_ ∧ _))

/-- A text with slashes that has no at sign and is not a service with a host. -/
structure IsBarePath (s : String) : Prop where
  slash : '/' ∈ s.toList
  noRealm : '@' ∉ s.toList
  noHost : ∀ service host, IsPart service → IsPart host → s ≠ service ++ "/" ++ host

variable {s user : String} {n : PrincipalName}

theorem IsPart.isSimple (h : IsPart user) : IsSimple user :=
  h.2

theorem isSimple_iff : Rule.isSimple user = true ↔ IsSimple user := by
  simp only [Rule.isSimple, IsSimple, Bool.not_eq_true', List.any_eq_false, isSeparator_iff]
  constructor
  · intro h
    exact ⟨fun hSlash => h _ hSlash (.inl rfl), fun hAt => h _ hAt (.inr rfl)⟩
  · rintro ⟨hSlash, hAt⟩ c hc (rfl | rfl)
    · exact hSlash hc
    · exact hAt hc

theorem IsSimple.lowercase (h : IsSimple user) : IsSimple (Text.lowercase user) :=
  ⟨fun hSlash => h.1 (Text.mem_of_mem_lowercase (by decide) hSlash),
    fun hAt => h.2 (Text.mem_of_mem_lowercase (by decide) hAt)⟩

theorem Proper.not_isBarePath (hProper : n.Proper) : ¬ IsBarePath n.text := by
  obtain ⟨service, host, realm⟩ := n
  intro h
  cases realm with
  | some realm => exact h.noRealm (by simp [text])
  | none =>
    cases host with
    | some host =>
      exact h.noHost service host hProper.service (hProper.host host rfl)
        (by simp [text, String.append_assoc])
    | none =>
      have hText : text { service } = service := by simp [text]
      exact hProper.service.2.1 (hText ▸ h.slash)

/-- The bare paths are the texts with a slash that are read as a service as they stand. -/
theorem isBarePath_iff : IsBarePath s ↔ '/' ∈ s.toList ∧ parse s = .ok { service := s } := by
  obtain ⟨n, hProper, rfl, hParse⟩ | ⟨hNone, ⟨hAt, hParse⟩ | ⟨hAt, hParse⟩⟩ := parse_cases s <;>
    rw [hParse]
  · refine iff_of_false hProper.not_isBarePath ?_
    rintro ⟨hSlash, hRead⟩
    have hService : n.service = n.text := congrArg service (Except.ok.inj hRead)
    exact hProper.service.2.1 (hService ▸ hSlash)
  · refine ⟨fun h => ⟨h.slash, rfl⟩, fun h => ⟨h.1, hAt, ?_⟩⟩
    rintro service host hService hHost rfl
    refine hNone { service, host := some host } ⟨hService, ?_, nofun⟩ ?_
    · rintro _ ⟨⟩
      exact hHost
    · simp [text, String.append_assoc]
  · exact iff_of_false (fun h => h.noRealm hAt) (fun h => by cases h.2)

instance (s : String) : Decidable (IsBarePath s) :=
  decidable_of_iff _ isBarePath_iff.symm

end PrincipalName

/-! ## Rules -/

open PrincipalName (IsSimple IsBarePath)

/-- Under the strict mechanism a rule that applies gives a simple name or fails. -/
theorem Rule.isSimple_of_apply {E : PatternEngine} {rule : Rule E} {params : List String}
    {defaultRealm : Option String} {user : String}
    (h : rule.apply params .hadoop defaultRealm = .ok (some user)) :
    IsSimple user := by
  obtain ⟨mapped, -, hUser⟩ := bind_eq_ok_iff.mp h
  cases mapped with
  | none => cases hUser
  | some name =>
    dsimp only at hUser
    split at hUser
    · cases hUser
    · rename_i hSimple
      have hName : IsSimple name := PrincipalName.isSimple_iff.mp (by simpa using hSimple)
      cases hUser
      split
      · exact hName.lowercase
      · exact hName

namespace RuleSet

variable {E : PatternEngine} {r : RuleSet E} {name : PrincipalName} {user : String}

theorem isSimple_of_firstDecision? {rules : List (Rule E)} {defaultRealm : Option String}
    (h : firstDecision? rules .hadoop defaultRealm name = some (.ok user)) : IsSimple user := by
  obtain ⟨rule, -, hDecision⟩ := List.exists_of_findSome?_eq_some h
  unfold Rule.decision? at hDecision
  split at hDecision
  · cases hDecision
  · rename_i hApply
    cases hDecision
    exact Rule.isSimple_of_apply hApply
  · cases hDecision

/-- The short name of a name with a host or a realm comes from a rule. -/
theorem isSimple_of_shortName (hStrict : r.mechanism = .hadoop)
    (hName : name.host ≠ none ∨ name.realm ≠ none) (h : r.shortName name = .ok user) :
    IsSimple user := by
  rw [shortName_eq hName, hStrict] at h
  cases hFirst : firstDecision? r.rules .hadoop r.defaultRealm name with
  | none =>
    rw [hFirst] at h
    cases h
  | some decision =>
    rw [hFirst, Option.getD_some] at h
    subst h
    exact isSimple_of_firstDecision? hFirst

theorem isSimple_shortName_iff (hStrict : r.mechanism = .hadoop) {s : String}
    (hParse : PrincipalName.parse s = .ok name) (h : r.shortName name = .ok user) :
    IsSimple user ↔ ¬ IsBarePath s := by
  obtain ⟨n, hProper, rfl, hRead⟩ | ⟨-, ⟨hAt, hRead⟩ | ⟨-, hRead⟩⟩ :=
    PrincipalName.parse_cases s <;> rw [hParse] at hRead
  · cases hRead
    refine iff_of_true ?_ hProper.not_isBarePath
    by_cases hName : name.host ≠ none ∨ name.realm ≠ none
    · exact isSimple_of_shortName hStrict hName h
    · obtain ⟨service, host, realm⟩ := name
      obtain ⟨rfl, rfl⟩ : host = none ∧ realm = none := by simpa using hName
      cases h
      exact hProper.service.isSimple
  · cases hRead
    cases h
    rw [IsSimple, PrincipalName.isBarePath_iff, hParse]
    simp [hAt]
  · cases hRead

/-- **Simple names.** Under the strict mechanism the short name of a text, whatever the rules, is
simple exactly if the text is not a bare path, and so is the user of each token that a handler with
such rules issues, by the principal of the token. A bare path is always its own short name. -/
theorem simple_names (r : RuleSet E) (hStrict : r.mechanism = .hadoop) :
    (∀ s name user, PrincipalName.parse s = .ok name → r.shortName name = .ok user →
      (IsSimple user ↔ ¬ IsBarePath s)) ∧
    (∀ s, IsBarePath s → ∃ name, PrincipalName.parse s = .ok name ∧ r.shortName name = .ok s) ∧
    ∀ (n : Negotiator E) (request : Request) authorities token headers, n.rules = r →
      (n.authenticate request).run authorities = .ok (.authenticated token headers) →
      (IsSimple token.user ↔ ¬ IsBarePath token.principal) := by
  refine ⟨fun s name user => isSimple_shortName_iff hStrict, ?_, ?_⟩
  · intro s hPath
    exact ⟨_, (PrincipalName.isBarePath_iff.mp hPath).2, rfl⟩
  · rintro n request authorities token headers rfl hRun
    obtain ⟨credential, ticket, -, hAttempt⟩ | ⟨-, result, hAttempt, hResult⟩ :=
      n.authenticate_cases request
    · rw [hAttempt, Attempt.run, Negotiator.outcome_authenticated_iff] at hRun
      obtain ⟨client, output, -, ⟨name, user, hName, hUser, rfl, -⟩, -⟩ := hRun
      exact isSimple_shortName_iff hStrict hName hUser
    · rw [hAttempt, Attempt.run, hResult] at hRun
      obtain ⟨-, rfl, -⟩ := hRun
      -- Nobody has the empty name, by which an exempt path is passed.
      exact iff_of_true (by simp [IsSimple, Token.anonymous])
        fun h => absurd h.slash (by simp [Token.anonymous])

/-- A handler with one credential whose rule makes the letters of users small. -/
def smallLetters : Negotiator .usual where
  credentials := [⟨"HTTP/web", "web.keytab"⟩]
  rules := { rules := [.mapping ⟨1, "$1", none, none, true⟩] }

/-- Simple users whatever their letters, and a path that stays as it is. -/
theorem simple_names_small :
    let rules := smallLetters.rules
    let name : PrincipalName := { service := "ANN", realm := some "R" }
    let token : Token := { user := "ann", principal := "ANN@R", kind := "kerberos" }
    let authorities : Authorities :=
      ⟨fun _ => .error "", fun _ _ => .ok (.established "ANN@R" none)⟩
    PrincipalName.parse "ANN@R" = .ok name ∧ rules.shortName name = .ok "ann" ∧
      (smallLetters.authenticate Negotiator.webRequest).run authorities =
        .ok (.authenticated token {}) ∧
      IsSimple "ann" ∧ ¬ IsBarePath "ANN@R" ∧
      ∃ path, PrincipalName.parse "/ANN" = .ok path ∧ rules.shortName path = .ok "/ANN" := by
  intro rules name token authorities
  have hParse : PrincipalName.parse "ANN@R" = .ok name := by decide
  have hShort : rules.shortName name = .ok "ann" := by decide +kernel
  have hAsks : smallLetters.Asks Negotiator.webRequest ⟨"HTTP/web", "web.keytab"⟩
      Negotiator.webTicket :=
    Negotiator.asks_webRequest rfl (Negotiator.credentialFor_eq_ok_iff.mp (by decide +kernel))
  have hRun : (smallLetters.authenticate Negotiator.webRequest).run authorities =
      .ok (.authenticated token {}) := by
    rw [hAsks.authenticate_eq, Attempt.run]
    decide +kernel
  obtain ⟨hNames, hPaths, hTokens⟩ := simple_names rules rfl
  have hPath : ¬ IsBarePath "ANN@R" := (hNames "ANN@R" name "ann" hParse hShort).mp (by decide)
  have hSimple : IsSimple token.user := (hTokens _ _ _ token {} rfl hRun).mpr hPath
  exact ⟨hParse, hShort, hRun, hSimple, hPath, hPaths "/ANN" (by decide)⟩

/-- The usual rules are strict, and yet they take a bare path for a user. -/
theorem bare_path_not_simple :
    let usual : RuleSet .usual := {}
    let name : PrincipalName := { service := "a/b/c" }
    let token : Token := { user := "a/b/c", principal := "a/b/c", kind := "kerberos" }
    parse "DEFAULT" = .ok usual ∧ usual.mechanism = .hadoop ∧
      PrincipalName.parse "a/b/c" = .ok name ∧ usual.shortName name = .ok "a/b/c" ∧
      ({ credentials := [], rules := usual } : Negotiator .usual).tokenOf "a/b/c" = .ok token ∧
      ¬ IsSimple token.user := by
  decide

end RuleSet

end SignOn
