import SignOn.Proofs.Endpoint.Admission
import SignOn.Proofs.Endpoint.Directory

/-!
# What an answer tells of a password

The handler that asks a directory lets an answer depend on a password in one way: on whether the
directory accepts it. What the directory says about a refusal is dropped, and the failure names the
entry that was asked for and nothing else (`DirectoryHandler.verdict_of_refused`). So of two
passwords that the directory is asked about and treats alike, no one can tell which one was given,
neither from the outcome nor from what a gate in front of a service answers
(`DirectoryHandler.password_hidden`).
-/

namespace SignOn

open SignOn.Http (Headers Request Response)

/-! ## Requests that differ in their credentials -/

/-- The requests have the same target and the same fields but for the credentials. -/
structure Http.Request.SameApart (request request' : Request) : Prop where
  target : request.target = request'.target
  fields : ∀ name, name ≠ Http.authorizationField →
    request.headers.getAll name = request'.headers.getAll name

namespace Gate

variable {g : Gate} {keys : Keyring} {now : Int64} {request request' : Request}

/-- The credentials play no part in what a session cookie says. -/
theorem presented_congr (hSame : request.SameApart request') :
    g.presented keys now request = g.presented keys now request' := by
  have hCookie : Http.Cookie.value? request.headers SessionPolicy.cookieName =
      Http.Cookie.value? request'.headers SessionPolicy.cookieName := by
    unfold Http.Cookie.value? Headers.texts
    rw [hSame.fields Http.cookieField (by decide)]
  rw [presented, presented, hCookie]

theorem check_run_congr {authorities authorities' : Authorities}
    (hSame : request.SameApart request')
    (hOutcome : (g.handler.authenticate request).run authorities =
      (g.handler.authenticate request').run authorities') :
    (g.check keys now request).run authorities =
      (g.check keys now request').run authorities' := by
  unfold check
  rw [presented_congr hSame, hSame.target]
  cases g.presented keys now request' with
  | absent => simp only [Attempt.run_andThen, hOutcome]
  | rejected => simp only [Attempt.run_andThen, hOutcome]
  | valid token => rfl

end Gate

theorem Service.answer_congr {m : Type → Type} [Monad m] {serve : Token → Request → m Response}
    {request request' : Request} (h : ∀ token, serve token request = serve token request')
    (decision : Result Decision) :
    answer serve request decision = answer serve request' decision := by
  match decision with
  | .ok (.proceed token headers) => simp only [answer, h token]
  | .ok (.respond challenge) => rfl
  | .error e => rfl

/-! ## Two passwords -/

namespace DirectoryHandler

variable {h : DirectoryHandler} {user password password' name : String}

theorem verdict_of_refused {answer : Except String Unit} (hRefused : answer.isOk = false) :
    h.verdict name answer = .error ⟨.directory (.refused (h.naming.entryOf name)), none⟩ := by
  cases answer with
  | error reason => rfl
  | ok => cases hRefused

/-- All that counts of an answer is whether it is a refusal. -/
theorem verdict_congr {answer answer' : Except String Unit} (hAnswer : answer.isOk = answer'.isOk) :
    h.verdict name answer = h.verdict name answer' := by
  cases answer with
  | error reason =>
    cases answer' with
    | error reason' => rfl
    | ok => cases hAnswer
  | ok =>
    cases answer' with
    | error reason' => cases hAnswer
    | ok => rfl

theorem authenticateUser_run_congr {authorities authorities' : Authorities}
    (hPassword : isBlankPassword password = false) (hPassword' : isBlankPassword password' = false)
    (hVerdict : (authorities.bind (h.bindRequest (h.naming.qualify user) password)).isOk =
      (authorities'.bind (h.bindRequest (h.naming.qualify user) password')).isOk) :
    (h.authenticateUser user password).run authorities =
      (h.authenticateUser user password').run authorities' := by
  by_cases hUser : user = ""
  · have hEmpty : user.isEmpty = true := by simp [hUser]
    rw [authenticateUser, authenticateUser, if_pos hEmpty, if_pos hEmpty]
    rfl
  · rw [authenticateUser_of_named hUser hPassword, authenticateUser_of_named hUser hPassword',
      Attempt.run, Attempt.run]
    exact verdict_congr hVerdict

/-- **Nothing is told of a password but whether the directory accepts it.** Let the directory be
asked about two passwords of a user, and either accept both or refuse both, in whatever words. Then
the outcomes are the same: the same token, or the same failure, with one kind, message and view for
developers, which for a refusal are those of the entry alone. Two requests that carry these
passwords, and do not differ otherwise, are decided alike at every gate with this handler, and are
given the same answer by a service that does not look at the credentials itself. -/
theorem password_hidden (h : DirectoryHandler) (user password password' : String)
    (authorities authorities' : Authorities) (hPassword : isBlankPassword password = false)
    (hPassword' : isBlankPassword password' = false)
    (hVerdict : (authorities.bind (h.bindRequest (h.naming.qualify user) password)).isOk =
      (authorities'.bind (h.bindRequest (h.naming.qualify user) password')).isOk) :
    (h.authenticateUser user password).run authorities =
        (h.authenticateUser user password').run authorities' ∧
      (user ≠ "" →
        (authorities.bind (h.bindRequest (h.naming.qualify user) password)).isOk = false →
        (h.authenticateUser user password).run authorities =
          .error ⟨.directory (.refused (h.naming.entryOf (h.naming.qualify user))), none⟩) ∧
      ∀ request request', request.LogsIn user password → request'.LogsIn user password' →
        (h.authenticate request).run authorities = (h.authenticate request').run authorities' ∧
        (request.SameApart request' → ∀ (policy : SessionPolicy) keys now,
          ((⟨h.handler, policy⟩ : Gate).check keys now request).run authorities =
            ((⟨h.handler, policy⟩ : Gate).check keys now request').run authorities' ∧
          ∀ (m : Type → Type) [Monad m] (serve : Token → Request → m Response),
            (∀ token, serve token request = serve token request') →
            Service.guarded ⟨h.handler, policy⟩ serve authorities keys now request =
              Service.guarded ⟨h.handler, policy⟩ serve authorities' keys now request') := by
  have hSame := authenticateUser_run_congr hPassword hPassword' hVerdict
  refine ⟨hSame, ?_, ?_⟩
  · intro hUser hRefused
    rw [authenticateUser_of_named hUser hPassword, Attempt.run]
    exact verdict_of_refused hRefused
  · intro request request' hLog hLog'
    have hOutcome : (h.authenticate request).run authorities =
        (h.authenticate request').run authorities' := by
      rw [authenticate_of_logsIn hLog, authenticate_of_logsIn hLog']
      exact hSame
    refine ⟨hOutcome, ?_⟩
    intro hApart policy keys now
    have hChecked : ((⟨h.handler, policy⟩ : Gate).check keys now request).run authorities =
        ((⟨h.handler, policy⟩ : Gate).check keys now request').run authorities' :=
      Gate.check_run_congr hApart hOutcome
    refine ⟨hChecked, ?_⟩
    intro m _ serve hServe
    rw [Service.guarded, Service.guarded, hChecked]
    exact Service.answer_congr hServe _

/-- Two wrong passwords, one of which the directory repeats when it refuses it: no gate and no
service behind it shows which one was given. -/
theorem password_hidden_repeated :
    let authorities : Authorities :=
      ⟨fun r => .error (r.password ++ " is not the password of " ++ r.name), fun _ _ => .error ""⟩
    let silent : Authorities := ⟨fun _ => .error "49", fun _ _ => .error ""⟩
    (exampleDomain.authenticateUser "bob" "hunter2").run authorities =
      .error ⟨.directory (.refused "bob@EXAMPLE.COM"), none⟩ ∧
    ∀ (policy : SessionPolicy) keys now (m : Type → Type) [Monad m] (serve : Token → m Response),
      Service.guarded ⟨exampleDomain.handler, policy⟩ (fun token _ => serve token) authorities keys
          now (carrying "Basic Ym9iOmh1bnRlcjI=") =
        Service.guarded ⟨exampleDomain.handler, policy⟩ (fun token _ => serve token) silent keys
          now (carrying "Basic Ym9iOmh1bnRlcjM=") := by
  intro authorities silent
  obtain ⟨-, hRefused, hRequests⟩ := password_hidden exampleDomain "bob" "hunter2" "hunter3"
    authorities silent (by decide) (by decide) rfl
  have hApart : (carrying "Basic Ym9iOmh1bnRlcjI=").SameApart
      (carrying "Basic Ym9iOmh1bnRlcjM=") := by
    refine ⟨rfl, fun name hName => ?_⟩
    simp [carrying, Headers.ofTexts, Headers.getAll, hName.symm]
  refine ⟨hRefused (by decide) rfl, ?_⟩
  intro policy keys now m _ serve
  exact ((hRequests _ _ (logsIn_iff.mpr rfl) (logsIn_iff.mpr rfl)).2
    hApart policy keys now).2 m _ fun _ => rfl

end DirectoryHandler

end SignOn
