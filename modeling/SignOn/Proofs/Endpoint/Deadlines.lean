import Mathlib.Algebra.Group.Int.Defs
import Mathlib.Algebra.Group.Nat.Defs
import Mathlib.Tactic.Common
import SignOn.Proofs.Endpoint.Lifetime

/-!
# Configured deadlines

The lengths of sessions are configured in seconds, in 64 bits with a sign, and every positive number
is accepted. Deadlines are epoch milliseconds in 64 bits with a sign. So a deadline is where it
should be exactly if the moment and a thousand times the number of seconds fit in there together
(`DeadlineAfter`), and then it lies ahead. A greater number wraps around: a session that is meant to
last for three hundred million years may be over before it begins.

Every token with which a request of a user passes has such deadlines (`Gate.configured_deadlines`).
-/

namespace SignOn

open SignOn.Http (Headers Request IsPlain)

/-! ## Seconds after a moment -/

/-- A deadline for which a moment and a number of seconds after it were given. -/
structure DeadlineAfter (now seconds deadline : Int64) : Prop where
  wraps : deadline.toInt = (now.toInt + 1000 * seconds.toInt).bmod (2 ^ 64)
  exact_iff : deadline.toInt = now.toInt + 1000 * seconds.toInt ↔
    now.toInt + 1000 * seconds.toInt < 2 ^ 63
  ahead : now.toInt + 1000 * seconds.toInt < 2 ^ 63 → deadline ≠ -1 ∧ now < deadline

namespace SessionPolicy

theorem millis_seconds {n : Int64} (h : 0 < n) : ((seconds n).millis : ℤ) = 1000 * n.toInt := by
  rw [Int64.lt_iff_toInt_lt, Int64.toInt_zero] at h
  rw [Duration.millis, seconds, Duration.ofSeconds]
  dsimp only
  omega

theorem deadlineAfter_seconds {now n : Int64} (hNow : 0 ≤ now.toInt) (hn : 0 < n) :
    DeadlineAfter now n (now + (seconds n).wrappedMillis) := by
  have hMillis := millis_seconds hn
  have hPositive := hn
  rw [Int64.lt_iff_toInt_lt, Int64.toInt_zero] at hPositive
  have hExact : now.toInt + 1000 * n.toInt < 2 ^ 63 →
      (now + (seconds n).wrappedMillis).toInt = now.toInt + 1000 * n.toInt := by
    rw [← hMillis]
    exact Duration.toInt_add_wrappedMillis hNow
  constructor
  · rw [Duration.toInt_add_wrappedMillis_bmod, hMillis]
  · refine ⟨fun hDeadline => ?_, hExact⟩
    rw [← hDeadline]
    exact Int64.toInt_lt _
  · intro hRange
    have hLater : now.toInt < (now + (seconds n).wrappedMillis).toInt := by
      rw [hExact hRange]
      omega
    refine ⟨?_, Int64.lt_iff_toInt_lt.mpr hLater⟩
    -- The deadline that is never reached is not positive.
    intro hNever
    rw [hNever] at hLater
    have hMark : (-1 : Int64).toInt = -1 := by decide
    omega

/-! ## Reading the configuration -/

/-- A policy is read if the validity is positive and the other values can be read at all. -/
theorem ofProperties_eq_ok_iff {props : Properties} {p : SessionPolicy} :
    ofProperties props = .ok p ↔
      ∃ validity idle persistent,
        props.getInt64 validityKey usualSeconds = .ok validity ∧ 0 < validity ∧
        props.getInt64 maxInactiveKey (-1) = .ok idle ∧
        props.getBool persistentKey false = .ok persistent ∧
        p = {
          validity := seconds validity
          maxInactive := if 0 < idle then some (seconds idle) else none
          domain := props.getTrimmed? domainKey
          path := props.getTrimmed? pathKey
          persistent } := by
  unfold ofProperties
  simp only [bind_eq_ok_iff, misconfigured, guard_eq_ok_iff, Int64.not_le]
  constructor
  · rintro ⟨validity, hValidity, hPositive, idle, hIdle, persistent, hPersistent, h⟩
    cases h
    exact ⟨validity, idle, persistent, hValidity, hPositive, hIdle, hPersistent, rfl⟩
  · rintro ⟨validity, idle, persistent, hValidity, hPositive, hIdle, hPersistent, rfl⟩
    exact ⟨validity, hValidity, hPositive, idle, hIdle, persistent, hPersistent, rfl⟩

end SessionPolicy

/-! ## The token of a request that passes -/

/-- The deadline for inactivity of a user's token when it is moved, where inactivity is limited to a
number of seconds or, if that is not positive, does not matter. -/
theorem SessionPolicy.deadlineAfter_refresh {p : SessionPolicy} {base token : Token}
    {now idle : Int64} (hLength : p.maxInactive = if 0 < idle then some (seconds idle) else none)
    (hNow : 0 ≤ now.toInt) (hToken : token = p.refresh base now)
    (hNamed : token.isAnonymous = false) :
    (0 < idle → DeadlineAfter now idle token.maxInactive) ∧
      (idle ≤ 0 → token.maxInactive = base.maxInactive) := by
  have hBase : base.isAnonymous = false := by
    rw [← Token.isAnonymous_of_sameUser (p.sameUser_refresh base now), ← hToken, hNamed]
  constructor
  · intro hIdle
    rw [if_pos hIdle] at hLength
    simp only [hToken, refresh, hLength]
    rw [Token.toTokenState_setMaxInactive hBase]
    exact deadlineAfter_seconds hNow hIdle
  · intro hIdle
    rw [if_neg (Int64.not_lt.mpr hIdle)] at hLength
    simp only [hToken, refresh, hLength]

namespace Gate

variable {g : Gate} {keys : Keyring} {now validity idle : Int64} {request : Request}
  {seen token : Token} {authorities : Authorities} {headers : Headers}

theorem welcome_proceed_named {secure : Bool} {fields : Headers}
    (h : g.welcome keys now secure seen fields = .ok (.proceed token headers))
    (hNamed : token.isAnonymous = false) :
    ∃ base, token = g.policy.refresh base now ∧ base.expires = g.policy.expiry now ∧
      base.maxInactive = seen.maxInactive := by
  have hSeen : seen.isAnonymous = false := by
    rw [← Token.isAnonymous_of_sameUser (welcome_proceed h), hNamed]
  refine ⟨_, ((welcome_proceed_iff hSeen).mp h).1, ?_, ?_⟩ <;>
    rw [Token.toTokenState_setExpires hSeen] <;> rfl

/-- If a session has not ended, its token is good unless a deadline for inactivity has passed that
was there before. -/
theorem isExpired_eq_false_iff_of_deadlineAfter
    (hIdle : 0 < idle → DeadlineAfter now idle token.maxInactive)
    (hKept : idle ≤ 0 → token.maxInactive = seen.maxInactive)
    (hRange : 0 < idle → now.toInt + 1000 * idle.toInt < 2 ^ 63)
    (hExpires : Token.isPast token.expires now = false) :
    token.isExpired now = false ↔ 0 < idle ∨ Token.isPast seen.maxInactive now = false := by
  rw [Token.isExpired, hExpires, Bool.or_false]
  by_cases h : 0 < idle
  · have hAhead := ((hIdle h).ahead (hRange h)).2
    simp only [h, true_or, iff_true]
    exact Token.isPast_eq_false_iff.mpr (.inr (Int64.le_of_lt hAhead))
  · simp only [h, false_or, hKept (Int64.not_lt.mp h)]

theorem deadlines_of_vouched (hSeen : g.Vouched keys now request seen)
    (hLength : g.policy.maxInactive = if 0 < idle then some (SessionPolicy.seconds idle) else none)
    (hNow : 0 ≤ now.toInt)
    (hCheck : (g.check keys now request).run authorities = .ok (.proceed token headers))
    (hNamed : token.isAnonymous = false) :
    (0 < idle → DeadlineAfter now idle token.maxInactive) ∧ token.expires = seen.expires ∧
      ((0 < idle → now.toInt + 1000 * idle.toInt < 2 ^ 63) → token.isExpired now = false) := by
  rw [check_of_vouched hSeen] at hCheck
  obtain ⟨hToken, -⟩ := (resume_proceed_iff hSeen.wellFormed.1).mp hCheck
  obtain ⟨hLimited, hKept⟩ := SessionPolicy.deadlineAfter_refresh hLength hNow hToken hNamed
  have hExpires : token.expires = seen.expires := by
    rw [hToken, SessionPolicy.expires_refresh]
  obtain ⟨-, -, -, -, -, -, -, -, -, -, hNotIdle, hNotOver⟩ := hSeen
  refine ⟨hLimited, hExpires, fun hRange => ?_⟩
  refine (isExpired_eq_false_iff_of_deadlineAfter hLimited hKept hRange ?_).mpr
    (.inr (Token.isPast_eq_false_iff.mpr hNotIdle))
  rw [hExpires]
  exact Token.isPast_eq_false_iff.mpr hNotOver

theorem deadlines_of_not_vouched (hNone : ∀ other, ¬ g.Vouched keys now request other)
    (hLength : g.policy.maxInactive = if 0 < idle then some (SessionPolicy.seconds idle) else none)
    (hValidity : g.policy.validity = SessionPolicy.seconds validity) (hPositive : 0 < validity)
    (hNow : 0 ≤ now.toInt)
    (hCheck : (g.check keys now request).run authorities = .ok (.proceed token headers))
    (hNamed : token.isAnonymous = false) :
    (0 < idle → DeadlineAfter now idle token.maxInactive) ∧
      DeadlineAfter now validity token.expires ∧
      ∃ seen fields,
        (g.handler.authenticate request).run authorities = .ok (.authenticated seen fields) ∧
        (idle ≤ 0 → token.maxInactive = seen.maxInactive) ∧
        (now.toInt + 1000 * validity.toInt < 2 ^ 63 →
          (0 < idle → now.toInt + 1000 * idle.toInt < 2 ^ 63) →
          (token.isExpired now = false ↔
            0 < idle ∨ Token.isPast seen.maxInactive now = false)) := by
  obtain ⟨rejected, hRun⟩ := check_run_of_not_vouched authorities hNone
  rw [hRun] at hCheck
  obtain ⟨seen, fields, hOutcome, -⟩ := decide_proceed hCheck
  rw [hOutcome] at hCheck
  obtain ⟨base, hToken, hExpires, hBase⟩ := welcome_proceed_named hCheck hNamed
  obtain ⟨hLimited, hKept⟩ := SessionPolicy.deadlineAfter_refresh hLength hNow hToken hNamed
  rw [hBase] at hKept
  have hEnds : DeadlineAfter now validity token.expires := by
    rw [hToken, SessionPolicy.expires_refresh, hExpires, SessionPolicy.expiry, hValidity]
    exact SessionPolicy.deadlineAfter_seconds hNow hPositive
  refine ⟨hLimited, hEnds, seen, fields, hOutcome, hKept, fun hValid hRange => ?_⟩
  exact isExpired_eq_false_iff_of_deadlineAfter hLimited hKept hRange
    (Token.isPast_eq_false_iff.mpr (.inr (Int64.le_of_lt (hEnds.ahead hValid).2)))

/-- **Which deadlines the configuration makes.** A request of a user that passes has, if inactivity
is limited, a deadline so many seconds after this moment. If it begins a session, the session ends
after the configured validity; otherwise it ends when it was to end. Each deadline that is set is
exact if and only if it is less than 2⁶³ epoch milliseconds, and wraps around otherwise. If they are
exact, the token has not expired, unless the handler itself has set a deadline that has passed. -/
theorem configured_deadlines {props : Properties}
    (hPolicy : SessionPolicy.ofProperties props = .ok g.policy) (hNow : 0 ≤ now.toInt)
    (hCheck : (g.check keys now request).run authorities = .ok (.proceed token headers))
    (hNamed : token.isAnonymous = false) :
    ∃ validity idle,
      props.getInt64 SessionPolicy.validityKey SessionPolicy.usualSeconds = .ok validity ∧
      props.getInt64 SessionPolicy.maxInactiveKey (-1) = .ok idle ∧ 0 < validity ∧
      (0 < idle → DeadlineAfter now idle token.maxInactive) ∧
      ((∀ other, ¬ g.Vouched keys now request other) →
        DeadlineAfter now validity token.expires ∧
        ∃ seen fields,
          (g.handler.authenticate request).run authorities = .ok (.authenticated seen fields) ∧
          (idle ≤ 0 → token.maxInactive = seen.maxInactive) ∧
          (now.toInt + 1000 * validity.toInt < 2 ^ 63 →
            (0 < idle → now.toInt + 1000 * idle.toInt < 2 ^ 63) →
            (token.isExpired now = false ↔
              0 < idle ∨ Token.isPast seen.maxInactive now = false))) ∧
      (∀ seen, g.Vouched keys now request seen → token.expires = seen.expires ∧
        ((0 < idle → now.toInt + 1000 * idle.toInt < 2 ^ 63) → token.isExpired now = false)) := by
  obtain ⟨validity, idle, persistent, hValidity, hPositive, hIdle, -, hRead⟩ :=
    SessionPolicy.ofProperties_eq_ok_iff.mp hPolicy
  have hLength : g.policy.maxInactive =
      if 0 < idle then some (SessionPolicy.seconds idle) else none := by rw [hRead]
  have hSpan : g.policy.validity = SessionPolicy.seconds validity := by rw [hRead]
  refine ⟨validity, idle, hValidity, hIdle, hPositive, ?_, fun hNone => ?_, fun seen hSeen => ?_⟩
  · by_cases hv : ∃ seen, g.Vouched keys now request seen
    · obtain ⟨seen, hSeen⟩ := hv
      exact (deadlines_of_vouched hSeen hLength hNow hCheck hNamed).1
    · have hNone : ∀ seen, ¬ g.Vouched keys now request seen := fun seen hs => hv ⟨seen, hs⟩
      exact (deadlines_of_not_vouched hNone hLength hSpan hPositive hNow hCheck hNamed).1
  · exact (deadlines_of_not_vouched hNone hLength hSpan hPositive hNow hCheck hNamed).2
  · exact (deadlines_of_vouched hSeen hLength hNow hCheck hNamed).2

/-- A gate that takes clients at their word, with the lengths of sessions that were configured. -/
def timed (validity : Int64) (maxInactive : Option Duration) : Gate :=
  { credulous with policy := { validity := SessionPolicy.seconds validity, maxInactive } }

theorem check_timed (validity : Int64) (maxInactive : Option Duration) (keys : Keyring)
    (now : Int64) :
    ∃ headers, ((timed validity maxInactive).check keys now (claiming "user.name=ann")).run
      .silent = .ok (.proceed ((timed validity maxInactive).policy.refresh
        (.ann (-1) ((timed validity maxInactive).policy.expiry now)) now) headers) := by
  have hNone : ∀ s, none = some s → IsPlain s := fun _ h => by cases h
  have hOutcome : (credulous.handler.authenticate (claiming "user.name=ann")).run .silent =
      .ok (.authenticated .ann {}) := by decide +kernel
  exact ⟨_, check_run_of_authenticated (not_vouched_claiming _ _ _ _) hOutcome
    ⟨by decide, by decide, by decide⟩ (by decide) hNone hNone rfl rfl⟩

/-- A session of an hour at most half of which may go unused. -/
theorem configured_deadlines_hour :
    let props : Properties :=
      ⟨[("token.max-inactive-interval", "1800"), ("token.validity", "3600")]⟩
    let g := timed 3600 (some (SessionPolicy.seconds 1800))
    let token : Token := .ann 1700001800000 1700003600000
    SessionPolicy.ofProperties props = .ok g.policy ∧
      (∃ headers, (g.check ⟨Text.Utf8.encode "secret", none⟩ 1700000000000
        (claiming "user.name=ann")).run .silent = .ok (.proceed token headers)) ∧
      DeadlineAfter 1700000000000 1800 token.maxInactive ∧
      DeadlineAfter 1700000000000 3600 token.expires := by
  intro props g token
  have hRead : SessionPolicy.ofProperties props = .ok g.policy := by decide +kernel
  have hToken : g.policy.refresh (.ann (-1) (g.policy.expiry 1700000000000)) 1700000000000 =
      token := by decide +kernel
  obtain ⟨headers, hCheck⟩ := check_timed 3600 (some (SessionPolicy.seconds 1800))
    ⟨Text.Utf8.encode "secret", none⟩ 1700000000000
  rw [hToken] at hCheck
  obtain ⟨validity, idle, hValidity, hIdle, -, hLimited, hFresh, -⟩ :=
    configured_deadlines hRead (by decide) hCheck (by decide)
  have hSpan : props.getInt64 SessionPolicy.validityKey SessionPolicy.usualSeconds =
      .ok 3600 := by decide +kernel
  have hLength : props.getInt64 SessionPolicy.maxInactiveKey (-1) = .ok 1800 := by decide +kernel
  obtain rfl : validity = 3600 := Except.ok.inj (hValidity.symm.trans hSpan)
  obtain rfl : idle = 1800 := Except.ok.inj (hIdle.symm.trans hLength)
  exact ⟨hRead, ⟨headers, hCheck⟩, hLimited (by decide), (hFresh (not_vouched_claiming _ _ _ _)).1⟩

/-- A session for which three hundred million years were configured is over before it begins. -/
theorem configured_deadlines_wrapped :
    let props : Properties := ⟨[("token.validity", "9223372036854776")]⟩
    let g := timed 9223372036854776 none
    let token : Token := .ann (-1) (-9223370336854775616)
    SessionPolicy.ofProperties props = .ok g.policy ∧
      (∃ headers, (g.check ⟨Text.Utf8.encode "secret", none⟩ 1700000000000
        (claiming "user.name=ann")).run .silent = .ok (.proceed token headers)) ∧
      token.isAnonymous = false ∧
      token.expires.toInt ≠ (1700000000000 : Int64).toInt + 1000 * 9223372036854776 ∧
      token.isExpired 1700000000000 = true := by
  intro props g token
  have hToken : g.policy.refresh (.ann (-1) (g.policy.expiry 1700000000000)) 1700000000000 =
      token := by decide +kernel
  obtain ⟨headers, hCheck⟩ := check_timed 9223372036854776 none
    ⟨Text.Utf8.encode "secret", none⟩ 1700000000000
  rw [hToken] at hCheck
  exact ⟨by decide +kernel, ⟨headers, hCheck⟩, by decide, by decide, by decide⟩

end Gate

end SignOn
