import Mathlib.Algebra.Group.Int.Defs
import Mathlib.Data.Int.ModEq
import Mathlib.Order.Bounds.Basic
import Mathlib.Tactic.Linarith
import Mathlib.Tactic.Ring
import SignOn.Keyring.Source

/-!
# How long a new member waits

The record of a fleet says when its next rotation falls due. If that is past, because the members
have been down or cannot reach the store, a new member moves the deadline forward until it lies
ahead: by one interval, then by two more, then by three more, and so on. So the number of intervals
after `n` moves is the sum of the first `n` numbers, and the search always ends
(`Member.firstDelay_exact`).

The deadlines of the fleet are one interval apart. The new member therefore meets the next one of
them only if the number of intervals up to it is such a sum, as 1, 3, 6 and 10 are, but not 2, 4
or 5; otherwise it comes in later, by fewer intervals than it made moves.
-/

namespace SignOn.Member

/-! ## Sums of the first numbers -/

/-- The number of intervals that the first `n` moves make up together: one, two and so on up to `n`.
-/
def movedIntervals (n : ℕ) : ℕ :=
  n * (n + 1) / 2

theorem two_mul_movedIntervals (n : ℕ) : 2 * movedIntervals n = n * (n + 1) :=
  Nat.mul_div_cancel' (Nat.even_mul_succ_self n).two_dvd

theorem movedIntervals_succ (n : ℕ) : movedIntervals (n + 1) = movedIntervals n + (n + 1) := by
  have hNow := two_mul_movedIntervals n
  have hNext := two_mul_movedIntervals (n + 1)
  have hStep : (n + 1) * (n + 1 + 1) = n * (n + 1) + 2 * (n + 1) := by ring
  omega

/-! ## Moves -/

/-- The delay after `n` moves. -/
def movedDelay (interval delay : ℤ) (n : ℕ) : ℤ :=
  delay + interval * movedIntervals n

variable {interval delay : ℤ} {n : ℕ}

theorem movedDelay_zero : movedDelay interval delay 0 = delay := by
  simp [movedDelay, movedIntervals]

theorem movedDelay_succ :
    movedDelay interval delay (n + 1) = movedDelay interval delay n + interval * (n + 1) := by
  rw [movedDelay, movedDelay, movedIntervals_succ]
  push_cast
  ring

theorem movedDelay_mono (hInterval : 0 < interval) (delay : ℤ) {k : ℕ} (h : k ≤ n) :
    movedDelay interval delay k ≤ movedDelay interval delay n := by
  induction h with
  | refl => exact le_rfl
  | @step n _ ih =>
    have hMove : 0 ≤ interval * (n + 1) := by positivity
    rw [movedDelay_succ]
    omega

theorem movedDelay_pos_iff (hInterval : 0 < interval) :
    0 < movedDelay interval delay n ↔ -delay / interval < movedIntervals n := by
  rw [Int.ediv_lt_iff_lt_mul hInterval, movedDelay, mul_comm]
  omega

theorem positiveDelay_of_pos (h : 0 < movedDelay interval delay n) :
    positiveDelay interval (movedDelay interval delay n) n = movedDelay interval delay n := by
  rw [positiveDelay, if_neg (by omega)]

theorem positiveDelay_of_nonpos (hInterval : 0 < interval)
    (h : movedDelay interval delay n ≤ 0) :
    positiveDelay interval (movedDelay interval delay n) n =
      positiveDelay interval (movedDelay interval delay (n + 1)) (n + 1) := by
  rw [positiveDelay, if_pos ⟨hInterval, by omega⟩, movedDelay_succ]

/-- A delay is moved until it is positive for the first time. -/
theorem positiveDelay_eq (hInterval : 0 < interval) (delay : ℤ) :
    ∃ n, positiveDelay interval delay 0 = movedDelay interval delay n ∧
      0 < movedDelay interval delay n ∧ ∀ k < n, movedDelay interval delay k ≤ 0 := by
  -- After any number of moves, the search goes on with the first one that is enough.
  have hSearch : ∀ k, (∀ j < k, movedDelay interval delay j ≤ 0) →
      ∃ n, positiveDelay interval (movedDelay interval delay k) k = movedDelay interval delay n ∧
        0 < movedDelay interval delay n ∧ ∀ j < n, movedDelay interval delay j ≤ 0 := by
    intro k
    induction hLeft : (1 - movedDelay interval delay k).toNat using Nat.strongRecOn
      generalizing k with
    | ind left ih =>
      intro hBefore
      by_cases hEnd : 0 < movedDelay interval delay k
      · exact ⟨k, positiveDelay_of_pos hEnd, hEnd, hBefore⟩
      · have hGoing : movedDelay interval delay k ≤ 0 := by omega
        have hMove : interval ≤ interval * (k + 1) := le_mul_of_one_le_right hInterval.le (by omega)
        have hLess : (1 - movedDelay interval delay (k + 1)).toNat < left := by
          rw [movedDelay_succ]
          omega
        rw [positiveDelay_of_nonpos hInterval hGoing]
        refine ih _ hLess (k + 1) rfl fun j hj => ?_
        obtain hj | rfl := Nat.lt_succ_iff_lt_or_eq.mp hj
        · exact hBefore j hj
        · exact hGoing
  obtain ⟨n, hEnd⟩ := hSearch 0 fun j hj => absurd hj (Nat.not_lt_zero j)
  rw [movedDelay_zero] at hEnd
  exact ⟨n, hEnd⟩

theorem firstDelay_pos (m : Member) (now : Int64) (hInterval : 0 < m.interval.toInt) :
    0 < m.firstDelay now := by
  obtain ⟨n, hMoved, hAhead, -⟩ := positiveDelay_eq hInterval (m.nextRollover - now).toInt
  rw [firstDelay, hMoved]
  exact hAhead

/-! ## The search in 64 bits -/

/-- The delay after `n` moves as a machine finds it, move by move. -/
def triedDelay (interval delay : Int64) : ℕ → Int64
  | 0 => delay
  | n + 1 => triedDelay interval delay n + interval * Int64.ofNat (n + 1)

theorem toInt_triedDelay (interval delay : Int64) (n : ℕ) :
    (triedDelay interval delay n).toInt =
      (movedDelay interval.toInt delay.toInt n).bmod (2 ^ 64) := by
  induction n with
  | zero => simp [triedDelay, movedDelay_zero]
  | succ n ih =>
    have hSize : Int64.size = 2 ^ 64 := rfl
    rw [triedDelay, movedDelay_succ, Int64.toInt_add, Int64.toInt_mul, Int64.toInt_ofNat', ih,
      hSize, Int.bmod_add_bmod, Int.mul_bmod_bmod, Int.add_bmod_bmod]
    push_cast
    rfl

/-- The products of a search that has not ended fit into 64 bits. Only of two intervals of more than
a hundred million years each this cannot be said. -/
theorem mul_lt_of_moved (hInterval : 0 < interval) (hRange : -2 ^ 63 ≤ delay)
    (hBound : interval < 2 ^ 62 ∨ -delay < interval) (hUpper : interval < 2 ^ 63)
    (hMoved : movedDelay interval delay n ≤ 0) : interval * (n + 1) < 2 ^ 63 := by
  have hSum := two_mul_movedIntervals n
  have hTwice : 2 * (interval * movedIntervals n) = interval * (n * (n + 1)) := by
    rw [← mul_assoc, mul_comm 2, mul_assoc]
    congr 1
    exact_mod_cast hSum
  rw [movedDelay] at hMoved
  match n with
  | 0 => simpa using hUpper
  | 1 =>
    simp [movedIntervals] at hMoved
    omega
  | 2 =>
    simp [movedIntervals] at hMoved
    omega
  | n + 3 =>
    -- The next product is not greater than the sum of all before, which is at most the delay.
    push_cast at hTwice ⊢
    nlinarith

/-- Up to its end the search stays within 64 bits. -/
theorem toInt_triedDelay_of_le (interval delay : Int64) {n k : ℕ} (hInterval : 0 < interval.toInt)
    (hBound : interval.toInt < 2 ^ 62 ∨ -delay.toInt < interval.toInt)
    (hGoing : ∀ j < n, movedDelay interval.toInt delay.toInt j ≤ 0) (hk : k ≤ n) :
    (triedDelay interval delay k).toInt = movedDelay interval.toInt delay.toInt k := by
  have hLower := delay.le_toInt
  have hLeast := movedDelay_mono hInterval delay.toInt (Nat.zero_le k)
  rw [movedDelay_zero] at hLeast
  rw [toInt_triedDelay]
  refine Int.bmod_eq_of_le (by omega) ?_
  cases k with
  | zero =>
    have hUpper := delay.toInt_lt
    rw [movedDelay_zero]
    omega
  | succ j =>
    have hMoved := hGoing j hk
    have hProduct := mul_lt_of_moved hInterval hLower hBound interval.toInt_lt hMoved
    rw [movedDelay_succ]
    omega

/-! ## The next deadline of the fleet -/

/-- `d` is the wait for the next deadline, where deadlines are an interval apart and one is a delay
away: that one if it lies ahead, and otherwise the first after it that does. -/
def IsNextDeadline (interval delay d : ℤ) : Prop :=
  if 0 < delay then d = delay else IsLeast {e | 0 < e ∧ e ≡ delay [ZMOD interval]} d

theorem IsNextDeadline.unique {d d' : ℤ} (h : IsNextDeadline interval delay d)
    (h' : IsNextDeadline interval delay d') : d = d' := by
  unfold IsNextDeadline at h h'
  split at h
  · rw [if_pos ‹_›] at h'
    exact h.trans h'.symm
  · rw [if_neg ‹_›] at h'
    exact h.unique h'

theorem isNextDeadline_of_pos (hDelay : 0 < delay) : IsNextDeadline interval delay delay := by
  rw [IsNextDeadline, if_pos hDelay]

/-- The next deadline after one that is past comes when all intervals since then are over. -/
theorem isNextDeadline_of_nonpos (hInterval : 0 < interval) (hDelay : delay ≤ 0) :
    IsNextDeadline interval delay (delay + interval * (-delay / interval + 1)) := by
  rw [IsNextDeadline, if_neg (Int.not_lt.mpr hDelay)]
  refine ⟨⟨?_, ?_⟩, ?_⟩
  · have hPast : -delay < (-delay / interval + 1) * interval :=
      Int.lt_ediv_add_one_mul_self _ hInterval
    rw [mul_comm]
    omega
  · exact Int.modEq_iff_dvd.mpr ⟨-(-delay / interval + 1), by ring⟩
  · rintro e ⟨hAhead, hSame⟩
    obtain ⟨j, hj⟩ := Int.modEq_iff_dvd.mp hSame.symm
    have hLater : -delay / interval < j := by
      rw [Int.ediv_lt_iff_lt_mul hInterval, mul_comm]
      omega
    have hWhole : interval * (-delay / interval + 1) ≤ interval * j :=
      Int.mul_le_mul_of_nonneg_left hLater hInterval.le
    omega

/-- A delay that was moved until it was positive for the first time is past the next deadline by
fewer intervals than it was moved times, and it meets the deadline if that is a sum of intervals. -/
theorem movedDelay_eq_next (hInterval : 0 < interval)
    (hMoved : 0 < movedDelay interval delay n) (hGoing : ∀ k < n, movedDelay interval delay k ≤ 0) :
    ∃ next : ℤ, ∃ late : ℕ, IsNextDeadline interval delay next ∧ late ≤ n - 1 ∧
      movedDelay interval delay n = next + interval * late ∧
      (late = 0 ↔ 0 < delay ∨ ∃ k, -delay / interval + 1 = movedIntervals k) := by
  cases n with
  | zero =>
    rw [movedDelay_zero] at hMoved ⊢
    exact ⟨delay, 0, isNextDeadline_of_pos hMoved, le_rfl, by simp, by simp [hMoved]⟩
  | succ n =>
    have hDelay : delay ≤ 0 := by simpa [movedDelay_zero] using hGoing 0 (Nat.succ_pos n)
    have hUpper := (movedDelay_pos_iff hInterval).mp hMoved
    have hLower : ∀ k ≤ n, (movedIntervals k : ℤ) ≤ -delay / interval := by
      intro k hk
      have hBefore := hGoing k (Nat.lt_succ_of_le hk)
      exact Int.not_lt.mp fun h => Int.not_lt.mpr hBefore ((movedDelay_pos_iff hInterval).mpr h)
    have hLast := hLower n le_rfl
    have hSum : (movedIntervals (n + 1) : ℤ) = movedIntervals n + (n + 1) := by
      exact_mod_cast movedIntervals_succ n
    refine ⟨_, (movedIntervals (n + 1) - (-delay / interval + 1)).toNat,
      isNextDeadline_of_nonpos hInterval hDelay, by omega, ?_, ?_⟩
    · rw [Int.toNat_of_nonneg (by omega), movedDelay]
      ring
    · constructor
      · intro hMeets
        exact .inr ⟨n + 1, by omega⟩
      · rintro (hAhead | ⟨k, hMeets⟩)
        · omega
        · -- The number of moves is the first one that gets past the missed intervals.
          have hk : n + 1 ≤ k := by
            refine Nat.lt_of_not_le fun hk => ?_
            have hNotPast := hLower k hk
            omega
          have hMono : movedIntervals (n + 1) ≤ movedIntervals k :=
            Nat.div_le_div_right (Nat.mul_le_mul hk (Nat.succ_le_succ hk))
          omega

/-- **How long a new member waits.** The delay up to the announced deadline is moved forward by one
interval, by two, by three and so on until it is positive, and the search ends; what comes out is
past the next deadline of the fleet by fewer whole intervals than the search made moves. Unless the
deadline is past by an interval of more than a hundred million years, nothing overflows on the way,
and the wait leads to the next deadline exactly if the announced one lies ahead or the number of
intervals from it to the next one is a sum of the first numbers. -/
theorem firstDelay_exact (m : Member) (now : Int64) (hInterval : 0 < m.interval.toInt)
    (hLower : -2 ^ 63 ≤ m.nextRollover.toInt - now.toInt)
    (hUpper : m.nextRollover.toInt - now.toInt < 2 ^ 63) :
    let delay := m.nextRollover.toInt - now.toInt
    let interval := m.interval.toInt
    let tried := triedDelay m.interval (m.nextRollover - now)
    (∃ n : ℕ, m.firstDelay now = delay + interval * movedIntervals n ∧
      (interval < 2 ^ 62 ∨ -delay < interval →
        (∀ k < n, tried k < 1 ∧ interval * (k + 1) < 2 ^ 63) ∧ 1 ≤ tried n ∧
          ∀ k ≤ n, (tried k).toInt = delay + interval * movedIntervals k) ∧
      ∃ next : ℤ, ∃ late : ℕ, IsNextDeadline interval delay next ∧ late ≤ n - 1 ∧
        m.firstDelay now = next + interval * late) ∧
    (interval < 2 ^ 62 ∨ -delay < interval →
      (IsNextDeadline interval delay (m.firstDelay now) ↔
        0 < delay ∨ ∃ k, -delay / interval + 1 = movedIntervals k)) := by
  intro delay interval tried
  have hDelay : (m.nextRollover - now).toInt = delay := by
    rw [Int64.toInt_sub]
    exact Int.bmod_eq_of_le (by omega) (by omega)
  obtain ⟨n, hEnd, hPositive, hGoing⟩ := positiveDelay_eq hInterval delay
  have hFirst : m.firstDelay now = movedDelay interval delay n := by
    rw [firstDelay, hDelay, hEnd]
  obtain ⟨next, late, hNext, hLate, hMoved, hMeets⟩ := movedDelay_eq_next hInterval hPositive hGoing
  constructor
  · refine ⟨n, hFirst, fun hBound => ?_, next, late, hNext, hLate, hFirst.trans hMoved⟩
    have hTried : ∀ k ≤ n, (tried k).toInt = movedDelay interval delay k := by
      intro k hk
      have hExact := toInt_triedDelay_of_le m.interval (m.nextRollover - now) hInterval
        (by rwa [hDelay]) (by rwa [hDelay]) hk
      rwa [hDelay] at hExact
    refine ⟨fun k hk => ⟨?_, ?_⟩, ?_, hTried⟩
    · rw [Int64.lt_iff_toInt_lt, hTried k hk.le]
      exact Int.lt_add_one_of_le (hGoing k hk)
    · exact mul_lt_of_moved hInterval hLower hBound m.interval.toInt_lt (hGoing k hk)
    · rw [Int64.le_iff_toInt_le, hTried n le_rfl]
      exact hPositive
  · intro _
    rw [← hMeets, hFirst, hMoved]
    constructor
    · intro hReached
      have hNone : interval * late = 0 := add_eq_left.mp (hReached.unique hNext)
      exact_mod_cast (mul_eq_zero.mp hNone).resolve_left hInterval.ne'
    · rintro rfl
      simpa using hNext

/-- The record of a fleet whose next rotation falls due one second after the epoch. -/
def dueRecord : SecretRecord :=
  ⟨[1], [2], none, 1000⟩

/-- Six intervals lead to the next deadline, and so do three moves. -/
theorem firstDelay_exact_met :
    let m := ofRecord "/secret" 1000 ⟨fun n => Vector.replicate 32 n.toUInt8, 0⟩ 0 dueRecord
    m.firstDelay 6500 = 500 ∧ IsNextDeadline 1000 (1000 - 6500) (m.firstDelay 6500) := by
  intro m
  obtain ⟨-, hMeets⟩ := firstDelay_exact m 6500 (by decide) (by decide) (by decide)
  exact ⟨by decide +kernel, (hMeets (.inl (by decide))).mpr (.inr ⟨3, by decide⟩)⟩

/-- Two intervals lead to the next deadline, and two moves go past it: a member that joins then
sleeps through the rotation of the fleet half a second later. -/
theorem first_rotation_late :
    let s : MemoryStore := ⟨[("/secret", ⟨dueRecord.encode, 0⟩)]⟩
    ∃ m schedule, Source.joinFleet MemoryStore.asStore "/secret" (.ofMillis 1000) 2500
        ⟨fun n => Vector.replicate 32 n.toUInt8, 0⟩ 0 true s = (.ok (.fleet m (some schedule)), s) ∧
      IsNextDeadline 1000 (m.nextRollover.toInt - 2500) 500 ∧ m.firstDelay 2500 = 1500 ∧
      schedule.dueCount (Duration.ofMillis 500).nanos = 0 := by
  refine ⟨_, _, rfl, ?_, ?_, ?_⟩
  · exact isNextDeadline_of_nonpos (by decide) (by decide)
  · decide +kernel
  · decide +kernel

end SignOn.Member
