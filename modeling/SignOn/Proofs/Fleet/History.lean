import SignOn.Proofs.Fleet.Move

/-!
# The history of a record

Over a run the stored record only changes by replacements, each of which adds one to its version.
So the version a member knows tells how often the record was replaced since, and a member that
knows the version of the stored record knows the record itself, unless the version has gone all the
way round (`Recorded.reads`).
-/

namespace SignOn

namespace Fleet

variable {ι : Type} [DecidableEq ι] {plan : FleetPlan ι} {schedule : ℕ → Turn ι} {f : Fleet ι}

/-! ## Turns of a run -/

theorem OnPath.run (hPath : f.OnPath plan) (n : ℕ) : (f.run plan schedule n).OnPath plan := by
  induction n with
  | zero => exact hPath
  | succ n ih => exact ih.act (schedule n)

theorem run_move (schedule : ℕ → Turn ι) (hPath : f.OnPath plan) (n : ℕ) :
    Move plan (schedule n).who ((schedule n).outage = none)
      ((f.run plan schedule n).phase (schedule n).who) ((f.run plan schedule n).held plan)
      ((f.run plan schedule n).writes (schedule n))
      ((f.run plan schedule (n + 1)).phase (schedule n).who)
      ((f.run plan schedule (n + 1)).held plan) :=
  act_move (hPath.run n) (schedule n)

theorem run_phase_of_ne {i : ι} {n : ℕ} (h : i ≠ (schedule n).who) :
    (f.run plan schedule (n + 1)).phase i = (f.run plan schedule n).phase i :=
  act_phase_of_ne h

theorem writeCount_of_writes {n : ℕ} (h : (f.run plan schedule n).writes (schedule n) = true) :
    f.writeCount plan schedule (n + 1) = f.writeCount plan schedule n + 1 := by
  rw [writeCount, Nat.count_succ, if_pos h]
  rfl

theorem writeCount_of_not_writes {n : ℕ}
    (h : (f.run plan schedule n).writes (schedule n) = false) :
    f.writeCount plan schedule (n + 1) = f.writeCount plan schedule n := by
  rw [writeCount, Nat.count_succ, if_neg (by rw [h]; exact Bool.false_ne_true)]
  rfl

theorem writeCount_mono {n n' : ℕ} (h : n ≤ n') :
    f.writeCount plan schedule n ≤ f.writeCount plan schedule n' :=
  Nat.count_monotone _ h

/-! ## Versions -/

/-- A stored record stays stored, and its version counts the replacements. -/
theorem held_of_le (hPath : f.OnPath plan) {n n' : ℕ} (hLe : n ≤ n') {record : Versioned}
    (hHeld : (f.run plan schedule n).held plan = some record) :
    ∃ record' d, (f.run plan schedule n').held plan = some record' ∧
      f.writeCount plan schedule n' = f.writeCount plan schedule n + d ∧
      record'.version = record.version + Int64.ofNat d ∧ (d = 0 → record' = record) := by
  induction n', hLe using Nat.le_induction with
  | base => exact ⟨record, 0, hHeld, rfl, by simp, fun _ => rfl⟩
  | succ n' _ ih =>
    obtain ⟨record', d, hHeld', hCount, hVersion, hSame⟩ := ih
    have hMove := run_move schedule hPath n'
    rw [hHeld'] at hMove
    rcases hMove.of_held with ⟨hWrote, hAfter⟩ | ⟨hWrote, m, _, _, hAfter⟩
    · rw [writeCount_of_not_writes hWrote, hCount]
      exact ⟨record', d, hAfter, rfl, hVersion, hSame⟩
    · rw [writeCount_of_writes hWrote, hCount]
      refine ⟨_, d + 1, hAfter, rfl, ?_, fun h => absurd h (Nat.succ_ne_zero d)⟩
      dsimp only
      rw [hVersion, Int64.ofNat_add, Int64.add_assoc]
      rfl

/-- Nothing is replaced while nothing is stored. -/
theorem writeCount_of_held_eq_none (hPath : f.OnPath plan) {n : ℕ}
    (hHeld : (f.run plan schedule n).held plan = none) : f.writeCount plan schedule n = 0 := by
  induction n with
  | zero => rfl
  | succ n ih =>
    have hMove := run_move schedule hPath n
    rw [hHeld] at hMove
    obtain ⟨hBefore, hWrote⟩ := hMove.to_none
    rw [writeCount_of_not_writes hWrote, ih hBefore]

/-- Between two replacements the record stays the same. -/
theorem held_eq_of_writeCount_eq (hPath : f.OnPath plan) {n n' : ℕ} {record record' : Versioned}
    (hHeld : (f.run plan schedule n).held plan = some record)
    (hHeld' : (f.run plan schedule n').held plan = some record')
    (hCount : f.writeCount plan schedule n = f.writeCount plan schedule n') : record = record' := by
  wlog hLe : n ≤ n' generalizing n n' record record' with hSwap
  · exact (hSwap hHeld' hHeld hCount.symm (Nat.le_of_not_le hLe)).symm
  · obtain ⟨record'', d, hHeld'', hCount', -, hSame⟩ := held_of_le hPath hLe hHeld
    rw [hHeld'] at hHeld''
    cases hHeld''
    exact (hSame (by omega)).symm

theorem int64_ofNat_inj {d d' : ℕ} (hBound : d < 2 ^ 64) (hBound' : d' < 2 ^ 64) :
    Int64.ofNat d = Int64.ofNat d' ↔ d = d' := by
  constructor
  · intro h
    have hBits : BitVec.toNat (Int64.ofNat d).toBitVec = BitVec.toNat (Int64.ofNat d').toBitVec := by
      rw [h]
    have hMod : d % 2 ^ 64 = d' % 2 ^ 64 := by simpa using hBits
    omega
  · rintro rfl
    rfl

/-- Two records of the same version are the same, as long as the versions have not gone round. -/
theorem held_eq_of_version_eq (hPath : f.OnPath plan) {n n' : ℕ} (hLe : n ≤ n')
    {record record' : Versioned} (hHeld : (f.run plan schedule n).held plan = some record)
    (hHeld' : (f.run plan schedule n').held plan = some record')
    (hVersion : record.version = record'.version)
    (hBound : f.writeCount plan schedule n' < 2 ^ 64) : record = record' := by
  obtain ⟨record'', d, hHeld'', hCount, hStep, hSame⟩ := held_of_le hPath hLe hHeld
  rw [hHeld'] at hHeld''
  cases hHeld''
  have hZero : Int64.ofNat d = Int64.ofNat 0 := by
    rw [← hVersion] at hStep
    exact Int64.add_eq_left.mp hStep.symm
  exact (hSame ((int64_ofNat_inj (by omega) (by decide)).mp hZero)).symm

/-! ## Records of the past -/

/-- The record was stored with this version when one of the first `n` turns was taken. -/
def Recorded (plan : FleetPlan ι) (schedule : ℕ → Turn ι) (f : Fleet ι) (n : ℕ)
    (version : Int64) (record : SecretRecord) : Prop :=
  ∃ n' < n, Reads ((f.run plan schedule n').held plan) version record

variable {n n' : ℕ} {version : Int64} {record : SecretRecord}

theorem Reads.recorded {held : Option Versioned} (h : Reads held version record)
    (hHeld : (f.run plan schedule n).held plan = held) :
    f.Recorded plan schedule (n + 1) version record := by
  subst hHeld
  exact ⟨n, Nat.lt_succ_self n, h⟩

theorem Recorded.mono (h : f.Recorded plan schedule n version record) (hLe : n ≤ n') :
    f.Recorded plan schedule n' version record := by
  obtain ⟨n₀, hLt, hReads⟩ := h
  exact ⟨n₀, Nat.lt_of_lt_of_le hLt hLe, hReads⟩

/-- Where a record was stored, one still is. -/
theorem Recorded.exists_held (hPath : f.OnPath plan)
    (h : f.Recorded plan schedule n version record) :
    ∃ held, (f.run plan schedule n).held plan = some held := by
  obtain ⟨n₀, hLt, data, hHeld, -⟩ := h
  obtain ⟨held, _, hNow, -⟩ := held_of_le hPath hLt.le hHeld
  exact ⟨held, hNow⟩

/-- Who knows the version of the stored record knows the record, as long as the versions have not
gone round. -/
theorem Recorded.reads (hPath : f.OnPath plan) {held : Versioned}
    (h : f.Recorded plan schedule n held.version record)
    (hHeld : (f.run plan schedule n).held plan = some held)
    (hBound : f.writeCount plan schedule n < 2 ^ 64) :
    Reads ((f.run plan schedule n).held plan) held.version record := by
  obtain ⟨n₀, hLt, data, hHeld₀, hDecode⟩ := h
  have hSame : ⟨data, held.version⟩ = held :=
    held_eq_of_version_eq hPath hLt.le hHeld₀ hHeld rfl hBound
  exact ⟨data, by rw [hHeld, hSame], hDecode⟩

end Fleet

end SignOn
