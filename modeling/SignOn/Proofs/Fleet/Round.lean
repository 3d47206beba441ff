import SignOn.Proofs.Fleet.History
import SignOn.Proofs.Session.Signature

/-!
# A round of rotation

All processes of a fleet agree with the stored record, and each of them does one rotation, in any
order of the steps. Until the first of them writes, all that have begun are one secret ahead of the
record. After that the version has changed, so nobody else writes, and who reads adopts the new
record. In the end all agree again, on a successor of the record they began with.

The invariant gives each process its stage by the number of turns that it has taken.
-/

namespace SignOn

open SignOn.Text (Bytes)

namespace Fleet

variable {ι : Type}

/-- All processes are between two rotations and agree with the stored record. -/
structure Agreement (plan : FleetPlan ι) (f : Fleet ι) (version : Int64) (record : SecretRecord) :
    Prop where
  stored : Reads (f.held plan) version record
  settled : ∀ i, ∃ m, f.phase i = .idle m ∧ m.path = plan.path ∧ m.Agrees version record

theorem Agreement.onPath {plan : FleetPlan ι} {f : Fleet ι} {version : Int64}
    {record : SecretRecord} (h : f.Agreement plan version record) : f.OnPath plan := by
  intro i m hMember
  obtain ⟨m', hPhase, hPath, -⟩ := h.settled i
  rw [hPhase] at hMember
  cases hMember
  exact hPath

/-! ## Stages -/

/-- How far a process is after some turns of the round, when `written` is what has been written. -/
inductive Stage (version : Int64) (record : SecretRecord) (written : Option SecretRecord) :
    ℕ → Phase → Prop
  | settled {m : Member} (h : m.Agrees version record) : Stage version record written 0 (.idle m)
  | promoted {m : Member} (h : m.Ahead version record) :
      Stage version record written 1 (.promoted m)
  | pushed {m : Member} {record' : SecretRecord} (hWritten : written = some record')
      (h : m.Ahead version record) : Stage version record written 2 (.pushed m)
  | done {m : Member} {record' : SecretRecord} (hWritten : written = some record')
      (h : m.Agrees (version + 1) record') : Stage version record written 3 (.idle m)

theorem Stage.of_none {version : Int64} {record : SecretRecord} {written : Option SecretRecord}
    {count : ℕ} {phase : Phase} (h : Stage version record none count phase) :
    Stage version record written count phase := by
  cases h with
  | settled h => exact .settled h
  | promoted h => exact .promoted h
  | pushed hWritten => cases hWritten
  | done hWritten => cases hWritten

/-- At every stage a process accepts what was signed with the secret of before the round. -/
theorem Stage.current_mem {version : Int64} {record : SecretRecord}
    {written : Option SecretRecord} {count : ℕ} {phase : Phase}
    (h : Stage version record written count phase)
    (hPrecedes : ∀ record', written = some record' → record.Precedes record') :
    ∃ keys, phase.keys? = some keys ∧ record.current ∈ keys.secrets := by
  cases h with
  | @settled m h =>
    refine ⟨m.keys, rfl, ?_⟩
    rw [h.keys, Keyring.mem_secrets]
    exact Or.inl rfl
  | @promoted m h | @pushed m _ _ h =>
    refine ⟨m.keys, rfl, ?_⟩
    rw [h.keys, Keyring.mem_secrets]
    exact Or.inr rfl
  | @done m _ hWritten h =>
    refine ⟨m.keys, rfl, ?_⟩
    rw [h.keys, hPrecedes _ hWritten, Keyring.mem_secrets]
    exact Or.inr rfl

/-! ## The round -/

section

variable [DecidableEq ι]

/-- The number of turns that a process has taken. -/
def turnCount (order : ℕ → ι) (i : ι) (n : ℕ) : ℕ :=
  Nat.count (fun j => order j = i) n

/-- The round before anything was written. -/
structure Open (plan : FleetPlan ι) (order : ℕ → ι) (f : Fleet ι) (version : Int64)
    (record : SecretRecord) (n : ℕ) : Prop where
  stored : Reads ((f.run plan (.connected order) n).held plan) version record
  unwritten : f.writeCount plan (.connected order) n = 0
  stage : ∀ i, Stage version record none (turnCount order i n)
    ((f.run plan (.connected order) n).phase i)

/-- The round after something was written. -/
structure Decided (plan : FleetPlan ι) (order : ℕ → ι) (f : Fleet ι) (version : Int64)
    (record record' : SecretRecord) (n : ℕ) : Prop where
  precedes : record.Precedes record'
  stored : Reads ((f.run plan (.connected order) n).held plan) (version + 1) record'
  written : f.writeCount plan (.connected order) n = 1
  stage : ∀ i, Stage version record (some record') (turnCount order i n)
    ((f.run plan (.connected order) n).phase i)

variable {plan : FleetPlan ι} {order : ℕ → ι} {f : Fleet ι} {version : Int64}
  {record record' : SecretRecord} {n : ℕ}

theorem turnCount_self : turnCount order (order n) (n + 1) = turnCount order (order n) n + 1 := by
  rw [turnCount, Nat.count_succ, if_pos rfl]
  rfl

theorem turnCount_of_ne {i : ι} (h : i ≠ order n) :
    turnCount order i (n + 1) = turnCount order i n := by
  rw [turnCount, Nat.count_succ, if_neg (fun hEq => h hEq.symm)]
  rfl

theorem turnCount_mono {i : ι} {n' : ℕ} (h : n ≤ n') :
    turnCount order i n ≤ turnCount order i n' :=
  Nat.count_monotone _ h

theorem connected_move (hPath : f.OnPath plan) {phase : Phase}
    (hPhase : (f.run plan (.connected order) n).phase (order n) = phase) :
    Move plan (order n) ((Turn.connected order n).outage = none) phase
      ((f.run plan (.connected order) n).held plan)
      ((f.run plan (.connected order) n).writes (.connected order n))
      ((f.run plan (.connected order) (n + 1)).phase (order n))
      ((f.run plan (.connected order) (n + 1)).held plan) := by
  subst hPhase
  exact run_move (.connected order) hPath n

theorem stage_succ {written : Option SecretRecord}
    (hOthers : ∀ i, Stage version record written (turnCount order i n)
      ((f.run plan (.connected order) n).phase i)) {phase : Phase}
    (hPhase : (f.run plan (.connected order) (n + 1)).phase (order n) = phase)
    (hActor : Stage version record written (turnCount order (order n) n + 1) phase) (i : ι) :
    Stage version record written (turnCount order i (n + 1))
      ((f.run plan (.connected order) (n + 1)).phase i) := by
  by_cases hi : i = order n
  · subst hi
    rw [turnCount_self, hPhase]
    exact hActor
  · rw [turnCount_of_ne hi, run_phase_of_ne hi]
    exact hOthers i

theorem Agreement.isOpen (h : f.Agreement plan version record) :
    f.Open plan order version record 0 where
  stored := h.stored
  unwritten := rfl
  stage := by
    intro i
    obtain ⟨m, hPhase, -, hAgrees⟩ := h.settled i
    have hStart : (f.run plan (.connected order) 0).phase i = .idle m := hPhase
    rw [hStart]
    exact .settled hAgrees

/-- A turn of an open round leaves it open, or writes and so decides it. -/
theorem Open.succ (h : f.Open plan order version record n) (hPath : f.OnPath plan) :
    f.Open plan order version record (n + 1) ∨
      ∃ record', f.Decided plan order version record record' (n + 1) := by
  have hStage := h.stage (order n)
  generalize hCount : turnCount order (order n) n = count at hStage
  generalize hPhase : (f.run plan (.connected order) n).phase (order n) = phase at hStage
  have hMove := connected_move hPath hPhase
  cases hStage with
  | settled hAgrees =>
    obtain ⟨hWrote, hPhase', hHeld⟩ := hMove.of_idle
    refine Or.inl ⟨by rw [hHeld]; exact h.stored, ?_, stage_succ h.stage hPhase' ?_⟩
    · rw [writeCount_of_not_writes hWrote, h.unwritten]
    · rw [hCount]
      exact .promoted hAgrees.promote
  | promoted hAhead =>
    obtain ⟨hWrote, hPhase', hHeld⟩ := hMove.of_promoted rfl h.stored hAhead.version
    have hDecode := SecretRecord.decode_encode (hAhead.offer_storable h.stored.storable)
    refine Or.inr ⟨_, hAhead.offer_keyring, ⟨_, hHeld, hDecode⟩, ?_,
      stage_succ (fun i => (h.stage i).of_none) hPhase' ?_⟩
    · rw [writeCount_of_writes hWrote, h.unwritten]
    · rw [hCount]
      exact .pushed rfl hAhead.spent
  | pushed hWritten => cases hWritten
  | done hWritten => cases hWritten

theorem int64_ne_add_one (a : Int64) : a ≠ a + 1 := by
  intro h
  exact absurd (Int64.add_eq_left.mp h.symm) (by decide)

/-- A turn of a decided round writes nothing. -/
theorem Decided.succ (h : f.Decided plan order version record record' n) (hPath : f.OnPath plan)
    (hTurn : turnCount order (order n) n < 3) :
    f.Decided plan order version record record' (n + 1) := by
  have hStage := h.stage (order n)
  generalize hCount : turnCount order (order n) n = count at hStage hTurn
  generalize hPhase : (f.run plan (.connected order) n).phase (order n) = phase at hStage
  have hMove := connected_move hPath hPhase
  have hSame : ∀ {phase'}, (f.run plan (.connected order) n).writes (.connected order n) = false →
      (f.run plan (.connected order) (n + 1)).phase (order n) = phase' →
      (f.run plan (.connected order) (n + 1)).held plan =
        (f.run plan (.connected order) n).held plan →
      Stage version record (some record') (count + 1) phase' →
      f.Decided plan order version record record' (n + 1) := by
    intro phase' hWrote hPhase' hHeld hActor
    refine ⟨h.precedes, by rw [hHeld]; exact h.stored, ?_, stage_succ h.stage hPhase' ?_⟩
    · rw [writeCount_of_not_writes hWrote, h.written]
    · rw [hCount]
      exact hActor
  cases hStage with
  | settled hAgrees =>
    obtain ⟨hWrote, hPhase', hHeld⟩ := hMove.of_idle
    exact hSame hWrote hPhase' hHeld (.promoted hAgrees.promote)
  | @promoted m hAhead =>
    have hLate : m.version ≠ version + 1 := by
      rw [hAhead.version]
      exact int64_ne_add_one version
    obtain ⟨hWrote, hPhase', hHeld⟩ := hMove.of_promoted_late h.stored hLate
    exact hSame hWrote hPhase' hHeld (.pushed rfl hAhead.spent)
  | pushed _ hAhead =>
    obtain ⟨hWrote, hPhase', hHeld⟩ := hMove.of_pushed rfl h.stored
    exact hSame hWrote hPhase' hHeld (.done rfl (Member.agrees_adopt ..))
  | done => exact absurd hTurn (Nat.lt_irrefl 3)

theorem open_or_decided (hAgree : f.Agreement plan version record) {last : ℕ}
    (hOnce : ∀ i, turnCount order i last ≤ 3) (hLe : n ≤ last) :
    f.Open plan order version record n ∨
      ∃ record', f.Decided plan order version record record' n := by
  induction n with
  | zero => exact Or.inl hAgree.isOpen
  | succ n ih =>
    rcases ih (Nat.le_of_succ_le hLe) with hOpen | ⟨record', hDecided⟩
    · exact hOpen.succ hAgree.onPath
    · have hTurn : turnCount order (order n) (n + 1) ≤ 3 :=
        Nat.le_trans (turnCount_mono hLe) (hOnce _)
      rw [turnCount_self] at hTurn
      exact Or.inr ⟨record', hDecided.succ hAgree.onPath hTurn⟩

/-- A decided round in which everybody has taken three turns ends in agreement. -/
theorem Decided.agreement (h : f.Decided plan order version record record' n)
    (hPath : f.OnPath plan) (hDone : ∀ i, turnCount order i n = 3) :
    (f.run plan (.connected order) n).Agreement plan (version + 1) record' where
  stored := h.stored
  settled := by
    intro i
    have hStage := h.stage i
    have hOn : (f.run plan (.connected order) n).OnPath plan := hPath.run n
    have hMember := hOn i
    rw [hDone i] at hStage
    generalize (f.run plan (.connected order) n).phase i = phase at hStage hMember
    cases hStage with
    | @done m _ hWritten hAgrees =>
      cases hWritten
      exact ⟨m, rfl, hMember m rfl, hAgrees⟩

/-- **Convergence.** If all processes agree with the stored record and each of them does one
rotation, the steps of all in any order, then one write succeeds, and in the end all agree with the
record it stored, a successor of the first one with the version behind. What a process had signed
before is accepted by every process all the time. -/
theorem round_converges [Nonempty ι] (hAgree : f.Agreement plan version record) {last : ℕ}
    (hOnce : ∀ i, turnCount order i last = 3) :
    f.writeCount plan (.connected order) last = 1 ∧
    (∃ record', record.Precedes record' ∧
      (f.run plan (.connected order) last).Agreement plan (version + 1) record') ∧
    ∀ i keys payload signed, (f.phase i).keys? = some keys →
      Signature.sign keys payload = .ok signed →
      ∀ n ≤ last, ∀ i', ∃ keys', ((f.run plan (.connected order) n).phase i').keys? = some keys' ∧
        Signature.verify keys' signed = .ok payload := by
  have hInvariant : ∀ n ≤ last, f.Open plan order version record n ∨
      ∃ record', f.Decided plan order version record record' n :=
    fun n hLe => open_or_decided hAgree (fun i => (hOnce i).le) hLe
  have hDecided : ∃ record', f.Decided plan order version record record' last := by
    rcases hInvariant last (Nat.le_refl last) with hOpen | hDecided
    · obtain ⟨i⟩ := ‹Nonempty ι›
      have hStage := hOpen.stage i
      rw [hOnce i] at hStage
      generalize (f.run plan (.connected order) last).phase i = phase at hStage
      cases hStage with
      | done hWritten => cases hWritten
    · exact hDecided
  obtain ⟨record', hDecided⟩ := hDecided
  refine ⟨hDecided.written, ⟨record', hDecided.precedes,
    hDecided.agreement hAgree.onPath hOnce⟩, ?_⟩
  intro i keys payload signed hKeys hSign n hLe i'
  have hCurrent : keys.current = record.current := by
    obtain ⟨m, hPhase, -, hAgrees⟩ := hAgree.settled i
    rw [hPhase] at hKeys
    cases hKeys
    rw [hAgrees.keys]
    rfl
  have hMem : ∃ keys', ((f.run plan (.connected order) n).phase i').keys? = some keys' ∧
      record.current ∈ keys'.secrets := by
    rcases hInvariant n hLe with hOpen | ⟨record₁, hDecided₁⟩
    · exact (hOpen.stage i').current_mem (by rintro _ ⟨⟩)
    · exact (hDecided₁.stage i').current_mem (by rintro _ ⟨⟩; exact hDecided₁.precedes)
  obtain ⟨keys', hKeys', hMem⟩ := hMem
  exact ⟨keys', hKeys', Signature.verify_of_sign hSign (hCurrent ▸ hMem)⟩

end

/-- A record with its announcement and both secrets in effect. -/
def eighthRecord : SecretRecord :=
  ⟨List.replicate 32 9, List.replicate 32 8, some (List.replicate 32 7), 8000⟩

def eighthFleet : Fleet Bool where
  store := ⟨[(FleetPlan.two.path, ⟨eighthRecord.encode, 7⟩)]⟩
  phase i := .idle (Member.ofRecord FleetPlan.two.path FleetPlan.two.interval
    (FleetPlan.two.generator i) 7 eighthRecord)

def crossing (n : ℕ) : Bool :=
  [false, true, true, false, true, false].getD n false

/-- The round of two processes, one of which writes in vain. -/
theorem round_converges_crossing :
    eighthFleet.Agreement .two 7 eighthRecord ∧ (∀ i, turnCount crossing i 6 = 3) ∧
      eighthFleet.writeCount .two (.connected crossing) 6 = 1 ∧
      ∃ record', eighthRecord.Precedes record' ∧
        (eighthFleet.run .two (.connected crossing) 6).Agreement .two (7 + 1) record' := by
  have hDecode : SecretRecord.decode eighthRecord.encode = .ok eighthRecord := by decide +kernel
  have hAgree : eighthFleet.Agreement .two 7 eighthRecord :=
    ⟨⟨_, rfl, hDecode⟩, fun i => ⟨_, rfl, rfl, Member.agrees_ofRecord ..⟩⟩
  have hOnce : ∀ i, turnCount crossing i 6 = 3 := by decide
  obtain ⟨hWrites, hConverged, -⟩ := round_converges hAgree hOnce
  exact ⟨hAgree, hOnce, hWrites, hConverged⟩

end Fleet

end SignOn
