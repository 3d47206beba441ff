import SignOn.Proofs.Fleet.History

/-!
# Rotations when the store fails

In any turn the store may be out of reach, so that a process publishes a secret that it could not
write, tries to write with a version that is long past, or keeps what it has because it cannot
read. Nothing it publishes comes from anywhere but stored records, and the next rotation that can
read brings it back to the record.

The invariant is `Grounded`: the announcement of a member is that of a record with the version it
knows, and its secrets were in stored records, perhaps in different ones.
-/

namespace SignOn

open SignOn.Text (Bytes)

namespace Fleet

variable {ι : Type} [DecidableEq ι]

/-! ## The invariant -/

/-- The secret was in a record that was stored when one of the first `n` turns was taken. -/
def Sourced (plan : FleetPlan ι) (schedule : ℕ → Turn ι) (f : Fleet ι) (n : ℕ)
    (secret : Bytes) : Prop :=
  ∃ version record, f.Recorded plan schedule n version record ∧ secret ∈ record.secrets

/-- What a member has comes from stored records. -/
structure Grounded (plan : FleetPlan ι) (schedule : ℕ → Turn ι) (f : Fleet ι) (n : ℕ)
    (m : Member) : Prop where
  announced : ∃ record, f.Recorded plan schedule n m.version record ∧ m.next = record.next
  sourced : ∀ secret ∈ m.keys.secrets, f.Sourced plan schedule n secret

/-- What a process has comes from stored records. When it is about to write, its announcement is in
effect. -/
structure Sound (plan : FleetPlan ι) (schedule : ℕ → Turn ι) (f : Fleet ι) (n : ℕ)
    (phase : Phase) : Prop where
  grounded : ∀ m, phase.member? = some m → f.Grounded plan schedule n m
  promoted : ∀ m, phase = .promoted m → m.keys.current = m.next

variable {plan : FleetPlan ι} {schedule : ℕ → Turn ι} {f : Fleet ι} {n n' : ℕ} {m : Member}

theorem Sourced.mono {secret : Bytes} (h : f.Sourced plan schedule n secret) (hLe : n ≤ n') :
    f.Sourced plan schedule n' secret := by
  obtain ⟨version, record, hRecorded, hMem⟩ := h
  exact ⟨version, record, hRecorded.mono hLe, hMem⟩

theorem Grounded.mono (h : f.Grounded plan schedule n m) (hLe : n ≤ n') :
    f.Grounded plan schedule n' m := by
  obtain ⟨record, hRecorded, hNext⟩ := h.announced
  exact ⟨⟨record, hRecorded.mono hLe, hNext⟩, fun secret hMem => (h.sourced secret hMem).mono hLe⟩

theorem Sound.mono {phase : Phase} (h : f.Sound plan schedule n phase) (hLe : n ≤ n') :
    f.Sound plan schedule n' phase :=
  ⟨fun m hMember => (h.grounded m hMember).mono hLe, h.promoted⟩

theorem Grounded.of_agrees {version : Int64} {record : SecretRecord}
    (hRecorded : f.Recorded plan schedule n version record) (hAgrees : m.Agrees version record) :
    f.Grounded plan schedule n m where
  announced := ⟨record, hAgrees.version ▸ hRecorded, hAgrees.next⟩
  sourced := by
    intro secret hMem
    rw [hAgrees.keys] at hMem
    exact ⟨version, record, hRecorded, List.mem_cons_of_mem _ hMem⟩

theorem Grounded.promote (h : f.Grounded plan schedule n m) :
    f.Grounded plan schedule n m.promote where
  announced := h.announced
  sourced := by
    intro secret hMem
    rcases List.mem_cons.mp hMem with rfl | hCurrent
    · obtain ⟨record, hRecorded, hNext⟩ := h.announced
      refine ⟨m.version, record, hRecorded, ?_⟩
      show m.next ∈ record.secrets
      rw [hNext]
      exact List.mem_cons_self ..
    · obtain rfl := List.mem_singleton.mp hCurrent
      exact h.sourced m.keys.current (List.mem_cons_self ..)

theorem Grounded.spent (h : f.Grounded plan schedule n m) : f.Grounded plan schedule n m.spent :=
  ⟨h.announced, h.sourced⟩

theorem Grounded.offer_storable (h : f.Grounded plan schedule n m) : m.offer.Storable := by
  refine m.offer_storable fun secret hMem => ?_
  obtain ⟨version, record, ⟨n₀, _, hReads⟩, hSecret⟩ := h.sourced secret hMem
  exact hReads.storable secret hSecret

theorem Sound.move {i : ι} {up : Prop} {phase phase' : Phase} {held held' : Option Versioned}
    {wrote : Bool} (h : f.Sound plan schedule n phase)
    (hMove : Move plan i up phase held wrote phase' held')
    (hHeld : (f.run plan schedule n).held plan = held) :
    f.Sound plan schedule (n + 1) phase' := by
  have hKept := h.mono (Nat.le_succ n)
  cases hMove with
  | refuse | found | find =>
    constructor
    · rintro m ⟨⟩
    · rintro m ⟨⟩
  | enroll generator hReads =>
    constructor
    · rintro m ⟨⟩
      exact .of_agrees (hReads.recorded hHeld) (Member.agrees_ofRecord ..)
    · rintro m ⟨⟩
  | promote m =>
    constructor
    · rintro m' ⟨⟩
      exact (hKept.grounded m rfl).promote
    · rintro m' ⟨⟩
      rfl
  | write m | yield m =>
    constructor
    · rintro m' ⟨⟩
      exact (hKept.grounded m rfl).spent
    · rintro m' ⟨⟩
  | adopt m _ hReads =>
    constructor
    · rintro m' ⟨⟩
      exact .of_agrees (hReads.recorded hHeld) (Member.agrees_adopt ..)
    · rintro m' ⟨⟩
  | keep m =>
    constructor
    · rintro m' ⟨⟩
      exact hKept.grounded m rfl
    · rintro m' ⟨⟩

theorem sound_run (schedule : ℕ → Turn ι) (hPath : f.OnPath plan)
    (hWaiting : ∀ i, f.phase i = .waiting) (n : ℕ) (i : ι) :
    f.Sound plan schedule n ((f.run plan schedule n).phase i) := by
  induction n with
  | zero =>
    have hPhase : (f.run plan schedule 0).phase i = .waiting := hWaiting i
    rw [hPhase]
    constructor
    · rintro m ⟨⟩
    · rintro m ⟨⟩
  | succ n ih =>
    by_cases hi : i = (schedule n).who
    · subst hi
      exact ih.move (run_move schedule hPath n) rfl
    · rw [run_phase_of_ne hi]
      exact ih.mono (Nat.le_succ n)

/-! ## Writes and reads -/

/-- Once a record can be read, one always can. -/
theorem exists_reads_of_recorded (hPath : f.OnPath plan) (hWaiting : ∀ i, f.phase i = .waiting)
    {version : Int64} {record : SecretRecord} (h : f.Recorded plan schedule n version record) :
    ∃ version' record', Reads ((f.run plan schedule n).held plan) version' record' := by
  obtain ⟨n₀, hLt, hReads⟩ := h
  have hLe : n₀ ≤ n := hLt.le
  clear hLt
  induction n, hLe using Nat.le_induction with
  | base => exact ⟨version, record, hReads⟩
  | succ n _ ih =>
    obtain ⟨version', record', data, hHeld, hDecode⟩ := ih
    have hMove := run_move schedule hPath n
    rw [hHeld] at hMove
    rcases hMove.of_held with ⟨-, hAfter⟩ | ⟨-, m, hPhase, -, hAfter⟩
    · exact ⟨version', record', data, hAfter, hDecode⟩
    · have hSound := sound_run schedule hPath hWaiting n (schedule n).who
      have hStorable := (hSound.grounded m (by rw [hPhase]; rfl)).offer_storable
      exact ⟨_, m.offer, _, hAfter, SecretRecord.decode_encode hStorable⟩

/-- A record that is written has in effect what a record with the version before has announced. -/
theorem write_announced (hPath : f.OnPath plan) (hWaiting : ∀ i, f.phase i = .waiting)
    (hWrites : (f.run plan schedule n).writes (schedule n) = true) :
    ∃ held before after, (f.run plan schedule n).held plan = some held ∧
      f.Recorded plan schedule n held.version before ∧
      Reads ((f.run plan schedule (n + 1)).held plan) (held.version + 1) after ∧
      after.current = before.next := by
  have hMove := run_move schedule hPath n
  cases hHeld : (f.run plan schedule n).held plan with
  | none =>
    rw [hHeld] at hMove
    rw [hMove.of_none.1] at hWrites
    cases hWrites
  | some held =>
    rw [hHeld] at hMove
    rcases hMove.of_held with ⟨hWrote, -⟩ | ⟨-, m, hPhase, hVersion, hAfter⟩
    · rw [hWrote] at hWrites
      cases hWrites
    · have hSound := sound_run schedule hPath hWaiting n (schedule n).who
      have hGrounded := hSound.grounded m (by rw [hPhase]; rfl)
      obtain ⟨before, hRecorded, hNext⟩ := hGrounded.announced
      rw [hVersion] at hRecorded
      refine ⟨held, before, m.offer, rfl, hRecorded,
        ⟨_, hAfter, SecretRecord.decode_encode hGrounded.offer_storable⟩, ?_⟩
      rw [← hNext]
      exact hSound.promoted m hPhase

/-! ## Rotations -/

/-- From the turn `first` to the turn `last` a process does one rotation, which leads from the one
member to the other. -/
structure Rolls (plan : FleetPlan ι) (schedule : ℕ → Turn ι) (f : Fleet ι) (i : ι)
    (first last : ℕ) (before after : Member) : Prop where
  begins : (schedule first).who = i
  ends : (schedule last).who = i
  lt : first < last
  before : (f.run plan schedule first).phase i = .idle before
  after : (f.run plan schedule (last + 1)).phase i = .idle after
  busy : ∀ n, first < n → n ≤ last → ((f.run plan schedule n).phase i).isIdle = false

variable {i : ι} {first last : ℕ} {before after : Member}

/-- Between the first and the last turn of a rotation the process is about to write, or has tried
to. -/
theorem Rolls.busy_phase (h : f.Rolls plan schedule i first last before after)
    (hPath : f.OnPath plan) {n : ℕ} (hFirst : first < n) (hLast : n ≤ last) :
    (f.run plan schedule n).phase i = .promoted before.promote ∨
      (f.run plan schedule n).phase i = .pushed before.promote.spent := by
  induction n, Nat.succ_le_of_lt hFirst using Nat.le_induction with
  | base =>
    have hMove := run_move schedule hPath first
    rw [h.begins, h.before] at hMove
    exact Or.inl hMove.of_idle.2.1
  | succ n hBegun ih =>
    have hNow := ih hBegun (Nat.le_of_succ_le hLast)
    by_cases hi : i = (schedule n).who
    · have hMove := run_move schedule hPath n
      rw [← hi] at hMove
      rcases hNow with hPromoted | hPushed
      · rw [hPromoted] at hMove
        exact Or.inr hMove.of_promoted_phase
      · rw [hPushed] at hMove
        obtain ⟨m, hIdle⟩ := hMove.of_pushed_phase
        have hBusy := h.busy (n + 1) hFirst hLast
        rw [hIdle] at hBusy
        cases hBusy
    · rw [run_phase_of_ne hi]
      exact hNow

theorem Rolls.pushed (h : f.Rolls plan schedule i first last before after)
    (hPath : f.OnPath plan) : (f.run plan schedule last).phase i = .pushed before.promote.spent := by
  rcases h.busy_phase hPath h.lt (Nat.le_refl last) with hPromoted | hPushed
  · have hMove := run_move schedule hPath last
    rw [h.ends, hPromoted] at hMove
    have hAfter := hMove.of_promoted_phase
    rw [h.after] at hAfter
    cases hAfter
  · exact hPushed

/-- A rotation that reaches the store at last ends with what it reads there. -/
theorem Rolls.agrees (h : f.Rolls plan schedule i first last before after)
    (hPath : f.OnPath plan) (hWaiting : ∀ i, f.phase i = .waiting)
    (hUp : (schedule last).outage = none) :
    ∃ version record, Reads ((f.run plan schedule last).held plan) version record ∧
      after.Agrees version record := by
  have hPushed := h.pushed hPath
  have hSound := sound_run schedule hPath hWaiting last i
  obtain ⟨_, hRecorded, -⟩ := (hSound.grounded _ (by rw [hPushed]; rfl)).announced
  obtain ⟨version, record, hReads⟩ := exists_reads_of_recorded hPath hWaiting hRecorded
  have hMove := run_move schedule hPath last
  rw [h.ends, hPushed] at hMove
  obtain ⟨-, hAfter, -⟩ := hMove.of_pushed hUp hReads
  rw [h.after] at hAfter
  cases hAfter
  exact ⟨version, record, hReads, Member.agrees_adopt ..⟩

/-- A rotation that does not reach the store at last ends with the announcement it began with. -/
theorem Rolls.keeps (h : f.Rolls plan schedule i first last before after)
    (hPath : f.OnPath plan) (hDown : (schedule last).outage ≠ none) :
    after.version = before.version ∧ after.next = before.next := by
  have hMove := run_move schedule hPath last
  rw [h.ends, h.pushed hPath] at hMove
  have hAfter := hMove.of_pushed_down hDown
  rw [h.after] at hAfter
  cases hAfter
  exact ⟨rfl, rfl⟩

/-- **Rotation with outages.** Whatever calls of the store fail: what a process publishes was in a
stored record before; a record that is written has in effect what the record with the version
before has announced; a rotation that can read at last leaves the process with the record it reads;
and one that cannot leaves it with the version and the announcement it had. -/
theorem rotation_with_outages (plan : FleetPlan ι) (schedule : ℕ → Turn ι) (store : MemoryStore) :
    let f : Fleet ι := start store
    (∀ n i keys, ((f.run plan schedule n).phase i).keys? = some keys → ∀ secret ∈ keys.secrets,
      ∃ n' < n, ∃ version record, Reads ((f.run plan schedule n').held plan) version record ∧
        secret ∈ record.secrets) ∧
    (∀ n, (f.run plan schedule n).writes (schedule n) = true → ∃ held before after,
      (f.run plan schedule n).held plan = some held ∧
      f.Recorded plan schedule n held.version before ∧
      Reads ((f.run plan schedule (n + 1)).held plan) (held.version + 1) after ∧
      after.current = before.next ∧
      (f.writeCount plan schedule n < 2 ^ 64 →
        Reads ((f.run plan schedule n).held plan) held.version before)) ∧
    (∀ i first last before after, f.Rolls plan schedule i first last before after →
      (schedule last).outage = none → ∃ version record,
        Reads ((f.run plan schedule last).held plan) version record ∧
        after.Agrees version record) ∧
    ∀ i first last before after, f.Rolls plan schedule i first last before after →
      (schedule last).outage ≠ none →
        after.version = before.version ∧ after.next = before.next := by
  intro f
  have hPath : f.OnPath plan := onPath_start plan store
  have hWaiting : ∀ i, f.phase i = .waiting := fun _ => rfl
  refine ⟨?_, ?_, ?_, ?_⟩
  · intro n i keys hKeys secret hMem
    obtain ⟨m, hMember, rfl⟩ := Option.map_eq_some_iff.mp hKeys
    have hSound := sound_run schedule hPath hWaiting n i
    obtain ⟨version, record, ⟨n', hLt, hReads⟩, hSecret⟩ :=
      (hSound.grounded m hMember).sourced secret hMem
    exact ⟨n', hLt, version, record, hReads, hSecret⟩
  · intro n hWrites
    obtain ⟨held, before, after, hHeld, hRecorded, hReads, hCurrent⟩ :=
      write_announced hPath hWaiting hWrites
    exact ⟨held, before, after, hHeld, hRecorded, hReads, hCurrent,
      fun hBound => hRecorded.reads hPath hHeld hBound⟩
  · intro i first last before after hRolls hUp
    exact hRolls.agrees hPath hWaiting hUp
  · intro i first last before after hRolls hDown
    exact hRolls.keeps hPath hDown

/-- A process founds a fleet, and its first rotation meets an outage before it can write. -/
def stormy (n : ℕ) : Turn Bool where
  who := false
  outage := if n = 3 ∨ n = 4 then some "connection loss" else none

/-- The first rotation reaches the store in no turn, and the second one makes up for it. -/
theorem rotation_with_outages_stormy :
    let f := start {}
    ∃ before between after, f.Rolls .two stormy false 2 4 before between ∧
      f.Rolls .two stormy false 5 7 between after ∧
      between.version = before.version ∧ between.next = before.next ∧
      ∃ version record, Reads ((f.run .two stormy 7).held .two) version record ∧
        after.Agrees version record := by
  intro f
  have hIdle : ∀ n, n = 2 ∨ n = 5 ∨ n = 8 → ((f.run .two stormy n).phase false).isIdle = true := by
    rintro n (rfl | rfl | rfl) <;> decide +kernel
  have hBusy : ∀ n, n = 3 ∨ n = 4 ∨ n = 6 ∨ n = 7 →
      ((f.run .two stormy n).phase false).isIdle = false := by
    rintro n (rfl | rfl | rfl | rfl) <;> decide +kernel
  obtain ⟨before, hBefore⟩ := Phase.isIdle_iff.mp (hIdle 2 (by decide))
  obtain ⟨between, hBetween⟩ := Phase.isIdle_iff.mp (hIdle 5 (by decide))
  obtain ⟨after, hAfter⟩ := Phase.isIdle_iff.mp (hIdle (7 + 1) (by decide))
  have hFirst : f.Rolls .two stormy false 2 4 before between :=
    ⟨rfl, rfl, by decide, hBefore, hBetween, fun n _ _ => hBusy n (by omega)⟩
  have hSecond : f.Rolls .two stormy false 5 7 between after :=
    ⟨rfl, rfl, by decide, hBetween, hAfter, fun n _ _ => hBusy n (by omega)⟩
  obtain ⟨-, -, hReach, hMiss⟩ := rotation_with_outages .two stormy {}
  have hKept := hMiss false 2 4 before between hFirst (by decide)
  exact ⟨before, between, after, hFirst, hSecond, hKept.1, hKept.2,
    hReach false 5 7 between after hSecond rfl⟩

end Fleet

end SignOn
