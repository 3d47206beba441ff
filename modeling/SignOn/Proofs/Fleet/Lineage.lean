import SignOn.Proofs.Fleet.History
import SignOn.Proofs.Session.Signature

/-!
# One lineage of secrets

As long as the store answers, the processes of a fleet share one sequence of secrets. The record
that has been replaced `k` times has the secret with the number `k` in effect and announces the one
behind it, whoever wrote it; and each process publishes a pair of neighbours of the sequence, in
every state of every run.

The invariant has two halves. `Linked` says of the stored record that it was founded, or succeeds
an earlier one. `Placed` says of a process that it agrees with a record of the past, or is one
secret ahead of it. A process that writes knew the version of the stored record, so the record it
is ahead of is the stored one, and its offer succeeds that.
-/

namespace SignOn

open SignOn.Text (Bytes)

/-! ## Numbers within 64 bits -/

/-- The sum is within 64 bits. -/
def Exact (a b : Int64) : Prop :=
  (a + b).toInt = a.toInt + b.toInt

instance (a b : Int64) : Decidable (Exact a b) :=
  inferInstanceAs (Decidable (_ = _))

/-- What a process adds in its next step, to a deadline or to the version of the stored record, is
within 64 bits. -/
def Phase.NoOverflow (held : Option Versioned) : Phase → Prop
  | .waiting | .founded _ | .refused _ | .pushed _ => True
  | .idle m => Exact m.nextRollover m.interval
  | .promoted m => ∀ record ∈ held, record.version = m.version → Exact record.version 1

instance (held : Option Versioned) : (phase : Phase) → Decidable (phase.NoOverflow held)
  | .waiting | .founded _ | .refused _ | .pushed _ => .isTrue trivial
  | .idle _ => inferInstanceAs (Decidable (Exact _ _))
  | .promoted m => inferInstanceAs
      (Decidable (∀ record ∈ held, record.version = m.version → Exact record.version 1))

/-- The number of the secret that a process has in effect: the version that it knows, and the one
behind it during a rotation. -/
def Phase.place? : Phase → Option Int
  | .waiting | .founded _ | .refused _ => none
  | .idle m => some m.version.toInt
  | .promoted m | .pushed m => some (m.version.toInt + 1)

namespace Fleet

variable {ι : Type}

/-! ## The line of records -/

/-- The record `r'` follows `r` after an interval. -/
structure Follows (interval : Int64) (r r' : SecretRecord) : Prop where
  precedes : r.Precedes r'
  deadline : r'.nextRollover.toInt = r.nextRollover.toInt + interval.toInt

/-- The records of `P` stand in a line: each but those with the number zero follows one with the
number before. -/
def InLine (interval : Int64) (P : ℕ → SecretRecord → Prop) : ℕ → SecretRecord → Prop
  | 0, r => r.previous = none
  | k + 1, r => ∃ before, P k before ∧ Follows interval before r

/-- Two neighbours of a sequence of secrets, the later one in effect. -/
def pair (S : ℕ → Bytes) : ℕ → Keyring
  | 0 => ⟨S 0, none⟩
  | k + 1 => ⟨S (k + 1), some (S k)⟩

theorem pair_current (S : ℕ → Bytes) (k : ℕ) : (pair S k).current = S k := by
  cases k <;> rfl

theorem pair_succ (S : ℕ → Bytes) (k : ℕ) : pair S (k + 1) = (pair S k).rotate (S (k + 1)) := by
  rw [Keyring.rotate, pair_current]
  rfl

/-- The record says what a sequence of secrets has at the place `k`. -/
structure Shows (S : ℕ → Bytes) (r₀ : Int) (interval : Int64) (k : ℕ) (r : SecretRecord) :
    Prop where
  keyring : r.keyring = pair S k
  next : r.next = S (k + 1)
  deadline : r.nextRollover.toInt = r₀ + k * interval.toInt

/-- Records in a line spell one sequence of secrets. -/
theorem exists_sequence (interval : Int64) {P : ℕ → SecretRecord → Prop}
    (hUnique : ∀ k r r', P k r → P k r' → r = r')
    (hLine : ∀ k r, P k r → InLine interval P k r) :
    ∃ (S : ℕ → Bytes) (r₀ : Int), ∀ k r, P k r → Shows S r₀ interval k r := by
  have hChoice : ∀ k, ∃ r, ∀ r', P k r' → r' = r := by
    intro k
    by_cases hSome : ∃ r, P k r
    · obtain ⟨r, hr⟩ := hSome
      exact ⟨r, fun r' hr' => hUnique k r' r hr' hr⟩
    · exact ⟨⟨[], [], none, 0⟩, fun r' hr' => absurd ⟨r', hr'⟩ hSome⟩
  choose line hChosen using hChoice
  let S : ℕ → Bytes := fun k => k.casesOn (line 0).current fun k => (line k).next
  refine ⟨S, (line 0).nextRollover.toInt, fun k => ?_⟩
  induction k with
  | zero =>
    intro r hr
    have hPrevious : r.previous = none := hLine 0 r hr
    obtain rfl := hChosen 0 r hr
    exact ⟨by rw [SecretRecord.keyring, hPrevious]; rfl, rfl, by simp⟩
  | succ k ih =>
    intro r hr
    obtain ⟨before, hBefore, hFollows⟩ := hLine (k + 1) r hr
    have hShows := ih before hBefore
    refine ⟨?_, by rw [hChosen (k + 1) r hr], ?_⟩
    · rw [hFollows.precedes, hShows.keyring, hShows.next, pair_succ]
    · rw [hFollows.deadline, hShows.deadline, Int.natCast_succ, Int.add_mul, Int.one_mul,
        Int.add_assoc]

/-! ## The invariant -/

section

variable [DecidableEq ι]

/-- In the first `n` turns all that is added is within 64 bits. -/
def InRange (plan : FleetPlan ι) (schedule : ℕ → Turn ι) (f : Fleet ι) (n : ℕ) : Prop :=
  ∀ n' < n, ((f.run plan schedule n').phase (schedule n').who).NoOverflow
    ((f.run plan schedule n').held plan)

instance (plan : FleetPlan ι) (schedule : ℕ → Turn ι) (f : Fleet ι) (n : ℕ) :
    Decidable (f.InRange plan schedule n) :=
  inferInstanceAs (Decidable (∀ n' < n, _))

/-- The record is stored at a time when it has been replaced `k` times. -/
def Numbered (plan : FleetPlan ι) (schedule : ℕ → Turn ι) (f : Fleet ι) (k : ℕ)
    (record : SecretRecord) : Prop :=
  ∃ n version, f.InRange plan schedule n ∧ f.writeCount plan schedule n = k ∧
    Reads ((f.run plan schedule n).held plan) version record

/-- What is stored after `n` turns can be read, has its number as its version, and stands in line
with the records before it. -/
def Linked (plan : FleetPlan ι) (schedule : ℕ → Turn ι) (f : Fleet ι) (n : ℕ) : Prop :=
  ∀ held, (f.run plan schedule n).held plan = some held →
    ∃ record, SecretRecord.decode held.data = .ok record ∧
      held.version.toInt = f.writeCount plan schedule n ∧
      InLine plan.interval (f.Numbered plan schedule) (f.writeCount plan schedule n) record

/-- A process agrees with a record of the past, or is one secret ahead of it. It is refused only
if no process could join. -/
def Placed (plan : FleetPlan ι) (schedule : ℕ → Turn ι) (f : Fleet ι) (n : ℕ) : Phase → Prop
  | .waiting => True
  | .founded _ => ∃ held, (f.run plan schedule n).held plan = some held
  | .refused _ => plan.interval < 1
  | .idle m =>
    m.interval = plan.interval ∧
      ∃ record, f.Recorded plan schedule n m.version record ∧ m.Agrees m.version record
  | .promoted m | .pushed m =>
    m.interval = plan.interval ∧
      ∃ record, f.Recorded plan schedule n m.version record ∧ m.Ahead m.version record ∧
        Exact record.nextRollover plan.interval

variable {plan : FleetPlan ι} {schedule : ℕ → Turn ι} {f : Fleet ι} {n n' : ℕ}

theorem InRange.mono (h : f.InRange plan schedule n') (hLe : n ≤ n') :
    f.InRange plan schedule n :=
  fun n₀ hLt => h n₀ (Nat.lt_of_lt_of_le hLt hLe)

theorem Placed.mono {phase : Phase} (hPath : f.OnPath plan) (hLe : n ≤ n')
    (h : f.Placed plan schedule n phase) : f.Placed plan schedule n' phase := by
  cases phase with
  | waiting => trivial
  | founded =>
    obtain ⟨held, hHeld⟩ := h
    obtain ⟨held', _, hHeld', -⟩ := held_of_le hPath hLe hHeld
    exact ⟨held', hHeld'⟩
  | refused => exact h
  | idle =>
    obtain ⟨hInterval, record, hRecorded, hAgrees⟩ := h
    exact ⟨hInterval, record, hRecorded.mono hLe, hAgrees⟩
  | promoted | pushed =>
    obtain ⟨hInterval, record, hRecorded, hAhead⟩ := h
    exact ⟨hInterval, record, hRecorded.mono hLe, hAhead⟩

theorem Linked.reads (h : f.Linked plan schedule n) {held : Versioned}
    (hHeld : (f.run plan schedule n).held plan = some held) :
    ∃ record, Reads ((f.run plan schedule n).held plan) held.version record := by
  obtain ⟨record, hDecode, -⟩ := h held hHeld
  exact ⟨record, held.data, hHeld, hDecode⟩

theorem Linked.writeCount_lt (h : f.Linked plan schedule n) {held : Versioned}
    (hHeld : (f.run plan schedule n).held plan = some held) :
    f.writeCount plan schedule n < 2 ^ 64 := by
  obtain ⟨record, -, hVersion, -⟩ := h held hHeld
  have hLt := held.version.toInt_lt
  omega

theorem linked_of_found (hPath : f.OnPath plan)
    (hBefore : (f.run plan schedule n).held plan = none)
    (hWrote : (f.run plan schedule n).writes (schedule n) = false) {i : ι}
    (hHeld : (f.run plan schedule (n + 1)).held plan =
      some ⟨(plan.founding i).1.encode, 0⟩) : f.Linked plan schedule (n + 1) := by
  intro held hNow
  rw [hHeld] at hNow
  cases hNow
  have hCount : f.writeCount plan schedule (n + 1) = 0 := by
    rw [writeCount_of_not_writes hWrote, writeCount_of_held_eq_none hPath hBefore]
  rw [hCount]
  exact ⟨_, SecretRecord.decode_encode (Member.founding_storable _ _), rfl, rfl⟩

theorem linked_of_write {m : Member} {held : Versioned} (hPath : f.OnPath plan)
    (hRange : f.InRange plan schedule n) (hLinked : f.Linked plan schedule n)
    (hPlaced : f.Placed plan schedule n (.promoted m))
    (hBefore : (f.run plan schedule n).held plan = some held) (hVersion : m.version = held.version)
    (hExact : Exact held.version 1)
    (hWrote : (f.run plan schedule n).writes (schedule n) = true)
    (hHeld : (f.run plan schedule (n + 1)).held plan =
      some ⟨m.offer.encode, held.version + 1⟩) : f.Linked plan schedule (n + 1) := by
  intro held' hNow
  rw [hHeld] at hNow
  cases hNow
  obtain ⟨hInterval, record, hRecorded, hAhead, hDeadline⟩ := hPlaced
  rw [hVersion] at hRecorded
  have hReads := hRecorded.reads hPath hBefore (hLinked.writeCount_lt hBefore)
  obtain ⟨-, -, hNumber, -⟩ := hLinked held hBefore
  have hCount := writeCount_of_writes hWrote
  have hFollows : Follows plan.interval record m.offer := by
    refine ⟨hAhead.offer_keyring, ?_⟩
    have hOffer : m.offer.nextRollover = record.nextRollover + plan.interval := by
      rw [Member.offer, hAhead.nextRollover, hInterval]
    rw [hOffer]
    exact hDeadline
  rw [hCount]
  refine ⟨m.offer, SecretRecord.decode_encode (hAhead.offer_storable hReads.storable), ?_,
    record, ⟨n, held.version, hRange, rfl, hReads⟩, hFollows⟩
  dsimp only
  rw [hExact, hNumber]
  rfl

theorem linked_succ (hPath : f.OnPath plan) (hRange : f.InRange plan schedule (n + 1))
    (hLinked : f.Linked plan schedule n)
    (hPlaced : f.Placed plan schedule n ((f.run plan schedule n).phase (schedule n).who)) :
    f.Linked plan schedule (n + 1) := by
  have hMove := run_move schedule hPath n
  cases hBefore : (f.run plan schedule n).held plan with
  | none =>
    rw [hBefore] at hMove
    obtain ⟨hWrote, hAfter | hAfter⟩ := hMove.of_none
    · intro held hNow
      rw [hAfter] at hNow
      cases hNow
    · exact linked_of_found hPath hBefore hWrote hAfter
  | some held =>
    rw [hBefore] at hMove
    rcases hMove.of_held with ⟨hWrote, hAfter⟩ | ⟨hWrote, m, hPhase, hVersion, hAfter⟩
    · intro held' hNow
      rw [hAfter] at hNow
      cases hNow
      rw [writeCount_of_not_writes hWrote]
      exact hLinked held hBefore
    · rw [hPhase] at hPlaced
      have hExact := hRange n (Nat.lt_succ_self n)
      rw [hPhase] at hExact
      exact linked_of_write hPath (hRange.mono (Nat.le_succ n)) hLinked hPlaced hBefore hVersion
        (hExact held hBefore hVersion.symm) hWrote hAfter

theorem placed_of_move (hPath : f.OnPath plan) {i : ι} {up : Prop} (hUp : up)
    {phase phase' : Phase} {held held' : Option Versioned} {wrote : Bool}
    (hMove : Move plan i up phase held wrote phase' held')
    (hNow : (f.run plan schedule n).held plan = held)
    (hThen : (f.run plan schedule (n + 1)).held plan = held')
    (hLinked : f.Linked plan schedule n) (hPlaced : f.Placed plan schedule n phase)
    (hExact : phase.NoOverflow held) : f.Placed plan schedule (n + 1) phase' := by
  have hReadable : (∃ stored, (f.run plan schedule n).held plan = some stored) →
      ∃ version record, Reads held version record := by
    rintro ⟨stored, hStored⟩
    rw [← hNow]
    exact ⟨stored.version, hLinked.reads hStored⟩
  have hKept := hPlaced.mono hPath (Nat.le_succ n)
  cases hMove with
  | refuse error hMember hCause =>
    rcases hCause with hInterval | hDown | rfl | ⟨hWaiting, hNone⟩
    · exact hInterval
    · exact absurd hUp hDown
    · exact hKept
    · cases phase with
      | waiting => exact absurd rfl hWaiting
      | founded =>
        obtain ⟨version, record, hReads⟩ := hReadable hPlaced
        exact absurd hReads (hNone version record)
      | refused => exact hPlaced
      | idle | promoted | pushed => cases hMember
  | found => exact ⟨_, hThen⟩
  | find => exact ⟨_, hThen⟩
  | enroll generator hReads => exact ⟨rfl, _, hReads.recorded hNow, Member.agrees_ofRecord ..⟩
  | promote m =>
    obtain ⟨hInterval, record, hRecorded, hAgrees⟩ := hKept
    refine ⟨hInterval, record, hRecorded, hAgrees.promote, ?_⟩
    rw [← hAgrees.nextRollover, ← hInterval]
    exact hExact
  | write m | yield m =>
    obtain ⟨hInterval, record, hRecorded, hAhead, hDeadline⟩ := hKept
    exact ⟨hInterval, record, hRecorded, hAhead.spent, hDeadline⟩
  | adopt m _ hReads => exact ⟨hPlaced.1, _, hReads.recorded hNow, Member.agrees_adopt ..⟩
  | keep m hCause =>
    obtain ⟨-, _, hRecorded, -⟩ := hPlaced
    obtain ⟨version, record, hReads⟩ := hReadable (hRecorded.exists_held hPath)
    rcases hCause with hDown | hNone
    · exact absurd hUp hDown
    · exact absurd hReads (hNone version record)

theorem linked_and_placed (schedule : ℕ → Turn ι) (hPath : f.OnPath plan) (hEmpty : f.held plan = none)
    (hWaiting : ∀ i, f.phase i = .waiting) (hUp : ∀ n, (schedule n).outage = none) (n : ℕ)
    (hRange : f.InRange plan schedule n) :
    f.Linked plan schedule n ∧
      ∀ i, f.Placed plan schedule n ((f.run plan schedule n).phase i) := by
  induction n with
  | zero =>
    refine ⟨fun held hHeld => ?_, fun i => ?_⟩
    · have hNone : f.held plan = some held := hHeld
      rw [hEmpty] at hNone
      cases hNone
    · have hPhase : (f.run plan schedule 0).phase i = .waiting := hWaiting i
      rw [hPhase]
      trivial
  | succ n ih =>
    obtain ⟨hLinked, hPlaced⟩ := ih (hRange.mono (Nat.le_succ n))
    refine ⟨linked_succ hPath hRange hLinked (hPlaced _), fun i => ?_⟩
    by_cases hi : i = (schedule n).who
    · subst hi
      exact placed_of_move hPath (hUp n) (run_move schedule hPath n) rfl rfl hLinked
        (hPlaced _) (hRange n (Nat.lt_succ_self n))
    · rw [run_phase_of_ne hi]
      exact (hPlaced i).mono hPath (Nat.le_succ n)

theorem numbered_unique (hPath : f.OnPath plan) {k : ℕ} {record record' : SecretRecord}
    (h : f.Numbered plan schedule k record) (h' : f.Numbered plan schedule k record') :
    record = record' := by
  obtain ⟨n, version, -, hCount, data, hHeld, hDecode⟩ := h
  obtain ⟨n', version', -, hCount', data', hHeld', hDecode'⟩ := h'
  have hSame := held_eq_of_writeCount_eq hPath hHeld hHeld' (hCount.trans hCount'.symm)
  cases hSame
  rw [hDecode] at hDecode'
  exact Except.ok.inj hDecode'

theorem Linked.inLine (h : f.Linked plan schedule n) {version : Int64} {record : SecretRecord}
    (hReads : Reads ((f.run plan schedule n).held plan) version record) :
    version.toInt = f.writeCount plan schedule n ∧
      InLine plan.interval (f.Numbered plan schedule) (f.writeCount plan schedule n) record := by
  obtain ⟨data, hHeld, hDecode⟩ := hReads
  obtain ⟨record', hDecode', hVersion, hLine⟩ := h _ hHeld
  rw [hDecode] at hDecode'
  cases hDecode'
  exact ⟨hVersion, hLine⟩

end

/-! ## The lineage -/

/-- The fleet has one lineage of secrets: a state in which the record and the processes have what a
sequence of secrets says. -/
structure Lineage (plan : FleetPlan ι) (f : Fleet ι) (S : ℕ → Bytes) (r₀ : Int) : Prop where
  /-- The record with the version `k` shows the place `k`. -/
  stored : ∀ held, f.held plan = some held → ∃ (k : ℕ) (record : SecretRecord),
    held.version.toInt = k ∧ SecretRecord.decode held.data = .ok record ∧
      Shows S r₀ plan.interval k record
  /-- Between two rotations a process with the version `j` publishes the pair `j`. -/
  settled : ∀ i m, f.phase i = .idle m → ∃ j : ℕ, m.version.toInt = j ∧ m.keys = pair S j
  /-- During a rotation it publishes the pair behind it. -/
  rotating : ∀ i m, f.phase i = .promoted m ∨ f.phase i = .pushed m →
    ∃ j : ℕ, m.version.toInt = j ∧ m.keys = pair S (j + 1)
  /-- No process is ahead of the store. -/
  behind : ∀ i m, (f.phase i).member? = some m →
    ∃ held, f.held plan = some held ∧ m.version ≤ held.version
  /-- Every process can join. -/
  joined : 1 ≤ plan.interval → ∀ i e, f.phase i ≠ .refused e

theorem pair_current_mem (S : ℕ → Bytes) {a b : ℕ} (h : b = a ∨ b = a + 1) :
    (pair S a).current ∈ (pair S b).secrets := by
  rw [pair_current, Keyring.mem_secrets]
  rcases h with rfl | rfl
  · exact Or.inl (pair_current S b).symm
  · exact Or.inr rfl

theorem Lineage.keys {plan : FleetPlan ι} {f : Fleet ι} {S : ℕ → Bytes} {r₀ : Int}
    (h : f.Lineage plan S r₀) {i : ι} {keys : Keyring} {a : Int}
    (hKeys : (f.phase i).keys? = some keys) (hPlace : (f.phase i).place? = some a) :
    ∃ k : ℕ, a = k ∧ keys = pair S k := by
  cases hPhase : f.phase i with
  | waiting | founded | refused =>
    rw [hPhase] at hKeys
    cases hKeys
  | idle m =>
    obtain ⟨j, hVersion, hPair⟩ := h.settled i m hPhase
    rw [hPhase] at hKeys hPlace
    cases hKeys
    cases hPlace
    exact ⟨j, hVersion, hPair⟩
  | promoted m | pushed m =>
    obtain ⟨j, hVersion, hPair⟩ := h.rotating i m (by simp [hPhase])
    rw [hPhase] at hKeys hPlace
    cases hKeys
    cases hPlace
    exact ⟨j + 1, by rw [hVersion, Int.natCast_succ], hPair⟩

/-- What is signed at one place is accepted there and at the next one, in all states with the same
lineage. -/
theorem Lineage.verify_of_sign {plan : FleetPlan ι} {f f' : Fleet ι} {S : ℕ → Bytes} {r₀ : Int}
    (h : f.Lineage plan S r₀) (h' : f'.Lineage plan S r₀) {i i' : ι} {keys keys' : Keyring}
    {a b : Int} (hKeys : (f.phase i).keys? = some keys) (hPlace : (f.phase i).place? = some a)
    (hKeys' : (f'.phase i').keys? = some keys') (hPlace' : (f'.phase i').place? = some b)
    (hNext : b = a ∨ b = a + 1) {payload signed : String}
    (hSign : Signature.sign keys payload = .ok signed) :
    Signature.verify keys' signed = .ok payload := by
  obtain ⟨k, rfl, rfl⟩ := h.keys hKeys hPlace
  obtain ⟨k', rfl, rfl⟩ := h'.keys hKeys' hPlace'
  exact Signature.verify_of_sign hSign (pair_current_mem S (by omega))

section

variable [DecidableEq ι] {plan : FleetPlan ι} {schedule : ℕ → Turn ι} {f : Fleet ι} {n : ℕ}

/-- What a member knows of the past is a place in the lineage, and not ahead of the store. -/
theorem exists_place (hPath : f.OnPath plan) {S : ℕ → Bytes} {r₀ : Int}
    (hShows : ∀ k record, f.Numbered plan schedule k record → Shows S r₀ plan.interval k record)
    (hLinked : ∀ n' ≤ n, f.Linked plan schedule n') (hRange : f.InRange plan schedule n)
    {version : Int64} {record : SecretRecord}
    (hRecorded : f.Recorded plan schedule n version record) :
    ∃ j : ℕ, version.toInt = j ∧ Shows S r₀ plan.interval j record ∧
      ∃ held, (f.run plan schedule n).held plan = some held ∧ version ≤ held.version := by
  obtain ⟨held, hHeld⟩ := hRecorded.exists_held hPath
  obtain ⟨n', hLt, hReads⟩ := hRecorded
  have hLe : n' ≤ n := hLt.le
  have hVersion := ((hLinked n' hLe).inLine hReads).1
  obtain ⟨_, -, hNow, -⟩ := hLinked n (Nat.le_refl n) held hHeld
  refine ⟨_, hVersion, hShows _ _ ⟨n', version, hRange.mono hLe, rfl, hReads⟩, held, hHeld, ?_⟩
  have hCount : f.writeCount plan schedule n' ≤ f.writeCount plan schedule n := writeCount_mono hLe
  rw [Int64.le_iff_toInt_le, hVersion, hNow]
  omega

theorem lineage_of_linked (hPath : f.OnPath plan) {S : ℕ → Bytes} {r₀ : Int}
    (hShows : ∀ k record, f.Numbered plan schedule k record → Shows S r₀ plan.interval k record)
    (hLinked : ∀ n' ≤ n, f.Linked plan schedule n')
    (hPlaced : ∀ i, f.Placed plan schedule n ((f.run plan schedule n).phase i))
    (hRange : f.InRange plan schedule n) : (f.run plan schedule n).Lineage plan S r₀ where
  stored := by
    intro held hHeld
    obtain ⟨record, hDecode, hVersion, -⟩ := hLinked n (Nat.le_refl n) held hHeld
    exact ⟨_, record, hVersion, hDecode,
      hShows _ _ ⟨n, held.version, hRange, rfl, held.data, hHeld, hDecode⟩⟩
  settled := by
    intro i m hPhase
    have hHere := hPlaced i
    rw [hPhase] at hHere
    obtain ⟨-, record, hRecorded, hAgrees⟩ := hHere
    obtain ⟨j, hVersion, hPlace, -⟩ := exists_place hPath hShows hLinked hRange hRecorded
    exact ⟨j, hVersion, hAgrees.keys.trans hPlace.keyring⟩
  rotating := by
    intro i m hPhase
    have hHere : f.Placed plan schedule n (.promoted m) := by
      have hHere := hPlaced i
      rcases hPhase with hPhase | hPhase
      · rwa [hPhase] at hHere
      · rwa [hPhase] at hHere
    obtain ⟨-, record, hRecorded, hAhead, -⟩ := hHere
    obtain ⟨j, hVersion, hPlace, -⟩ := exists_place hPath hShows hLinked hRange hRecorded
    refine ⟨j, hVersion, ?_⟩
    rw [hAhead.keys, hPlace.keyring, hPlace.next, pair_succ]
  behind := by
    intro i m hMember
    have hHere := hPlaced i
    have hRecorded : ∃ record, f.Recorded plan schedule n m.version record := by
      cases hPhase : (f.run plan schedule n).phase i with
      | waiting | founded | refused =>
        rw [hPhase] at hMember
        cases hMember
      | idle | promoted | pushed =>
        rw [hPhase] at hMember hHere
        cases hMember
        obtain ⟨-, record, hRecorded, -⟩ := hHere
        exact ⟨record, hRecorded⟩
    obtain ⟨record, hRecorded⟩ := hRecorded
    obtain ⟨-, -, -, hBehind⟩ := exists_place hPath hShows hLinked hRange hRecorded
    exact hBehind
  joined := by
    intro hInterval i e hPhase
    have hHere := hPlaced i
    rw [hPhase] at hHere
    exact absurd hInterval (Int64.not_le.mpr hHere)

/-- There is one sequence of secrets that the record and all processes follow in every state. -/
theorem exists_lineage (plan : FleetPlan ι) (order : ℕ → ι) {store : MemoryStore}
    (hEmpty : store.find? plan.path = none) :
    ∃ (S : ℕ → Bytes) (r₀ : Int), ∀ n, (start store).InRange plan (Turn.connected order) n →
      ((start store).run plan (Turn.connected order) n).Lineage plan S r₀ := by
  have hPath : (start store : Fleet ι).OnPath plan := onPath_start plan store
  have hInvariant := linked_and_placed (Turn.connected order) hPath hEmpty
    (fun _ => rfl) (fun _ => rfl)
  obtain ⟨S, r₀, hShows⟩ := exists_sequence plan.interval
    (P := (start store).Numbered plan (Turn.connected order))
    (fun k record record' => numbered_unique hPath) (by
      rintro k record ⟨n, version, hRange, rfl, hReads⟩
      exact ((hInvariant n hRange).1.inLine hReads).2)
  exact ⟨S, r₀, fun n hRange =>
    lineage_of_linked hPath hShows (fun n' hLe => (hInvariant n' (hRange.mono hLe)).1)
      (hInvariant n hRange).2 hRange⟩

/-- **One lineage.** However the processes of a fleet take turns, there is one sequence of secrets
that the record and all processes follow in every state, until something leaves the range of 64
bits. So a text that a process signs with the secret at one place is accepted by every process at
this place or the next one. -/
theorem one_lineage (plan : FleetPlan ι) (order : ℕ → ι) {store : MemoryStore}
    (hEmpty : store.find? plan.path = none) :
    ∃ (S : ℕ → Bytes) (r₀ : Int),
      (∀ n, (start store).InRange plan (Turn.connected order) n →
        ((start store).run plan (Turn.connected order) n).Lineage plan S r₀) ∧
      ∀ n n', (start store).InRange plan (Turn.connected order) n →
        (start store).InRange plan (Turn.connected order) n' → ∀ i i' keys keys' a b,
        (((start store).run plan (Turn.connected order) n).phase i).keys? = some keys →
        (((start store).run plan (Turn.connected order) n).phase i).place? = some a →
        (((start store).run plan (Turn.connected order) n').phase i').keys? = some keys' →
        (((start store).run plan (Turn.connected order) n').phase i').place? = some b →
        (b = a ∨ b = a + 1) → ∀ payload signed, Signature.sign keys payload = .ok signed →
          Signature.verify keys' signed = .ok payload := by
  obtain ⟨S, r₀, hLineage⟩ := exists_lineage plan order hEmpty
  refine ⟨S, r₀, hLineage, ?_⟩
  intro n n' hRange hRange' i i' keys keys' a b hKeys hPlace hKeys' hPlace' hNext payload signed
  exact (hLineage n hRange).verify_of_sign (hLineage n' hRange') hKeys hPlace hKeys' hPlace' hNext

end

/-- Two processes join, and both promote before one of them writes. -/
def race (n : ℕ) : Bool :=
  [false, false, true, true, false, true, false, true, true].getD n false

/-- The loser of the race has adopted what the winner, which has not read yet, has written. -/
theorem one_lineage_race :
    let f := (start {}).run .two (.connected race) 9
    MemoryStore.find? {} FleetPlan.two.path = none ∧
      (start {}).InRange .two (.connected race) 9 ∧
      (f.phase false).place? = some 1 ∧ (f.phase true).place? = some 1 ∧
      ∃ S r₀, f.Lineage .two S r₀ := by
  intro f
  have hEmpty : MemoryStore.find? {} FleetPlan.two.path = none := rfl
  have hRange : (start {}).InRange .two (.connected race) 9 := by decide +kernel
  have hPlaces : (f.phase false).place? = some 1 ∧ (f.phase true).place? = some 1 := by
    decide +kernel
  obtain ⟨S, r₀, hLineage, -⟩ := one_lineage .two race hEmpty
  exact ⟨hEmpty, hRange, hPlaces.1, hPlaces.2, S, r₀, hLineage 9 hRange⟩

end Fleet

end SignOn
