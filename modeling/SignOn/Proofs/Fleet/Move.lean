import SignOn.Proofs.Fleet.Rotation
import SignOn.Proofs.Fleet.Run

/-!
# Moves

`Move` lists all that a turn can do to a process and to the record of its fleet, and
`Fleet.act_move` says that nothing else happens. Every property of runs is derived from it, so that
no later proof looks into the steps of a process or the calls of the store.
-/

namespace SignOn

open SignOn.Text (Bytes)

namespace Fleet

variable {ι : Type}

/-! ## What a turn can do -/

/-- What a process reads from a stored record. -/
def Reads (held : Option Versioned) (version : Int64) (record : SecretRecord) : Prop :=
  ∃ data, held = some ⟨data, version⟩ ∧ SecretRecord.decode data = .ok record

theorem Reads.unique {held : Option Versioned} {version version' : Int64}
    {record record' : SecretRecord} (h : Reads held version record)
    (h' : Reads held version' record') : version = version' ∧ record = record' := by
  obtain ⟨data, hHeld, hDecode⟩ := h
  obtain ⟨data', hHeld', hDecode'⟩ := h'
  rw [hHeld] at hHeld'
  cases hHeld'
  rw [hDecode] at hDecode'
  cases hDecode'
  exact ⟨rfl, rfl⟩

theorem Reads.storable {held : Option Versioned} {version : Int64} {record : SecretRecord}
    (h : Reads held version record) : record.Storable := by
  obtain ⟨data, -, hDecode⟩ := h
  exact SecretRecord.storable_of_decode hDecode

/-- What a turn can do: from a process and the record of the fleet to what they become. The flag
says whether the record was replaced, and `up` that the store could be reached. While it joins, a
process may be refused, found the fleet or find it founded, and enroll. As a member it promotes the
announced secret, writes its offer or yields, and adopts what it reads or keeps what it has. -/
inductive Move (plan : FleetPlan ι) (i : ι) (up : Prop) :
    Phase → Option Versioned → Bool → Phase → Option Versioned → Prop
  | refuse {phase : Phase} {held : Option Versioned} (error : Error)
      (hMember : phase.member? = none)
      (hCause : plan.interval < 1 ∨ ¬ up ∨ phase = .refused error ∨
        (phase ≠ .waiting ∧ ∀ version record, ¬ Reads held version record)) :
      Move plan i up phase held false (.refused error) held
  | found : Move plan i up .waiting none false (.founded (plan.founding i).2)
      (some ⟨(plan.founding i).1.encode, 0⟩)
  | find (record : Versioned) :
      Move plan i up .waiting (some record) false (.founded (plan.founding i).2) (some record)
  | enroll (generator : Generator) {held : Option Versioned} {version : Int64}
      {record : SecretRecord} (hReads : Reads held version record) :
      Move plan i up (.founded generator) held false
        (.idle (Member.ofRecord plan.path plan.interval generator version record)) held
  | promote (m : Member) (held : Option Versioned) :
      Move plan i up (.idle m) held false (.promoted m.promote) held
  | write (m : Member) (data : Bytes) :
      Move plan i up (.promoted m) (some ⟨data, m.version⟩) true (.pushed m.spent)
        (some ⟨m.offer.encode, m.version + 1⟩)
  | yield (m : Member) {held : Option Versioned}
      (hCause : ¬ up ∨ ∀ record, held = some record → record.version ≠ m.version) :
      Move plan i up (.promoted m) held false (.pushed m.spent) held
  | adopt (m : Member) {held : Option Versioned} {version : Int64} {record : SecretRecord}
      (hUp : up) (hReads : Reads held version record) :
      Move plan i up (.pushed m) held false (.idle (m.adopt version record)) held
  | keep (m : Member) {held : Option Versioned}
      (hCause : ¬ up ∨ ∀ version record, ¬ Reads held version record) :
      Move plan i up (.pushed m) held false (.idle m) held

namespace Move

variable {plan : FleetPlan ι} {i : ι} {up : Prop} {phase phase' : Phase}
  {held held' : Option Versioned} {wrote : Bool} {m : Member} {version : Int64}
  {record : SecretRecord}

/-! ### What happens to the process -/

theorem of_idle (h : Move plan i up (.idle m) held wrote phase' held') :
    wrote = false ∧ phase' = .promoted m.promote ∧ held' = held := by
  cases h with
  | refuse _ hMember => cases hMember
  | promote => exact ⟨rfl, rfl, rfl⟩

theorem of_promoted_phase (h : Move plan i up (.promoted m) held wrote phase' held') :
    phase' = .pushed m.spent := by
  cases h with
  | refuse _ hMember => cases hMember
  | write | yield => rfl

/-- A member that knows the version of the stored record replaces it. -/
theorem of_promoted (h : Move plan i up (.promoted m) held wrote phase' held') (hUp : up)
    (hReads : Reads held version record) (hVersion : m.version = version) :
    wrote = true ∧ phase' = .pushed m.spent ∧ held' = some ⟨m.offer.encode, version + 1⟩ := by
  cases h with
  | refuse _ hMember => cases hMember
  | write m data =>
    obtain ⟨_, hHeld, -⟩ := hReads
    cases hHeld
    exact ⟨rfl, rfl, rfl⟩
  | yield m hCause =>
    obtain ⟨data, hHeld, -⟩ := hReads
    rcases hCause with hDown | hOther
    · exact absurd hUp hDown
    · exact absurd hVersion.symm (hOther _ hHeld)

/-- A member that is late replaces nothing. -/
theorem of_promoted_late (h : Move plan i up (.promoted m) held wrote phase' held')
    (hReads : Reads held version record) (hVersion : m.version ≠ version) :
    wrote = false ∧ phase' = .pushed m.spent ∧ held' = held := by
  cases h with
  | refuse _ hMember => cases hMember
  | write m data =>
    obtain ⟨_, hHeld, -⟩ := hReads
    cases hHeld
    exact absurd rfl hVersion
  | yield => exact ⟨rfl, rfl, rfl⟩

theorem of_pushed_phase (h : Move plan i up (.pushed m) held wrote phase' held') :
    ∃ m', phase' = .idle m' := by
  cases h with
  | refuse _ hMember => cases hMember
  | adopt | keep => exact ⟨_, rfl⟩

/-- A member that can read adopts what it reads. -/
theorem of_pushed (h : Move plan i up (.pushed m) held wrote phase' held') (hUp : up)
    (hReads : Reads held version record) :
    wrote = false ∧ phase' = .idle (m.adopt version record) ∧ held' = held := by
  cases h with
  | refuse _ hMember => cases hMember
  | adopt m _ hReads' =>
    obtain ⟨rfl, rfl⟩ := hReads.unique hReads'
    exact ⟨rfl, rfl, rfl⟩
  | keep m hCause =>
    rcases hCause with hDown | hNone
    · exact absurd hUp hDown
    · exact absurd hReads (hNone version record)

/-- A member that does not reach the store keeps what it has. -/
theorem of_pushed_down (h : Move plan i up (.pushed m) held wrote phase' held')
    (hDown : ¬ up) : phase' = .idle m := by
  cases h with
  | refuse _ hMember => cases hMember
  | adopt _ hUp => exact absurd hUp hDown
  | keep => rfl

theorem path (h : Move plan i up phase held wrote phase' held')
    (hPath : ∀ m, phase.member? = some m → m.path = plan.path) :
    ∀ m, phase'.member? = some m → m.path = plan.path := by
  cases h with
  | refuse | found | find =>
    intro m hm
    cases hm
  | enroll =>
    intro m hm
    cases hm
    rfl
  | promote m | write m | yield m | adopt m | keep m =>
    intro m' hm
    cases hm
    exact hPath m rfl

/-! ### What happens to the record -/

/-- A stored record stays, or is replaced by the offer of a member that knew its version. -/
theorem of_held {stored : Versioned} (h : Move plan i up phase (some stored) wrote phase' held') :
    (wrote = false ∧ held' = some stored) ∨
      (wrote = true ∧ ∃ m, phase = .promoted m ∧ m.version = stored.version ∧
        held' = some ⟨m.offer.encode, stored.version + 1⟩) := by
  cases h with
  | refuse | find | enroll | promote | yield | adopt | keep => exact Or.inl ⟨rfl, rfl⟩
  | write m data => exact Or.inr ⟨rfl, m, rfl, rfl, rfl⟩

/-- Where nothing is stored, at most a founding record is put. -/
theorem of_none (h : Move plan i up phase none wrote phase' held') :
    wrote = false ∧ (held' = none ∨ held' = some ⟨(plan.founding i).1.encode, 0⟩) := by
  cases h with
  | refuse | enroll | promote | yield | adopt | keep => exact ⟨rfl, Or.inl rfl⟩
  | found => exact ⟨rfl, Or.inr rfl⟩

/-- A record is put where nothing is stored only by a process that starts. -/
theorem of_none_some {stored : Versioned} (h : Move plan i up phase none wrote phase' (some stored)) :
    phase = .waiting ∧ stored = ⟨(plan.founding i).1.encode, 0⟩ := by
  cases h with
  | found => exact ⟨rfl, rfl⟩

theorem to_none (h : Move plan i up phase held wrote phase' none) :
    held = none ∧ wrote = false := by
  cases h with
  | refuse | enroll | promote | yield | adopt | keep => exact ⟨rfl, rfl⟩

end Move

/-! ## The calls of a turn -/

/-- Reading gives what the stored record says, and fails if it says nothing. -/
theorem readRecord_asStore (path : String) (s : MemoryStore) :
    (∃ version record, Reads (s.find? path) version record ∧
      Member.readRecord MemoryStore.asStore path s = (.ok (version, record), s)) ∨
    ((∀ version record, ¬ Reads (s.find? path) version record) ∧
      ∃ e, Member.readRecord MemoryStore.asStore path s = (.error e, s)) := by
  simp only [Member.readRecord, MemoryStore.asStore, MemoryStore.get]
  cases hHeld : s.find? path with
  | none =>
    right
    refine ⟨?_, _, rfl⟩
    rintro version record ⟨data, hData, -⟩
    cases hData
  | some stored =>
    obtain ⟨data, version⟩ := stored
    dsimp only
    cases hDecode : SecretRecord.decode data with
    | ok record => exact Or.inl ⟨version, record, ⟨data, rfl, hDecode⟩, rfl⟩
    | error fault =>
      right
      refine ⟨?_, _, rfl⟩
      rintro version' record ⟨data', hData, hRead⟩
      cases hData
      rw [hDecode] at hRead
      cases hRead

theorem found_asStore_of_none {path : String} {s : MemoryStore} (h : s.find? path = none)
    (record : SecretRecord) :
    Member.found MemoryStore.asStore path record s = (.ok (), s.put path ⟨record.encode, 0⟩) := by
  simp only [Member.found, MemoryStore.asStore, MemoryStore.create_of_none h]

theorem found_asStore_of_some {path : String} {s : MemoryStore} {held : Versioned}
    (h : s.find? path = some held) (record : SecretRecord) :
    Member.found MemoryStore.asStore path record s = (.ok (), s) := by
  simp only [Member.found, MemoryStore.asStore, MemoryStore.create_of_some h]

section

variable {plan : FleetPlan ι} {i : ι}

theorem move_waiting (s : MemoryStore) (outage : Option String) :
    let after := plan.next i (Turn.view ⟨i, outage⟩) .waiting s
    Move plan i (outage = none) .waiting (s.find? plan.path) false after.1
      (after.2.find? plan.path) := by
  dsimp only [FleetPlan.next]
  by_cases hInterval : plan.interval < 1
  · rw [if_pos hInterval]
    exact .refuse _ rfl (Or.inl hInterval)
  · rw [if_neg hInterval]
    cases outage with
    | some reason => exact .refuse _ rfl (Or.inr (Or.inl (by simp)))
    | none =>
      dsimp only [Turn.view]
      cases hHeld : s.find? plan.path with
      | none =>
        rw [found_asStore_of_none hHeld, ← hHeld]
        dsimp only
        rw [hHeld, MemoryStore.find?_put_self]
        exact .found
      | some record =>
        rw [found_asStore_of_some hHeld]
        dsimp only
        rw [hHeld]
        exact .find record

theorem move_founded (s : MemoryStore) (outage : Option String) (generator : Generator) :
    let after := plan.next i (Turn.view ⟨i, outage⟩) (.founded generator) s
    Move plan i (outage = none) (.founded generator) (s.find? plan.path) false after.1
      (after.2.find? plan.path) := by
  dsimp only [FleetPlan.next, Member.enroll]
  cases outage with
  | some reason => exact .refuse _ rfl (Or.inr (Or.inl (by simp)))
  | none =>
    dsimp only [Turn.view]
    rcases readRecord_asStore plan.path s with ⟨version, record, hReads, hEq⟩ | ⟨hNone, e, hEq⟩
    · rw [hEq]
      exact .enroll generator hReads
    · rw [hEq]
      exact .refuse e rfl (Or.inr (Or.inr (Or.inr ⟨by simp, hNone⟩)))

theorem move_promoted (s : MemoryStore) (outage : Option String) {m : Member}
    (hPath : m.path = plan.path) :
    let after := plan.next i (Turn.view ⟨i, outage⟩) (.promoted m) s
    Move plan i (outage = none) (.promoted m) (s.find? plan.path)
      ((Turn.view ⟨i, outage⟩).set s m.path m.offer.encode m.version).1.isOk after.1
      (after.2.find? plan.path) := by
  dsimp only [FleetPlan.next, Member.push]
  rw [← hPath]
  cases outage with
  | some reason => exact .yield m (Or.inl (by simp))
  | none =>
    dsimp only [Turn.view, MemoryStore.asStore]
    by_cases hWrite : ∃ record, s.find? m.path = some record ∧ record.version = m.version
    · obtain ⟨⟨data, version⟩, hHeld, hVersion⟩ := hWrite
      dsimp only at hVersion
      subst hVersion
      rw [MemoryStore.set_of_eq hHeld, hHeld]
      dsimp only
      rw [MemoryStore.find?_put_self]
      exact .write m data
    · have hNe : ∀ record, s.find? m.path = some record → record.version ≠ m.version :=
        fun record hHeld hVersion => hWrite ⟨record, hHeld, hVersion⟩
      obtain ⟨fault, hEq⟩ := MemoryStore.set_of_ne hNe m.offer.encode
      rw [hEq]
      exact .yield m (Or.inr hNe)

theorem move_pushed (s : MemoryStore) (outage : Option String) {m : Member}
    (hPath : m.path = plan.path) :
    let after := plan.next i (Turn.view ⟨i, outage⟩) (.pushed m) s
    Move plan i (outage = none) (.pushed m) (s.find? plan.path) false after.1
      (after.2.find? plan.path) := by
  dsimp only [FleetPlan.next, Member.pull]
  rw [hPath]
  cases outage with
  | some reason => exact .keep m (Or.inl (by simp))
  | none =>
    dsimp only [Turn.view]
    rcases readRecord_asStore plan.path s with ⟨version, record, hReads, hEq⟩ | ⟨hNone, e, hEq⟩
    · rw [hEq]
      exact .adopt m rfl hReads
    · rw [hEq]
      exact .keep m (Or.inr hNone)

end

/-! ## The moves of a fleet -/

/-- All members work on the record of the fleet. -/
def OnPath (plan : FleetPlan ι) (f : Fleet ι) : Prop :=
  ∀ i m, (f.phase i).member? = some m → m.path = plan.path

theorem onPath_start (plan : FleetPlan ι) (store : MemoryStore) :
    (start store : Fleet ι).OnPath plan := by
  intro i m hm
  cases hm

section

variable [DecidableEq ι] {plan : FleetPlan ι} {f : Fleet ι} {t : Turn ι}

theorem act_phase_self :
    (f.act plan t).phase t.who = (plan.next t.who t.view (f.phase t.who) f.store).1 :=
  Function.update_self t.who _ f.phase

theorem act_phase_of_ne {i : ι} (h : i ≠ t.who) : (f.act plan t).phase i = f.phase i :=
  Function.update_of_ne h _ f.phase

/-- Every turn makes one of the moves. -/
theorem act_move (hPath : f.OnPath plan) (t : Turn ι) :
    Move plan t.who (t.outage = none) (f.phase t.who) (f.held plan) (f.writes t)
      ((f.act plan t).phase t.who) ((f.act plan t).held plan) := by
  have hMember := hPath t.who
  have hHeld : (f.act plan t).held plan =
      (plan.next t.who t.view (f.phase t.who) f.store).2.find? plan.path := rfl
  rw [act_phase_self, hHeld]
  unfold held writes
  cases hPhase : f.phase t.who with
  | waiting => exact move_waiting f.store t.outage
  | founded generator => exact move_founded f.store t.outage generator
  | refused e => exact .refuse e rfl (Or.inr (Or.inr (Or.inl rfl)))
  | idle m => exact .promote m _
  | promoted m => exact move_promoted f.store t.outage (hMember m (by rw [hPhase]; rfl))
  | pushed m => exact move_pushed f.store t.outage (hMember m (by rw [hPhase]; rfl))

theorem OnPath.act (hPath : f.OnPath plan) (t : Turn ι) : (f.act plan t).OnPath plan := by
  intro i
  by_cases hi : i = t.who
  · subst hi
    exact (act_move hPath t).path (hPath t.who)
  · rw [act_phase_of_ne hi]
    exact hPath i

end

end Fleet

end SignOn
