import SignOn.Keyring.Source
import SignOn.Proofs.Fleet.Rotation

/-!
# Joining a fleet

A process that joins a fleet asks the store twice: it offers a record of its own, which only counts
if there was none, and then it reads. What it reads is what it has from then on, whether the record
is its own, an older one, or one that others have put there between the two calls. If a call fails,
or if what was read is no record, there is no source and so nothing that rotates
(`Source.joinFleet_exact`).

The store may answer anything, and the second answer need not have to do with the first.
-/

namespace SignOn

variable {σ : Type}

/-- A length of time has a whole millisecond as a machine word exactly if it has one. -/
theorem Duration.boundedMillis_lt_one_iff {d : Duration} : d.boundedMillis < 1 ↔ d.millis < 1 := by
  rw [Int64.lt_iff_toInt_lt, boundedMillis]
  split
  · rename_i hFits
    rw [Int64.toInt_ofNat_of_lt (by omega), Int64.toInt_one]
    omega
  · rename_i hLong
    exact iff_of_false (by decide) (by omega)

namespace Member

variable {store : Store σ} {path : String} {validity : Duration} {now interval : Int64}
  {generator : Generator} {s created read : σ} {fault : StoreFault}

/-! ## The two calls -/

/-- The store has a record after the first call: it took the one that was offered, or had one. -/
def IsThere (answer : Except StoreFault Unit) : Prop :=
  answer = .ok () ∨ answer = .error .alreadyExists

theorem found_of_isThere {record : SecretRecord} {answer : Except StoreFault Unit}
    (h : store.create s path record.encode = (answer, created)) (hThere : IsThere answer) :
    found store path record s = (.ok (), created) := by
  rcases hThere with rfl | rfl <;> rw [found, h]

theorem found_of_error {record : SecretRecord}
    (h : store.create s path record.encode = (.error fault, created))
    (hFault : fault ≠ .alreadyExists) :
    found store path record s = (.error (.ofStore fault), created) := by
  rw [found, h]
  cases fault with
  | alreadyExists => exact absurd rfl hFault
  | notFound => rfl
  | badVersion => rfl
  | unavailable reason => rfl

theorem enroll_of_record {answer : Versioned} {record : SecretRecord}
    (h : store.get s path = (.ok answer, read))
    (hRecord : SecretRecord.decode answer.data = .ok record) :
    enroll store path interval generator s =
      (.ok (ofRecord path interval generator answer.version record), read) := by
  simp only [enroll, readRecord, h, hRecord]

theorem enroll_of_error (h : store.get s path = (.error fault, read)) :
    enroll store path interval generator s = (.error (.ofStore fault), read) := by
  simp only [enroll, readRecord, h]

theorem enroll_of_no_record {answer : Versioned} {spoiled : RecordFault}
    (h : store.get s path = (.ok answer, read))
    (hRecord : SecretRecord.decode answer.data = .error spoiled) :
    enroll store path interval generator s = (.error ⟨.record spoiled, none⟩, read) := by
  simp only [enroll, readRecord, h, hRecord]

/-! ## Joining -/

/-- The record that a process offers when it joins. -/
def offered (validity : Duration) (now : Int64) (generator : Generator) : SecretRecord :=
  (founding generator (now + validity.boundedMillis)).1

/-- The generator of a process that has made its offer. -/
def afterOffer (generator : Generator) : Generator :=
  generator.advance.advance.advance

theorem join_of_short (h : validity.millis < 1) :
    join store path validity now generator s = (misconfigured .nonPositiveInterval, s) := by
  simp only [join, if_pos (Duration.boundedMillis_lt_one_iff.mpr h)]

theorem join_of_isThere {answer : Except StoreFault Unit} (hValidity : 1 ≤ validity.millis)
    (h : store.create s path (offered validity now generator).encode = (answer, created))
    (hThere : IsThere answer) :
    join store path validity now generator s =
      enroll store path validity.boundedMillis (afterOffer generator) created := by
  have hLong := mt Duration.boundedMillis_lt_one_iff.mp (Nat.not_lt.mpr hValidity)
  have hFound := found_of_isThere h hThere
  simp only [offered, founding] at hFound
  simp only [join, if_neg hLong, founding, hFound]
  rfl

theorem join_of_error (hValidity : 1 ≤ validity.millis)
    (h : store.create s path (offered validity now generator).encode = (.error fault, created))
    (hFault : fault ≠ .alreadyExists) :
    join store path validity now generator s = (.error (.ofStore fault), created) := by
  have hLong := mt Duration.boundedMillis_lt_one_iff.mp (Nat.not_lt.mpr hValidity)
  have hFound := found_of_error h hFault
  simp only [offered, founding] at hFound
  simp only [join, if_neg hLong, founding, hFound]

end Member

namespace Source

variable {store : Store σ} {path : String} {validity : Duration} {now : Int64}
  {generator : Generator} {clock : ℕ} {isScheduled : Bool} {s s' : σ}

/-- The rotations of the source are those of a member that has just joined: none by itself, or the
first one after the member's delay and then one in every period. -/
def RotatesFrom (source : Source) (clock : ℕ) (delay : ℤ) (period : Duration) (isScheduled : Bool) :
    Prop :=
  match source.schedule? with
  | none => isScheduled = false
  | some schedule => isScheduled = true ∧
      schedule.due = clock + (Duration.ofMillis delay.toNat).nanos ∧ schedule.period = period.nanos

theorem joinFleet_of_error {e : Error}
    (h : Member.join store path validity now generator s = (.error e, s')) :
    joinFleet store path validity now generator clock isScheduled s = (.error e, s') := by
  simp only [joinFleet, h]

theorem joinFleet_of_ok (clock : ℕ) (isScheduled : Bool) {m : Member}
    (hValidity : 1 ≤ validity.millis)
    (h : Member.join store path validity now generator s = (.ok m, s')) :
    ∃ schedule, joinFleet store path validity now generator clock isScheduled s =
        (.ok (.fleet m schedule), s') ∧
      (Source.fleet m schedule).RotatesFrom clock (m.firstDelay now) validity isScheduled := by
  have hPeriod : 0 < validity.nanos := by
    rw [Duration.millis] at hValidity
    omega
  simp only [joinFleet, h]
  cases isScheduled with
  | false => exact ⟨none, rfl, rfl⟩
  | true =>
    simp only [if_true, scheduled, Schedule.start, dif_pos hPeriod]
    exact ⟨_, rfl, rfl, rfl, rfl⟩

/-- How a process fares that asks the store: what follows from the answers to its two calls. -/
theorem joinFleet_cases (clock : ℕ) (isScheduled : Bool) (hValidity : 1 ≤ validity.millis)
    {answer : Except StoreFault Unit} {reply : Except StoreFault Versioned} {created read : σ}
    (hCreate :
      store.create s path (Member.offered validity now generator).encode = (answer, created))
    (hGet : store.get created path = (reply, read)) :
    let joined := joinFleet store path validity now generator clock isScheduled s
    (∃ fault, answer = .error fault ∧ fault ≠ .alreadyExists ∧
        joined = (.error (.ofStore fault), created)) ∨
      Member.IsThere answer ∧
        ((∃ fault, reply = .error fault ∧ joined = (.error (.ofStore fault), read)) ∨
          (∃ found fault, reply = .ok found ∧ SecretRecord.decode found.data = .error fault ∧
            joined = (.error ⟨.record fault, none⟩, read)) ∨
          ∃ found record schedule, reply = .ok found ∧
            SecretRecord.decode found.data = .ok record ∧
            let m := Member.ofRecord path validity.boundedMillis (Member.afterOffer generator)
              found.version record
            joined = (.ok (.fleet m schedule), read) ∧
              (Source.fleet m schedule).RotatesFrom clock (m.firstDelay now) validity
                isScheduled) := by
  intro joined
  by_cases hThere : Member.IsThere answer
  · right
    have hJoin := Member.join_of_isThere hValidity hCreate hThere
    refine ⟨hThere, ?_⟩
    cases reply with
    | error fault =>
      exact .inl ⟨fault, rfl, joinFleet_of_error (hJoin.trans (Member.enroll_of_error hGet))⟩
    | ok found =>
      right
      cases hRecord : SecretRecord.decode found.data with
      | error fault =>
        exact .inl ⟨found, fault, rfl, hRecord,
          joinFleet_of_error (hJoin.trans (Member.enroll_of_no_record hGet hRecord))⟩
      | ok record =>
        obtain ⟨schedule, hJoined, hRotates⟩ := joinFleet_of_ok clock isScheduled hValidity
          (hJoin.trans (Member.enroll_of_record hGet hRecord))
        exact .inr ⟨found, record, schedule, rfl, hRecord, hJoined, hRotates⟩
  · left
    cases answer with
    | ok made => exact absurd (.inl rfl) hThere
    | error fault =>
      have hFault : fault ≠ .alreadyExists := by
        rintro rfl
        exact hThere (.inr rfl)
      exact ⟨fault, rfl, hFault, joinFleet_of_error (Member.join_of_error hValidity hCreate hFault)⟩

/-- **Who joins a fleet, and with what.** A validity without a whole millisecond is refused before
the store is asked. Otherwise a process joins exactly if the store takes its record or has one
already and what is read then is a record. It has what that record says and nothing else: the
secrets that it drew for its own offer are in effect only as far as the record has them. If it does
not join, there is no source, and the failure is that of the call or of the reader. -/
theorem joinFleet_exact (store : Store σ) (path : String) (validity : Duration) (now : Int64)
    (generator : Generator) (clock : ℕ) (isScheduled : Bool) (s : σ) :
    let offer := Member.offered validity now generator
    let created := store.create s path offer.encode
    let read := store.get created.2 path
    let joined := joinFleet store path validity now generator clock isScheduled s
    (validity.millis < 1 → joined = (misconfigured .nonPositiveInterval, s)) ∧
    (1 ≤ validity.millis →
      ((∃ source, joined.1 = .ok source) ↔
        (created.1 = .ok () ∨ created.1 = .error .alreadyExists) ∧
          ∃ found record, read.1 = .ok found ∧ SecretRecord.decode found.data = .ok record) ∧
      (∀ source, joined.1 = .ok source →
        ∃ found record m schedule, read.1 = .ok found ∧
          SecretRecord.decode found.data = .ok record ∧ joined.2 = read.2 ∧
          source = .fleet m schedule ∧ m.keys = ⟨record.current, record.previous⟩ ∧
          m.version = found.version ∧ m.next = record.next ∧ m.nextRollover = record.nextRollover ∧
          source.RotatesFrom clock (m.firstDelay now) validity isScheduled ∧
          ∀ drawn ∈ [offer.next, offer.current], drawn ∈ source.keys.secrets →
            drawn ∈ record.secrets) ∧
      ∀ e, joined.1 = .error e →
        (∃ fault, created.1 = .error fault ∧ e = .ofStore fault ∧ joined.2 = created.2) ∨
        (∃ fault, read.1 = .error fault ∧ e = .ofStore fault ∧ joined.2 = read.2) ∨
        ∃ found fault, read.1 = .ok found ∧ SecretRecord.decode found.data = .error fault ∧
          e = ⟨.record fault, none⟩ ∧ joined.2 = read.2) := by
  intro offer created read joined
  refine ⟨fun hShort => joinFleet_of_error (Member.join_of_short hShort), fun hValidity => ?_⟩
  have hCreate : store.create s path offer.encode = (created.1, created.2) := rfl
  rcases joinFleet_cases clock isScheduled hValidity hCreate rfl with
    ⟨fault, hFault, hOther, hJoined⟩ | ⟨hThere, hReply⟩
  · refine outcome_of_error (congrArg Prod.fst hJoined) ?_
      (.inl ⟨fault, hFault, rfl, congrArg Prod.snd hJoined⟩)
    rintro ⟨hTaken | hHad, -⟩
    · cases hTaken.symm.trans hFault
    · cases hHad.symm.trans hFault
      exact hOther rfl
  rcases hReply with ⟨fault, hFault, hJoined⟩ | ⟨found, fault, hFound, hRecord, hJoined⟩ |
    ⟨found, record, schedule, hFound, hRecord, hJoined, hRotates⟩
  · refine outcome_of_error (congrArg Prod.fst hJoined) ?_
      (.inr (.inl ⟨fault, hFault, rfl, congrArg Prod.snd hJoined⟩))
    rintro ⟨-, found, record, hFound, -⟩
    cases hFound.symm.trans hFault
  · refine outcome_of_error (congrArg Prod.fst hJoined) ?_
      (.inr (.inr ⟨found, fault, hFound, hRecord, rfl, congrArg Prod.snd hJoined⟩))
    rintro ⟨-, other, record, hOther, hOk⟩
    cases hOther.symm.trans hFound
    cases hOk.symm.trans hRecord
  · refine outcome_of_ok (congrArg Prod.fst hJoined) ⟨hThere, found, record, hFound, hRecord⟩ ?_
    refine ⟨found, record, _, schedule, hFound, hRecord, congrArg Prod.snd hJoined, rfl, rfl, rfl,
      rfl, rfl, hRotates, fun drawn _ hDrawn => ?_⟩
    exact List.mem_cons_of_mem _ hDrawn

end Source

/-- The store as a process sees it while others use it between its two calls. -/
def Store.amid (store : Store σ) (others : σ → σ) : Store σ :=
  { store with get := fun s path => store.get (others s) path }

/-- The record of a fleet after its first rotation. -/
def SecretRecord.rolledOnce : SecretRecord :=
  ⟨[1], [2], some [3], 5000⟩

/-- The store after another process has replaced the first record. -/
def MemoryStore.overtaken (s : MemoryStore) : MemoryStore :=
  (s.set "/secret" SecretRecord.rolledOnce.encode 0).2

/-- A process whose record was taken, but which was overtaken before it read, has what the other
wrote and none of its own secrets. -/
theorem Source.joinFleet_exact_overtaken :
    let store := MemoryStore.asStore.amid MemoryStore.overtaken
    let generator : Generator := ⟨fun n => Vector.replicate 32 n.toUInt8, 0⟩
    let joined := joinFleet store "/secret" (.ofSeconds 1) 0 generator 0 true {}
    ∃ m schedule, joined.1 = .ok (.fleet m schedule) ∧ m.version = 1 ∧ m.keys = ⟨[2], some [3]⟩ ∧
      m.next = [1] ∧ m.nextRollover = 5000 ∧
      ∀ drawn ∈ [(Member.offered (.ofSeconds 1) 0 generator).next,
        (Member.offered (.ofSeconds 1) 0 generator).current], drawn ∉ m.keys.secrets := by
  intro store generator joined
  have hRead : (store.get (store.create {} "/secret"
      (Member.offered (.ofSeconds 1) 0 generator).encode).2 "/secret").1 =
        .ok ⟨SecretRecord.rolledOnce.encode, 1⟩ := rfl
  have hRecord : SecretRecord.decode SecretRecord.rolledOnce.encode = .ok .rolledOnce := rfl
  have hApart : ∀ drawn ∈ [(Member.offered (.ofSeconds 1) 0 generator).next,
      (Member.offered (.ofSeconds 1) 0 generator).current],
      drawn ∉ SecretRecord.rolledOnce.secrets := by decide
  obtain ⟨-, hAsked⟩ := Source.joinFleet_exact store "/secret" (.ofSeconds 1) 0 generator 0 true {}
  obtain ⟨hJoins, hAdopts, -⟩ := hAsked (by decide)
  obtain ⟨source, hSource⟩ := hJoins.mpr ⟨.inl rfl, _, _, hRead, hRecord⟩
  obtain ⟨found, record, m, schedule, hFound, hDecoded, -, rfl, hKeys, hVersion, hNext, hDeadline,
    -, hDrawn⟩ := hAdopts source hSource
  cases hFound.symm.trans hRead
  cases hDecoded.symm.trans hRecord
  exact ⟨m, schedule, hSource, hVersion, hKeys, hNext, hDeadline,
    fun drawn hMem hShown => hApart drawn hMem (hDrawn drawn hMem hShown)⟩

end SignOn
