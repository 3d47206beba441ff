import SignOn.Duration
import SignOn.Fleet.Record
import SignOn.Fleet.Store
import SignOn.Keyring.Basic
import SignOn.Keyring.Generator

/-!
# Members of a fleet

The processes of a fleet rotate their secrets in step through one record in a versioned store. At a
rotation each member promotes the secret announced as the next one, tries to write a record with a
new announcement, and then reads back and adopts whatever the store holds. One write succeeds; the
others meet a newer version, and all members end with the same secrets although none leads.

Joining is made of the steps `found` and `enroll`, and a rotation of `promote`, `push` and `pull`.
All but `promote` ask the store, each of them once.
-/

namespace SignOn

open SignOn.Text (Bytes)

/-- A process of a fleet. -/
structure Member where
  /-- Where the record of the fleet is. -/
  path : String
  /-- The time between two rotations, in milliseconds. -/
  interval : Int64
  /-- The secrets that the process signs with and accepts. -/
  keys : Keyring
  /-- The version of the record as last read. -/
  version : Int64
  /-- The secret announced as the next one. -/
  next : Bytes
  /-- When the next rotation falls due, in epoch milliseconds. -/
  nextRollover : Int64
  generator : Generator

namespace Member

variable {σ : Type}

/-- The record with which a process founds a fleet. A founder draws one secret ahead, which it
never shows. -/
def founding (generator : Generator) (deadline : Int64) : SecretRecord × Generator :=
  let ahead := generator.advance
  let afterNext := ahead.advance
  let record : SecretRecord := ⟨ahead.secret, afterNext.secret, none, deadline⟩
  (record, afterNext.advance)

/-- The member after it has read the record of the fleet. -/
def adopt (m : Member) (version : Int64) (record : SecretRecord) : Member :=
  { m with
    keys := ⟨record.current, record.previous⟩
    version
    next := record.next
    nextRollover := record.nextRollover }

/-- Reads the record of a fleet. -/
def readRecord (store : Store σ) (path : String) (s : σ) : Result (Int64 × SecretRecord) × σ :=
  match store.get s path with
  | (.error fault, s) => (.error (.ofStore fault), s)
  | (.ok versioned, s) =>
    match SecretRecord.decode versioned.data with
    | .ok record => (.ok (versioned.version, record), s)
    | .error fault => (.error ⟨.record fault, none⟩, s)

/-- The first step of joining: a record is put at the path unless there is one. That another process
was faster is no failure. -/
def found (store : Store σ) (path : String) (record : SecretRecord) (s : σ) : Result Unit × σ :=
  match store.create s path record.encode with
  | (.ok (), s) => (.ok (), s)
  | (.error .alreadyExists, s) => (.ok (), s)
  | (.error fault, s) => (.error (.ofStore fault), s)

/-- The member that knows a record of the fleet. -/
def ofRecord (path : String) (interval : Int64) (generator : Generator) (version : Int64)
    (record : SecretRecord) : Member where
  path := path
  interval := interval
  keys := ⟨record.current, record.previous⟩
  version := version
  next := record.next
  nextRollover := record.nextRollover
  generator := generator

/-- The second step of joining: the record in the store counts, whoever wrote it. -/
def enroll (store : Store σ) (path : String) (interval : Int64) (generator : Generator) (s : σ) :
    Result Member × σ :=
  match readRecord store path s with
  | (.ok (version, record), s) => (.ok (ofRecord path interval generator version record), s)
  | (.error e, s) => (.error e, s)

/-- Joins the fleet at a path, or founds it. -/
def join (store : Store σ) (path : String) (validity : Duration) (now : Int64)
    (generator : Generator) (s : σ) : Result Member × σ :=
  let interval := validity.boundedMillis
  if interval < 1 then (misconfigured .nonPositiveInterval, s)
  else
    let (record, generator) := founding generator (now + interval)
    match found store path record s with
    | (.error e, s) => (.error e, s)
    | (.ok (), s) => enroll store path interval generator s

/-- Moves a delay that is not positive forward until it is: by one interval, by two, by three and so
on, where some moves may lie behind already. No member has an interval that is not positive, and by
such a one nothing is moved. -/
def positiveDelay (interval delay : Int) (moves : Nat) : Int :=
  if 0 < interval ∧ delay < 1 then
    positiveDelay interval (delay + interval * (moves + 1)) (moves + 1)
  else delay
termination_by (1 - delay).toNat
decreasing_by
  rename_i h
  have := Int.mul_le_mul_of_nonneg_left (show 1 ≤ (moves + 1 : Int) by omega) (Int.le_of_lt h.1)
  omega

/-- How long a new member waits for its first rotation, in milliseconds. -/
def firstDelay (m : Member) (now : Int64) : Int :=
  positiveDelay m.interval.toInt (m.nextRollover - now).toInt 0

/-- The first step of a rotation: the announced secret takes over. -/
def promote (m : Member) : Member :=
  { m with
    keys := m.keys.rotate m.next
    nextRollover := m.nextRollover + m.interval }

/-- The record that a member offers after its promotion: a new announcement and its own secrets. -/
def offer (m : Member) : SecretRecord where
  next := m.generator.secret
  current := m.keys.current
  previous := m.keys.previous
  nextRollover := m.nextRollover

/-- The second step of a rotation: the offer is written unless the record has changed meanwhile.
Whether it was written does not matter to the member. -/
def push (store : Store σ) (m : Member) (s : σ) : Member × σ :=
  let (_, s) := store.set s m.path m.offer.encode m.version
  ({ m with generator := m.generator.advance }, s)

/-- The third step of a rotation: the record is read and adopted. If this fails, the member keeps
what it has until the next rotation. -/
def pull (store : Store σ) (m : Member) (s : σ) : Member × σ :=
  match readRecord store m.path s with
  | (.ok (version, record), s) => (m.adopt version record, s)
  | (.error _, s) => (m, s)

/-- One rotation. -/
def roll (store : Store σ) (m : Member) (s : σ) : Member × σ :=
  let (m, s) := push store m.promote s
  pull store m s

end Member

end SignOn
