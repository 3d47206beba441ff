import Mathlib.Data.Nat.Count
import Mathlib.Logic.Function.Basic
import SignOn.Fleet.Member
import SignOn.Proofs.Fleet.Store

/-!
# Runs of a fleet

Any number of processes share one store. They take turns in any order, and at its turn a process
does the next step of joining or of a rotation, which asks the store once at most
(`FleetPlan.next`); a process that is alone does what `Member.join` and `Member.roll` say
(`next_join`, `next_roll`). In some turns the store may be out of reach.
-/

namespace SignOn

open SignOn.Text (Bytes)

/-! ## Processes and their steps -/

/-- How the processes of a fleet are started. -/
structure FleetPlan (ι : Type) where
  /-- Where the record of the fleet is. -/
  path : String
  validity : Duration
  /-- What the clock of a process shows when the process starts, in epoch milliseconds. -/
  clock : ι → Int64
  generator : ι → Generator

/-- Two processes that rotate every second and draw their secrets from streams of their own. -/
def FleetPlan.two : FleetPlan Bool where
  path := "/secrets"
  validity := .ofSeconds 1
  clock _ := 0
  generator i := { stream := fun j => Vector.replicate 32 (UInt8.ofNat (2 * j + i.toNat)) }

/-- How far a process has come: it waits to be started, is about to read the record it joins with,
or could not join; as a member it is between two rotations, has promoted the announced secret and
is about to write, or has tried to write and is about to read. -/
inductive Phase where
  | waiting
  | founded (generator : Generator)
  | refused (error : Error)
  | idle (member : Member)
  | promoted (member : Member)
  | pushed (member : Member)

namespace Phase

/-- The member that a process is, once it has joined. -/
def member? : Phase → Option Member
  | .waiting | .founded _ | .refused _ => none
  | .idle m | .promoted m | .pushed m => some m

/-- The secrets that a process publishes, once it has joined. -/
def keys? (phase : Phase) : Option Keyring :=
  phase.member?.map Member.keys

/-- Whether a process is between two rotations. -/
def isIdle : Phase → Bool
  | .idle _ => true
  | .waiting | .founded _ | .refused _ | .promoted _ | .pushed _ => false

theorem isIdle_iff {phase : Phase} : phase.isIdle = true ↔ ∃ m, phase = .idle m := by
  cases phase <;> simp [isIdle]

/-- What a process is after joining with this result. -/
def ofResult : Result Member → Phase
  | .ok m => .idle m
  | .error e => .refused e

end Phase

namespace FleetPlan

variable {ι σ : Type} (plan : FleetPlan ι)

/-- The time between two rotations, in milliseconds. -/
def interval : Int64 := plan.validity.boundedMillis

/-- The record that a process offers when it starts, and its generator afterwards. -/
def founding (i : ι) : SecretRecord × Generator :=
  Member.founding (plan.generator i) (plan.clock i + plan.interval)

/-- The next step of a process. -/
def next (i : ι) (store : Store σ) (phase : Phase) (s : σ) : Phase × σ :=
  match phase with
  | .waiting =>
    if plan.interval < 1 then (.refused ⟨.configuration .nonPositiveInterval, none⟩, s)
    else
      match Member.found store plan.path (plan.founding i).1 s with
      | (.error e, s) => (.refused e, s)
      | (.ok (), s) => (.founded (plan.founding i).2, s)
  | .founded generator =>
    match Member.enroll store plan.path plan.interval generator s with
    | (.error e, s) => (.refused e, s)
    | (.ok m, s) => (.idle m, s)
  | .refused e => (.refused e, s)
  | .idle m => (.promoted m.promote, s)
  | .promoted m =>
    let (m, s) := m.push store s
    (.pushed m, s)
  | .pushed m =>
    let (m, s) := m.pull store s
    (.idle m, s)

/-- The first two steps of a process that nobody disturbs are joining. -/
theorem next_join (i : ι) (store : Store σ) (s : σ) :
    let founded := plan.next i store .waiting s
    let joined := Member.join store plan.path plan.validity (plan.clock i) (plan.generator i) s
    plan.next i store founded.1 founded.2 = (Phase.ofResult joined.1, joined.2) := by
  intro founded joined
  simp only [founded, joined, next, founding, Member.join]
  by_cases hInterval : plan.validity.boundedMillis < 1
  · have hInterval' : plan.interval < 1 := hInterval
    simp only [hInterval, hInterval', if_true]
    rfl
  · simp only [hInterval, if_false, interval]
    generalize Member.found store plan.path
      (Member.founding (plan.generator i) (plan.clock i + plan.validity.boundedMillis)).1 s = made
    obtain ⟨_ | _, s'⟩ := made
    · rfl
    · dsimp only
      generalize Member.enroll store plan.path plan.validity.boundedMillis
        (Member.founding (plan.generator i) (plan.clock i + plan.validity.boundedMillis)).2 s' =
          enrolled
      obtain ⟨_ | _, s''⟩ := enrolled <;> rfl

/-- Three steps of an idle member that nobody disturbs are a rotation. -/
theorem next_roll (i : ι) (store : Store σ) (m : Member) (s : σ) :
    let promoted := plan.next i store (.idle m) s
    let pushed := plan.next i store promoted.1 promoted.2
    plan.next i store pushed.1 pushed.2 =
      (.idle (m.roll store s).1, (m.roll store s).2) := rfl

end FleetPlan

/-! ## Turns -/

/-- A turn of a process, in which the store may be out of reach. -/
structure Turn (ι : Type) where
  who : ι
  /-- Why the store cannot be reached, if it cannot. -/
  outage : Option String := none

/-- The store as the process sees it in this turn. -/
def Turn.view {ι : Type} (t : Turn ι) : Store MemoryStore :=
  match t.outage with
  | none => MemoryStore.asStore
  | some reason => Store.unreachable reason

/-- The turns of processes that always reach the store. -/
def Turn.connected {ι : Type} (order : ℕ → ι) (n : ℕ) : Turn ι where
  who := order n

/-- The processes of a fleet with their store. -/
structure Fleet (ι : Type) where
  store : MemoryStore
  phase : ι → Phase

namespace Fleet

variable {ι : Type}

/-- The fleet before anything has happened. -/
def start (store : MemoryStore) : Fleet ι where
  store := store
  phase _ := .waiting

/-- The record of the fleet as it is stored. -/
def held (plan : FleetPlan ι) (f : Fleet ι) : Option Versioned :=
  f.store.find? plan.path

/-- Whether a turn replaces the record of the fleet. -/
def writes (f : Fleet ι) (t : Turn ι) : Bool :=
  match f.phase t.who with
  | .promoted m => (t.view.set f.store m.path m.offer.encode m.version).1.isOk
  | _ => false

section

variable [DecidableEq ι]

/-- The fleet after one turn. -/
def act (plan : FleetPlan ι) (f : Fleet ι) (t : Turn ι) : Fleet ι :=
  let (phase, store) := plan.next t.who t.view (f.phase t.who) f.store
  { store, phase := Function.update f.phase t.who phase }

/-- The fleet after the first `n` turns of a schedule. -/
def run (plan : FleetPlan ι) (schedule : ℕ → Turn ι) (f : Fleet ι) : ℕ → Fleet ι
  | 0 => f
  | n + 1 => (run plan schedule f n).act plan (schedule n)

/-- How often the record was replaced in the first `n` turns of a schedule. -/
def writeCount (plan : FleetPlan ι) (schedule : ℕ → Turn ι) (f : Fleet ι) (n : ℕ) : ℕ :=
  Nat.count (fun j => (f.run plan schedule j).writes (schedule j) = true) n

end

end Fleet

end SignOn
