import SignOn.Fleet.Member
import SignOn.Keyring.Schedule

/-!
# Secret sources

Where the secrets in effect come from: they are fixed, or drawn at random by this process alone, or
shared with the other members of a fleet. The latter two rotate, on demand or on a schedule.
-/

namespace SignOn

open SignOn.Text (Bytes)

/-- A source of secrets. -/
inductive Source where
  /-- Secrets that never change. -/
  | constant (keys : Keyring)
  /-- Secrets drawn by this process. -/
  | random (keys : Keyring) (generator : Generator) (schedule : Option Schedule)
  /-- Secrets shared with a fleet. -/
  | fleet (member : Member) (schedule : Option Schedule)

namespace Source

variable {σ : Type}

/-- The secrets in effect. -/
def keys : Source → Keyring
  | .constant keys => keys
  | .random keys _ _ => keys
  | .fleet member _ => member.keys

/-- When the source rotates by itself, if it does. -/
def schedule? : Source → Option Schedule
  | .constant _ => none
  | .random _ _ schedule => schedule
  | .fleet _ schedule => schedule

/-- The source with another schedule. -/
def withSchedule (schedule : Option Schedule) : Source → Source
  | .constant keys => .constant keys
  | .random keys generator _ => .random keys generator schedule
  | .fleet member _ => .fleet member schedule

/-- Whether the source rotates by itself. -/
def isRotating (source : Source) : Bool :=
  source.schedule?.isSome

/-- The source without a schedule. -/
def close (source : Source) : Source :=
  source.withSchedule none

/-- A fixed secret, which must not be empty. -/
def ofSecret (secret : Bytes) : Result Source :=
  (Keyring.make secret none).map .constant

/-- A source of random secrets that rotates only on demand. -/
def startRandom (generator : Generator) : Source :=
  .random ⟨generator.secret, none⟩ generator.advance none

/-- Schedules a source to rotate after a delay and then in every period. -/
def scheduled (source : Source) (now : Nat) (delay period : Duration) : Result Source :=
  (Schedule.start now delay period).map fun s => source.withSchedule (some s)

/-- A source shared with a fleet: a member whose first rotation, if it is scheduled, falls due at
the deadline of the fleet. -/
def joinFleet (store : Store σ) (path : String) (validity : Duration) (now : Int64)
    (generator : Generator) (clock : Nat) (isScheduled : Bool) (s : σ) : Result Source × σ :=
  match Member.join store path validity now generator s with
  | (.error e, s) => (.error e, s)
  | (.ok member, s) =>
    let source := Source.fleet member none
    if isScheduled then
      (source.scheduled clock (.ofMillis (member.firstDelay now).toNat) validity, s)
    else (.ok source, s)

/-- One rotation; a fixed secret stays. -/
def roll (store : Store σ) (source : Source) (s : σ) : Source × σ :=
  match source with
  | .constant keys => (.constant keys, s)
  | .random keys generator schedule =>
    (.random (keys.rotate generator.secret) generator.advance schedule, s)
  | .fleet member schedule =>
    let (member, s) := member.roll store s
    (.fleet member schedule, s)

/-- A rotation that was due. -/
def tick (store : Store σ) (source : Source) (s : σ) : Source × σ :=
  let (rolled, s) := source.roll store s
  (rolled.withSchedule (source.schedule?.map Schedule.advance), s)

/-- The given number of due rotations, one after the other. -/
def ticks (store : Store σ) : Nat → Source → σ → Source × σ
  | 0, source, s => (source, s)
  | n + 1, source, s =>
    let (source, s) := source.tick store s
    ticks store n source s

/-- How many rotations of a source fall due up to a moment. -/
def dueCount (source : Source) (now : Nat) : Nat :=
  match source.schedule? with
  | some schedule => schedule.dueCount now
  | none => 0

/-- The source once its clock stands at `now`: all rotations due by then are done. -/
def runUntil (store : Store σ) (now : Nat) (source : Source) (s : σ) : Source × σ :=
  ticks store (source.dueCount now) source s

/-- A source as a developer sees it. -/
def inspect : Source → String
  | .constant _ => Text.Inspect.partialRecord "StaticSecretSource" []
  | .random _ _ schedule =>
    Text.Inspect.record "RandomSecretSource" [("rotating", Text.Inspect.bool schedule.isSome)]
  | .fleet member schedule =>
    Text.Inspect.record "CoordinatedSecretSource" [
      ("path", Text.Inspect.quote member.path),
      ("rotating", Text.Inspect.bool schedule.isSome)]

/-- The plan for joining a fleet as a developer sees it. -/
def inspectPlan (path : String) (validity : Duration) (isScheduled : Bool) : String :=
  Text.Inspect.partialRecord "CoordinatedSecretSourceBuilder" [
    ("path", Text.Inspect.quote path),
    ("validity", validity.inspect),
    ("schedule", Text.Inspect.bool isScheduled)]

end Source

end SignOn
