import Mathlib.Logic.Function.Iterate
import SignOn.Keyring.Group
import SignOn.Proofs.Fleet.FirstDelay
import SignOn.Proofs.Keyring.Rotation

/-!
# Rotations on schedule

A timer goes off when the clock reaches the moment for which it is set, and is then set for one
period later. So time passes for a source by waiting while no rotation is due, and by rotating at
the very moment at which one is (`Source.Passes`). There is one way in which it can pass
(`Source.passes_iff`), and it does not matter in how many advances the clock gets there
(`Source.pass_eq_runUntil`).

The rotations that happen meanwhile are counted by the first delay and the period
(`Source.runUntil_eq_rolled`, `Schedule.dueCount_start`). `Source.rotations_on_schedule` says what
secrets and which record they lead to. A group of one source does the same
(`SourceGroup.runUntil_alone`).
-/

namespace SignOn

open SignOn.Text (Bytes)

/-! ## Schedules -/

namespace Schedule

variable {schedule : Schedule} {now : ℕ}

/-- The rotations that happen in a time if the first one comes after a delay and the others one
period after another. -/
def rotationsIn (delay period elapsed : ℕ) : ℕ :=
  if elapsed < delay then 0 else (elapsed - delay) / period + 1

theorem rotationsIn_self {period : ℕ} (hPeriod : 0 < period) (elapsed : ℕ) :
    rotationsIn period period elapsed = elapsed / period := by
  rw [rotationsIn]
  split
  · rename_i hShort
    exact (Nat.div_eq_of_lt hShort).symm
  · rename_i hLong
    exact (Nat.div_eq_sub_div hPeriod (Nat.not_lt.mp hLong)).symm

/-- At each rotation one fewer is left to come. -/
theorem dueCount_of_le (h : schedule.due ≤ now) :
    schedule.dueCount now = schedule.advance.dueCount now + 1 := by
  rw [dueCount, if_pos h, Nat.add_right_cancel_iff]
  by_cases hNext : schedule.due + schedule.period ≤ now
  · have hPeriod : schedule.period ≤ now - schedule.due := by omega
    have hAdvance : schedule.advance.dueCount now =
        (now - (schedule.due + schedule.period)) / schedule.period + 1 := if_pos hNext
    rw [hAdvance, Nat.div_eq_sub_div schedule.positive hPeriod, Nat.sub_sub]
  · have hAdvance : schedule.advance.dueCount now = 0 := if_neg hNext
    rw [hAdvance, Nat.div_eq_of_lt (by omega)]

/-- The clock of schedules counts nanoseconds, but in whole milliseconds the same rotations are
due. -/
theorem dueCount_start {clock delay period : ℕ}
    (h : start clock (.ofMillis delay) (.ofMillis period) = .ok schedule) (elapsed : ℕ) :
    schedule.dueCount (clock + (Duration.ofMillis elapsed).nanos) =
      rotationsIn delay period elapsed := by
  rw [start] at h
  split at h
  · cases h
    show (if clock + delay * 1000000 ≤ clock + elapsed * 1000000 then
      (clock + elapsed * 1000000 - (clock + delay * 1000000)) / (period * 1000000) + 1 else 0) = _
    rw [rotationsIn]
    by_cases hShort : elapsed < delay
    · rw [if_neg (by omega), if_pos hShort]
    · have hElapsed : clock + elapsed * 1000000 - (clock + delay * 1000000) =
          (elapsed - delay) * 1000000 := by omega
      rw [if_pos (by omega), if_neg hShort, hElapsed, Nat.mul_div_mul_right _ _ (by decide)]
  · cases h

theorem exists_start (clock delay : ℕ) {period : ℕ} (hPeriod : 0 < period) :
    ∃ schedule, start clock (.ofMillis delay) (.ofMillis period) = .ok schedule := by
  have hNanos : 0 < (Duration.ofMillis period).nanos := Nat.mul_pos hPeriod (by decide)
  exact ⟨_, dif_pos hNanos⟩

theorem due_of_start {clock : ℕ} {delay period : Duration}
    (h : start clock delay period = .ok schedule) : schedule.due = clock + delay.nanos := by
  rw [start] at h
  split at h
  · cases h
    rfl
  · cases h

end Schedule

/-- The secrets in effect after so many rotations of a source that draws them itself: the last one
that was drawn, and the one drawn before it. -/
def Generator.keysAfter (g : Generator) (n : ℕ) : Keyring where
  current := (advance^[n] g).secret
  previous :=
    match n with
    | 0 => none
    | before + 1 => some (advance^[before] g).secret

namespace Source

variable {σ : Type} {store : Store σ} {source : Source} {s : σ} {now mid later : ℕ}
  {before between after : Source × σ}

/-! ## How time passes -/

/-- Time passes from one moment to another: the clock moves on while no rotation is due, and when it
reaches the moment at which one is, the source rotates. -/
inductive Passes (store : Store σ) : ℕ → ℕ → Source × σ → Source × σ → Prop
  | quiet {now later : ℕ} {state : Source × σ} (le : now ≤ later)
      (early : ∀ schedule, state.1.schedule? = some schedule → later < schedule.due) :
      Passes store now later state state
  | rotation {now later : ℕ} {schedule : Schedule} {before after : Source × σ}
      (scheduled : before.1.schedule? = some schedule) (le : now ≤ schedule.due)
      (reached : schedule.due ≤ later)
      (rest : Passes store schedule.due later (before.1.tick store before.2) after) :
      Passes store now later before after

/-- All rotations of the source that are due have happened. -/
def UpToDate (source : Source) (now : ℕ) : Prop :=
  ∀ schedule, source.schedule? = some schedule → now < schedule.due

theorem schedule?_tick (store : Store σ) (source : Source) (s : σ) :
    (source.tick store s).1.schedule? = source.schedule?.map Schedule.advance := by
  cases source <;> rfl

theorem dueCount_eq_zero_iff : source.dueCount now = 0 ↔ source.UpToDate now := by
  rw [dueCount, UpToDate]
  cases source.schedule? with
  | none => simp
  | some schedule => simp [Schedule.dueCount]

theorem dueCount_tick {schedule : Schedule} (hSchedule : source.schedule? = some schedule)
    (hDue : schedule.due ≤ now) (store : Store σ) (s : σ) :
    source.dueCount now = (source.tick store s).1.dueCount now + 1 := by
  simp only [dueCount, schedule?_tick, hSchedule, Option.map_some]
  exact Schedule.dueCount_of_le hDue

theorem runUntil_of_upToDate (h : source.UpToDate now) :
    source.runUntil store now s = (source, s) := by
  rw [runUntil, dueCount_eq_zero_iff.mpr h]
  rfl

theorem runUntil_of_due {schedule : Schedule} (hSchedule : source.schedule? = some schedule)
    (hDue : schedule.due ≤ now) :
    source.runUntil store now s =
      (source.tick store s).1.runUntil store now (source.tick store s).2 := by
  rw [runUntil, dueCount_tick hSchedule hDue store s]
  rfl

/-- All that can come of the time that passes. -/
theorem Passes.eq_runUntil (h : Passes store now later before after) :
    before.1.runUntil store later before.2 = after := by
  induction h with
  | quiet le early => exact runUntil_of_upToDate early
  | rotation scheduled le reached rest ih => rw [runUntil_of_due scheduled reached, ih]

theorem passes_runUntil {state : Source × σ} (hLe : now ≤ later)
    (hDue : ∀ schedule, state.1.schedule? = some schedule → now ≤ schedule.due) :
    Passes store now later state (state.1.runUntil store later state.2) := by
  -- By induction on the number of rotations to come.
  induction hCount : state.1.dueCount later generalizing state now with
  | zero =>
    have hEarly := dueCount_eq_zero_iff.mp hCount
    rw [runUntil_of_upToDate hEarly]
    exact .quiet hLe hEarly
  | succ count ih =>
    have hLate : ¬ state.1.UpToDate later := by
      rw [← dueCount_eq_zero_iff]
      omega
    rw [UpToDate] at hLate
    push Not at hLate
    obtain ⟨schedule, hSchedule, hReached⟩ := hLate
    have hTick := dueCount_tick hSchedule hReached store state.2
    rw [runUntil_of_due hSchedule hReached]
    refine .rotation hSchedule (hDue schedule hSchedule) hReached (ih hReached ?_ (by omega))
    intro next hNext
    rw [schedule?_tick, hSchedule] at hNext
    cases hNext
    exact Nat.le_add_right ..

/-- There is one way in which time can pass. -/
theorem passes_iff {state : Source × σ} (h : state.1.UpToDate now) (hLe : now ≤ later) :
    Passes store now later state after ↔ state.1.runUntil store later state.2 = after := by
  refine ⟨Passes.eq_runUntil, ?_⟩
  rintro rfl
  exact passes_runUntil hLe fun schedule hSchedule => (h schedule hSchedule).le

theorem Passes.upToDate (h : Passes store now later before after) : after.1.UpToDate later := by
  induction h with
  | quiet _ early => exact early
  | rotation _ _ _ _ ih => exact ih

theorem Passes.le (h : Passes store now later before after) : now ≤ later := by
  induction h with
  | quiet le _ => exact le
  | rotation _ le reached _ _ => exact le.trans reached

theorem Passes.trans (h : Passes store now mid before between)
    (h' : Passes store mid later between after) : Passes store now later before after := by
  induction h with
  | quiet le _ =>
    cases h' with
    | quiet le' early => exact .quiet (le.trans le') early
    | rotation scheduled le' reached rest =>
      exact .rotation scheduled (le.trans le') reached rest
  | rotation scheduled le reached _ ih =>
    exact .rotation scheduled le (reached.trans h'.le) (ih h')

/-! ## Advances of the clock -/

/-- What is there after advances of the clock, each by so many milliseconds. -/
def pass (store : Store σ) : ℕ → List ℕ → Source × σ → Source × σ
  | _, [], state => state
  | clock, elapsed :: rest, state =>
    let clock := clock + (Duration.ofMillis elapsed).nanos
    pass store clock rest (state.1.runUntil store clock state.2)

/-- Advances make time pass, in one go as well as in many. -/
theorem passes_pass {clock : ℕ} {state : Source × σ} (advances : List ℕ)
    (h : state.1.UpToDate clock) :
    Passes store clock (clock + (Duration.ofMillis advances.sum).nanos) state
      (pass store clock advances state) := by
  induction advances generalizing clock state with
  | nil => exact .quiet (Nat.le_add_right ..) h
  | cons elapsed rest ih =>
    have hFirst : Passes store clock (clock + (Duration.ofMillis elapsed).nanos) state
        (state.1.runUntil store (clock + (Duration.ofMillis elapsed).nanos) state.2) :=
      (passes_iff h (Nat.le_add_right ..)).mpr rfl
    have hRest := ih hFirst.upToDate
    have hTotal : clock + (Duration.ofMillis elapsed).nanos + (Duration.ofMillis rest.sum).nanos =
        clock + (Duration.ofMillis (elapsed :: rest).sum).nanos := by
      simp only [Duration.ofMillis, List.sum_cons]
      omega
    rw [hTotal] at hRest
    exact hFirst.trans hRest

theorem pass_eq_runUntil {clock : ℕ} {state : Source × σ} (advances : List ℕ)
    (h : state.1.UpToDate clock) :
    pass store clock advances state =
      state.1.runUntil store (clock + (Duration.ofMillis advances.sum).nanos) state.2 :=
  (passes_pass advances h).eq_runUntil.symm

/-! ## Rotations one after the other -/

theorem withSchedule_schedule? (source : Source) :
    source.withSchedule source.schedule? = source := by
  cases source <;> rfl

theorem roll_withSchedule (schedule : Option Schedule) (store : Store σ) (source : Source) (s : σ) :
    (source.withSchedule schedule).roll store s =
      ((source.roll store s).1.withSchedule schedule, (source.roll store s).2) := by
  cases source <;> rfl

theorem withSchedule_withSchedule (first second : Option Schedule) (source : Source) :
    (source.withSchedule first).withSchedule second = source.withSchedule second := by
  cases source <;> rfl

theorem rolled_succ (store : Store σ) (source : Source) (s : σ) (n : ℕ) :
    source.rolled store s (n + 1) =
      (source.roll store s).1.rolled store (source.roll store s).2 n := by
  induction n with
  | zero => rfl
  | succ n ih => rw [rolled, ih, rolled]

theorem rolled_withSchedule (schedule : Option Schedule) (store : Store σ) (source : Source) (s : σ)
    (n : ℕ) :
    (source.withSchedule schedule).rolled store s n =
      ((source.rolled store s n).1.withSchedule schedule, (source.rolled store s n).2) := by
  induction n with
  | zero => rfl
  | succ n ih => rw [rolled, ih, roll_withSchedule, rolled]

/-- Rotations on schedule are rotations; they put off the next one by so many periods. -/
theorem ticks_eq_rolled (store : Store σ) (source : Source) (s : σ) (n : ℕ) :
    source.ticks store n s =
      ((source.rolled store s n).1.withSchedule (source.schedule?.map Schedule.advance^[n]),
        (source.rolled store s n).2) := by
  induction n generalizing source s with
  | zero => simp [ticks, rolled, withSchedule_schedule?]
  | succ n ih =>
    show ticks store n (source.tick store s).1 (source.tick store s).2 = _
    have hTick : source.tick store s =
        ((source.roll store s).1.withSchedule (source.schedule?.map Schedule.advance),
          (source.roll store s).2) := rfl
    rw [ih, schedule?_tick, hTick, rolled_withSchedule, withSchedule_withSchedule, rolled_succ,
      Option.map_map, Function.iterate_succ]

theorem runUntil_eq_rolled (store : Store σ) (source : Source) (s : σ) (now : ℕ) :
    source.runUntil store now s =
      ((source.rolled store s (source.dueCount now)).1.withSchedule
          (source.schedule?.map Schedule.advance^[source.dueCount now]),
        (source.rolled store s (source.dueCount now)).2) :=
  ticks_eq_rolled ..

/-! ## What the rotations do -/

theorem rolled_random (store : Store σ) (g : Generator) (schedule : Option Schedule) (s : σ)
    (n : ℕ) :
    (Source.random (g.keysAfter 0) g.advance schedule).rolled store s n =
      (.random (g.keysAfter n) (Generator.advance^[n + 1] g) schedule, s) := by
  induction n with
  | zero => rfl
  | succ n ih =>
    rw [rolled, ih, Function.iterate_succ_apply' _ (n + 1)]
    rfl

theorem rolled_fleet {path : String} {held : σ → Option Versioned} {m : Member}
    (hStore : store.Reliable path held) (hPath : m.path = path) (h : m.InStep (held s))
    (schedule : Option Schedule) (n : ℕ) :
    ∃ rotated s', (Source.fleet m schedule).rolled store s n = (.fleet rotated schedule, s') ∧
      rotated.path = path ∧ rotated.interval = m.interval ∧
      rotated.version = m.version + Int64.ofNat n ∧
      rotated.nextRollover = m.nextRollover + Int64.ofNat n * m.interval ∧
      rotated.InStep (held s') := by
  induction n with
  | zero => exact ⟨m, s, rfl, hPath, rfl, by simp, by simp, h⟩
  | succ n ih =>
    obtain ⟨rotated, s', hRolled, rfl, hInterval, hVersion, hDeadline, hInStep⟩ := ih
    obtain ⟨record, hReads, hAgrees⟩ := hInStep
    obtain ⟨next, hRoll, hStored⟩ := Member.roll_of_reliable hStore hReads hAgrees
    have hNext : (Source.fleet m schedule).rolled store s (n + 1) =
        (.fleet (rotated.promote.spent.adopt (rotated.version + 1) rotated.promote.offer) schedule,
          next) := by
      rw [rolled, hRolled]
      exact congrArg (fun answer => (Source.fleet answer.1 schedule, answer.2)) hRoll
    refine ⟨_, next, hNext, rfl, hInterval, ?_, ?_, _, hStored, Member.agrees_adopt ..⟩
    · show rotated.version + 1 = _
      rw [hVersion, Int64.ofNat_add, Int64.add_assoc]
      rfl
    · show rotated.nextRollover + rotated.interval = _
      rw [hDeadline, hInterval, Int64.ofNat_add, Int64.add_mul, Int64.add_assoc]
      congr 1
      exact congrArg _ (Int64.one_mul _).symm

/-- Under a schedule the source rotates as often as rotations fall due. -/
theorem pass_scheduled (source : Source) {clock delay period : ℕ} {schedule : Schedule}
    (hDelay : 0 < delay)
    (hStart : Schedule.start clock (.ofMillis delay) (.ofMillis period) = .ok schedule)
    (hSchedule : (source.withSchedule (some schedule)).schedule? = some schedule)
    (store : Store σ) (advances : List ℕ) (s : σ) :
    let rolled := source.rolled store s (Schedule.rotationsIn delay period advances.sum)
    (source.withSchedule (some schedule)).UpToDate clock ∧
    ∃ next, pass store clock advances (source.withSchedule (some schedule), s) =
      (rolled.1.withSchedule (some next), rolled.2) := by
  intro rolled
  have hUpToDate : (source.withSchedule (some schedule)).UpToDate clock := by
    intro _ hSome
    rw [hSchedule] at hSome
    cases hSome
    rw [Schedule.due_of_start hStart]
    exact Nat.lt_add_of_pos_right (Nat.mul_pos hDelay (by decide))
  have hCount : (source.withSchedule (some schedule)).dueCount
      (clock + (Duration.ofMillis advances.sum).nanos) =
        Schedule.rotationsIn delay period advances.sum := by
    rw [dueCount, hSchedule]
    exact Schedule.dueCount_start hStart _
  refine ⟨hUpToDate,
    Schedule.advance^[Schedule.rotationsIn delay period advances.sum] schedule, ?_⟩
  rw [pass_eq_runUntil advances hUpToDate]
  dsimp only
  rw [runUntil_eq_rolled, hCount, hSchedule, rolled_withSchedule, withSchedule_withSchedule]
  rfl

theorem scheduled_of_start {clock : ℕ} {delay period : Duration} {schedule : Schedule}
    (h : Schedule.start clock delay period = .ok schedule) (source : Source) :
    source.scheduled clock delay period = .ok (source.withSchedule (some schedule)) := by
  rw [scheduled, h]
  rfl

/-- Who has joined a fleet is scheduled from the moment of joining. -/
theorem joinFleet_of_joined {path : String} {validity : Duration} {now : Int64}
    {generator : Generator} {m : Member} {s' : σ}
    (h : Member.join store path validity now generator s = (.ok m, s')) (clock : ℕ) :
    joinFleet store path validity now generator clock true s =
      ((Source.fleet m none).scheduled clock (.ofMillis (m.firstDelay now).toNat) validity,
        s') := by
  rw [joinFleet, h]
  rfl

theorem schedule?_close (source : Source) : source.close.schedule? = none := by
  cases source <;> rfl

theorem upToDate_close (source : Source) (now : ℕ) : source.close.UpToDate now := by
  intro schedule hSchedule
  rw [schedule?_close] at hSchedule
  cases hSchedule

/-- **Rotations happen once in every period.** Let the clock advance any number of times, by whole
milliseconds. There is one way in which the time can pass that these advances make up together. A
source that draws its secrets itself has then rotated as often as its period fits into that time,
and has the last two secrets it drew. A member of a fleet, over a store that fails no call and in
which nobody else replaces the record, has rotated once when its first delay is over and once for
each period that fits into the rest; every rotation has moved the version by one and the deadline by
the validity, and the store has the record that the member knows. A source that is closed keeps its
secrets whatever time passes, and leaves the store alone. -/
theorem rotations_on_schedule (store : Store σ) (clock : ℕ) (advances : List ℕ) :
    (∀ state after, state.1.UpToDate clock →
      (Passes store clock (clock + (Duration.ofMillis advances.sum).nanos) state after ↔
        pass store clock advances state = after)) ∧
    (∀ generator period s, 0 < period →
      let n := advances.sum / period
      ∃ source schedule, (startRandom generator).scheduled clock (.ofMillis period)
          (.ofMillis period) = .ok source ∧ source.UpToDate clock ∧
        pass store clock advances (source, s) =
          (.random (generator.keysAfter n) (Generator.advance^[n + 1] generator) (some schedule),
            s)) ∧
    (∀ path held, store.Reliable path held → ∀ period now generator s m joined,
      Member.join store path (.ofMillis period) now generator s = (.ok m, joined) →
      let delay := (m.firstDelay now).toNat
      let n := if advances.sum < delay then 0 else (advances.sum - delay) / period + 1
      ∃ source schedule rotated s', joinFleet store path (.ofMillis period) now generator clock
          true s = (.ok source, joined) ∧ source.UpToDate clock ∧
        pass store clock advances (source, joined) = (.fleet rotated (some schedule), s') ∧
        (Source.fleet m none).rolled store joined n = (.fleet rotated none, s') ∧
        rotated.version = m.version + Int64.ofNat n ∧
        rotated.nextRollover =
          m.nextRollover + Int64.ofNat n * (Duration.ofMillis period).boundedMillis ∧
        rotated.InStep (held s')) ∧
    ∀ (source : Source) s, source.close.keys = source.keys ∧
      pass store clock advances (source.close, s) = (source.close, s) := by
  refine ⟨fun state after hUpToDate => ?_, fun generator period s hPeriod => ?_,
    fun path held hStore period now generator s m joined hJoin => ?_, fun source s => ?_⟩
  · rw [passes_iff hUpToDate (Nat.le_add_right ..), pass_eq_runUntil advances hUpToDate]
  · intro n
    obtain ⟨schedule, hStart⟩ := Schedule.exists_start clock period hPeriod
    have hScheduled := scheduled_of_start hStart (startRandom generator)
    obtain ⟨hUpToDate, next, hPass⟩ :=
      pass_scheduled (startRandom generator) hPeriod hStart rfl store advances s
    rw [Schedule.rotationsIn_self hPeriod] at hPass
    have hRolled : (startRandom generator).rolled store s n =
        (.random (generator.keysAfter n) (Generator.advance^[n + 1] generator) none, s) :=
      rolled_random store generator none s n
    refine ⟨_, next, hScheduled, hUpToDate, ?_⟩
    rw [hPass, hRolled]
    rfl
  · obtain ⟨hValidity, hPath, hInterval, hInStep⟩ := Member.inStep_join hStore hJoin
    intro delay n
    have hPeriod : 0 < period := by
      refine Nat.pos_of_ne_zero ?_
      rintro rfl
      exact absurd hValidity (by decide)
    have hPositive : 0 < m.interval.toInt := by
      rw [Int64.le_iff_toInt_le, Int64.toInt_one] at hValidity
      rw [hInterval]
      omega
    have hDelay : 0 < delay := Int.pos_iff_toNat_pos.mp (m.firstDelay_pos now hPositive)
    obtain ⟨schedule, hStart⟩ := Schedule.exists_start clock delay hPeriod
    have hScheduled : joinFleet store path (.ofMillis period) now generator clock true s =
        (.ok ((Source.fleet m none).withSchedule (some schedule)), joined) := by
      rw [joinFleet_of_joined hJoin, scheduled_of_start hStart]
    obtain ⟨hUpToDate, next, hPass⟩ :=
      pass_scheduled (.fleet m none) hDelay hStart rfl store advances joined
    obtain ⟨rotated, s', hRolled, -, -, hVersion, hDeadline, hStored⟩ :=
      rolled_fleet hStore hPath hInStep none n
    rw [hInterval] at hDeadline
    refine ⟨_, next, rotated, s', hScheduled, hUpToDate, ?_, hRolled, hVersion, hDeadline, hStored⟩
    have hCount : Schedule.rotationsIn delay period advances.sum = n := rfl
    rw [hPass, hCount, hRolled]
    rfl
  · constructor
    · cases source <;> rfl
    · rw [pass_eq_runUntil advances (upToDate_close source clock)]
      exact runUntil_of_upToDate (upToDate_close source _)

/-- A source with a validity of a minute over 61 seconds, and a member that joins its fleet 600
milliseconds before the next rotation and stays for two seconds and a half. -/
theorem rotations_on_schedule_minute :
    let g : Generator := ⟨fun n => Vector.replicate 32 n.toUInt8, 0⟩
    let store := MemoryStore.asStore
    let s : MemoryStore := ⟨[("/secret", ⟨Member.dueRecord.encode, 0⟩)]⟩
    (∃ source schedule,
      (startRandom g).scheduled 0 (.ofMillis 60000) (.ofMillis 60000) = .ok source ∧
        pass store 0 [59000, 2000] (source, s) =
          (.random ⟨List.replicate 32 1, some (List.replicate 32 0)⟩ { g with position := 2 }
            (some schedule), s)) ∧
    ∃ source schedule rotated s',
      joinFleet store "/secret" (.ofMillis 1000) 400 g 0 true s = (.ok source, s) ∧
        pass store 0 [400, 2100] (source, s) = (.fleet rotated (some schedule), s') ∧
        rotated.version = 2 ∧ rotated.nextRollover = 3000 := by
  intro g store s
  constructor
  · obtain ⟨-, hRandom, -, -⟩ := rotations_on_schedule store 0 [59000, 2000]
    obtain ⟨source, schedule, hScheduled, -, hPass⟩ := hRandom g 60000 s (by decide)
    exact ⟨source, schedule, hScheduled, hPass⟩
  · have hJoin : ∃ m, Member.join store "/secret" (.ofMillis 1000) 400 g s = (.ok m, s) ∧
        m.version = 0 ∧ m.nextRollover = 1000 ∧ m.firstDelay 400 = 600 := by
      refine ⟨_, rfl, rfl, rfl, ?_⟩
      decide +kernel
    obtain ⟨m, hJoin, hVersion, hDeadline, hDelay⟩ := hJoin
    obtain ⟨-, -, hFleet, -⟩ := rotations_on_schedule store 0 [400, 2100]
    obtain ⟨source, schedule, rotated, s', hJoined, -, hPass, -, hVersion', hDeadline', -⟩ :=
      hFleet "/secret" _ (MemoryStore.reliable "/secret") 1000 400 g s m s hJoin
    refine ⟨source, schedule, rotated, s', hJoined, hPass, ?_, ?_⟩
    · rw [hVersion', hVersion, hDelay]
      decide
    · rw [hDeadline', hDeadline, hDelay]
      decide

end Source

namespace SourceGroup

variable {σ : Type}

theorem run_alone (store : Store σ) (name : String) (source : Source) (s : σ) (n : ℕ) :
    run store n ⟨[(name, source)], s⟩ =
      ⟨[(name, (source.ticks store n s).1)], (source.ticks store n s).2⟩ := by
  induction n generalizing source s with
  | zero => rfl
  | succ n ih =>
    have hAdd : ({ sources := [(name, source)], state := (source.tick store s).2 } :
        SourceGroup σ).add name (source.tick store s).1 =
          ⟨[(name, (source.tick store s).1)], (source.tick store s).2⟩ := by
      simp [add]
    show run store n (({ sources := [(name, source)], state := (source.tick store s).2 } :
        SourceGroup σ).add name (source.tick store s).1) = _
    rw [hAdd, ih]
    rfl

/-- A group of one source does what the source does. -/
theorem runUntil_alone (store : Store σ) (name : String) (source : Source) (s : σ) (now : ℕ) :
    runUntil store now ⟨[(name, source)], s⟩ =
      ⟨[(name, (source.runUntil store now s).1)], (source.runUntil store now s).2⟩ := by
  show run store (0 + source.dueCount now) ⟨[(name, source)], s⟩ = _
  rw [Nat.zero_add, run_alone]
  rfl

end SourceGroup

end SignOn
