import SignOn.Proofs.Fleet.Drawn

/-!
# Rotations after outages

A rotation is meant to put a secret in effect that was not in effect before, and to keep the one
that was as the previous one. When all secrets that were drawn are different, this says exactly when
a rotation that reaches the store does so (`renewal_after_outages`).

* The current secret changes unless the rotation before could not read the record and nobody but the
  process itself has replaced the record since. Then the process has promoted the announced secret
  already, and the record that it reads at last has this very secret in effect.
* The previous secret differs from the current one unless the record was written blindly, that is,
  by a process that could not read the record in its rotation before. Such a process promotes the
  announced secret a second time and so writes it in both places.

The invariant is `Trails`: the secrets of a member follow from the record whose version it knows and
from whether its last rotation missed the record.
-/

namespace SignOn

open SignOn.Text (Bytes)

/-! ## Rotations that miss the record -/

/-- The secret in effect at a member that knows the record: the current one, or the announced one if
the member has promoted it and could not read since. -/
def SecretRecord.shown (r : SecretRecord) (missed : Bool) : Bytes :=
  if missed then r.next else r.current

namespace Fleet

variable {ι : Type} [DecidableEq ι]

/-- Whether the last of the rotations that a process has finished in the first `n` turns could not
read the record. -/
def missed (plan : FleetPlan ι) (schedule : ℕ → Turn ι) (f : Fleet ι) (i : ι) : ℕ → Bool
  | 0 => false
  | n + 1 =>
    match (f.run plan schedule n).phase i with
    | .pushed _ =>
      if i = (schedule n).who then (schedule n).outage.isSome else missed plan schedule f i n
    | _ => missed plan schedule f i n

/-- Whether the record that is stored after `n` turns was written by a process that could not read
the record in the rotation before. -/
def blind (plan : FleetPlan ι) (schedule : ℕ → Turn ι) (f : Fleet ι) : ℕ → Bool
  | 0 => false
  | n + 1 =>
    if (f.run plan schedule n).writes (schedule n) then
      missed plan schedule f (schedule n).who n
    else blind plan schedule f n

variable {plan : FleetPlan ι} {schedule : ℕ → Turn ι} {f : Fleet ι} {n n' : ℕ} {i : ι}

theorem missed_of_ne (h : i ≠ (schedule n).who) :
    f.missed plan schedule i (n + 1) = f.missed plan schedule i n := by
  rw [missed, if_neg h]
  split <;> rfl

/-- A step that reads no record leaves open what the last reading was. -/
theorem missed_of_not_pushed (h : ∀ m, (f.run plan schedule n).phase i ≠ .pushed m) :
    f.missed plan schedule i (n + 1) = f.missed plan schedule i n := by
  rw [missed]
  split
  · rename_i m hPhase
    exact absurd hPhase (h m)
  · rfl

theorem missed_of_pushed {m : Member} (hPhase : (f.run plan schedule n).phase i = .pushed m)
    (hWho : i = (schedule n).who) :
    f.missed plan schedule i (n + 1) = (schedule n).outage.isSome := by
  rw [missed, hPhase]
  exact if_pos hWho

/-! ## The secrets of a member -/

/-- How a process stands to a record of the past, given whether its last rotation missed the record:
it knows the announcement, and what it has in effect, or had in effect before it promoted the
announced secret, is `SecretRecord.shown`. -/
def Trails (plan : FleetPlan ι) (schedule : ℕ → Turn ι) (f : Fleet ι) (n : ℕ) (missed : Bool) :
    Phase → Prop
  | .waiting | .founded _ => missed = false
  | .refused _ => True
  | .idle m => ∃ record, f.Recorded plan schedule n m.version record ∧ m.next = record.next ∧
      m.keys.current = record.shown missed
  | .promoted m | .pushed m => ∃ record, f.Recorded plan schedule n m.version record ∧
      m.next = record.next ∧ m.keys = ⟨record.next, some (record.shown missed)⟩

theorem Trails.mono {missed : Bool} {phase : Phase} (h : f.Trails plan schedule n missed phase)
    (hLe : n ≤ n') : f.Trails plan schedule n' missed phase := by
  cases phase with
  | waiting | founded | refused => exact h
  | idle | promoted | pushed =>
    obtain ⟨record, hRecorded, hStands⟩ := h
    exact ⟨record, hRecorded.mono hLe, hStands⟩

/-- A turn of the process itself keeps its standing. Only reading tells whether the record was
missed, so `missed'` is left open by all other steps. -/
theorem Trails.move {up : Prop} {phase phase' : Phase} {held held' : Option Versioned}
    {wrote missed missed' : Bool} (h : f.Trails plan schedule n missed phase)
    (hMove : Move plan i up phase held wrote phase' held')
    (hHeld : (f.run plan schedule n).held plan = held)
    (hOther : (∀ m, phase ≠ .pushed m) → missed' = missed)
    (hRead : ∀ m, phase = .pushed m → (missed' = false ↔ up))
    (hReadable : ∀ m, phase = .pushed m → ∃ version record, Reads held version record) :
    f.Trails plan schedule (n + 1) missed' phase' := by
  cases hMove with
  | refuse => trivial
  | found | find =>
    obtain rfl := hOther (by simp)
    exact h
  | enroll generator hReads =>
    obtain rfl := hOther (by simp)
    obtain rfl : missed' = false := h
    exact ⟨_, hReads.recorded hHeld, rfl, rfl⟩
  | promote m =>
    obtain rfl := hOther (by simp)
    obtain ⟨record, hRecorded, hNext, hCurrent⟩ := h.mono (Nat.le_succ n)
    refine ⟨record, hRecorded, hNext, ?_⟩
    rw [Member.promote, Keyring.rotate, hNext, hCurrent]
  | write m | yield m =>
    obtain rfl := hOther (by simp)
    exact h.mono (Nat.le_succ n)
  | adopt m hUp hReads =>
    obtain rfl := (hRead m rfl).mpr hUp
    exact ⟨_, hReads.recorded hHeld, rfl, rfl⟩
  | keep m hCause =>
    obtain ⟨version, record, hReads⟩ := hReadable m rfl
    have hDown : ¬ up := hCause.resolve_right fun hNone => hNone version record hReads
    have hMissed : missed' = true := by
      cases missed' with
      | true => rfl
      | false => exact absurd ((hRead m rfl).mp rfl) hDown
    obtain ⟨record, hRecorded, hNext, hKeys⟩ := h.mono (Nat.le_succ n)
    refine ⟨record, hRecorded, hNext, ?_⟩
    rw [hKeys, hMissed]
    rfl

theorem trails_run (schedule : ℕ → Turn ι) (hPath : f.OnPath plan)
    (hWaiting : ∀ i, f.phase i = .waiting) (n : ℕ) (i : ι) :
    f.Trails plan schedule n (f.missed plan schedule i n) ((f.run plan schedule n).phase i) := by
  induction n with
  | zero =>
    have hPhase : (f.run plan schedule 0).phase i = .waiting := hWaiting i
    rw [hPhase]
    rfl
  | succ n ih =>
    by_cases hi : i = (schedule n).who
    · subst hi
      refine ih.move (run_move schedule hPath n) rfl missed_of_not_pushed ?_ ?_
      · intro m hPhase
        rw [missed_of_pushed hPhase rfl, Option.isSome_eq_false_iff, Option.isNone_iff_eq_none]
      · intro m hPhase
        rw [hPhase] at ih
        obtain ⟨_, hRecorded, -⟩ := ih
        exact exists_reads_of_recorded hPath hWaiting hRecorded
    · rw [run_phase_of_ne hi, missed_of_ne hi]
      exact ih.mono (Nat.le_succ n)

/-! ## The record before -/

/-- A record that has been replaced follows the one before it: the announced secret is in effect,
and the previous one is what its writer had in effect. -/
theorem exists_predecessor (hPath : f.OnPath plan) (hWaiting : ∀ i, f.phase i = .waiting)
    (hBound : f.writeCount plan schedule n < 2 ^ 64) {version : Int64} {record : SecretRecord}
    (hReads : Reads ((f.run plan schedule n).held plan) version record)
    (hCount : 0 < f.writeCount plan schedule n) :
    ∃ n₀ version₀ before, n₀ < n ∧ Reads ((f.run plan schedule n₀).held plan) version₀ before ∧
      f.writeCount plan schedule n = f.writeCount plan schedule n₀ + 1 ∧
      record.keyring = ⟨before.next, some (before.shown (f.blind plan schedule n))⟩ := by
  induction n generalizing version record with
  | zero => exact absurd hCount (Nat.lt_irrefl 0)
  | succ n ih =>
    have hBefore := Nat.lt_of_le_of_lt (writeCount_mono (Nat.le_succ n)) hBound
    cases hWrites : (f.run plan schedule n).writes (schedule n) with
    | false =>
      have hBlind : f.blind plan schedule (n + 1) = f.blind plan schedule n := by
        rw [blind, hWrites]
        rfl
      have hSame := writeCount_of_not_writes hWrites
      rw [hSame] at hCount
      rcases reads_succ hPath hWaiting hReads with ⟨-, hReads'⟩ | ⟨-, hNone, -⟩ | ⟨hWrote, -⟩
      · obtain ⟨n₀, version₀, before, hLt, hFirst⟩ := ih hBefore hReads' hCount
        rw [hSame, hBlind]
        exact ⟨n₀, version₀, before, Nat.lt_succ_of_lt hLt, hFirst⟩
      · rw [writeCount_of_held_eq_none hPath hNone] at hCount
        exact absurd hCount (Nat.lt_irrefl 0)
      · rw [hWrites] at hWrote
        cases hWrote
    | true =>
      obtain ⟨m, held, hPhase, hHeld, hVersion, hOffer⟩ := exists_writer hPath hWaiting hWrites
      obtain ⟨-, rfl⟩ := hReads.unique hOffer
      have hTrails := trails_run schedule hPath hWaiting n (schedule n).who
      rw [hPhase] at hTrails
      obtain ⟨before, hRecorded, -, hKeys⟩ := hTrails
      rw [hVersion] at hRecorded
      have hBlind : f.blind plan schedule (n + 1) =
          f.missed plan schedule (schedule n).who n := by
        rw [blind, hWrites]
        rfl
      refine ⟨n, held.version, before, Nat.lt_succ_self n, hRecorded.reads hPath hHeld hBefore,
        writeCount_of_writes hWrites, ?_⟩
      rw [hBlind]
      exact hKeys

/-- The version is one higher exactly if the record was replaced once. -/
theorem version_eq_add_one_iff (hPath : f.OnPath plan) (hLe : n ≤ n') {version version' : Int64}
    {record record' : SecretRecord}
    (hReads : Reads ((f.run plan schedule n).held plan) version record)
    (hReads' : Reads ((f.run plan schedule n').held plan) version' record')
    (hBound : f.writeCount plan schedule n' < 2 ^ 64) :
    version' = version + 1 ↔
      f.writeCount plan schedule n' = f.writeCount plan schedule n + 1 := by
  obtain ⟨data, hHeld, -⟩ := hReads
  obtain ⟨data', hHeld', -⟩ := hReads'
  obtain ⟨held, d, hNow, hSum, hStep, -⟩ := held_of_le hPath hLe hHeld
  rw [hHeld'] at hNow
  cases hNow
  dsimp only at hStep
  have hOne : version' = version + 1 ↔ Int64.ofNat d = Int64.ofNat 1 := by
    rw [hStep]
    exact Int64.add_right_inj version
  rw [hOne, int64_ofNat_inj (by omega) (by decide)]
  omega

/-! ## Rotations that reach the store -/

variable {first last : ℕ} {before after : Member}

/-- Every rotation has a turn in which the process tries to write. -/
theorem Rolls.exists_push (h : f.Rolls plan schedule i first last before after)
    (hPath : f.OnPath plan) :
    ∃ n, first < n ∧ n < last ∧ (schedule n).who = i ∧
      (f.run plan schedule n).phase i = .promoted before.promote := by
  by_contra hNone
  have hStill : ∀ n, first + 1 ≤ n → n ≤ last →
      (f.run plan schedule n).phase i = .promoted before.promote := by
    intro n hFirst
    induction n, hFirst using Nat.le_induction with
    | base =>
      intro _
      have hMove := run_move schedule hPath first
      rw [h.begins, h.before] at hMove
      exact hMove.of_idle.2.1
    | succ n hFirst ih =>
      intro hLast
      have hPhase := ih (Nat.le_of_succ_le hLast)
      have hOther : i ≠ (schedule n).who := fun hWho =>
        hNone ⟨n, hFirst, hLast, hWho.symm, hPhase⟩
      rw [run_phase_of_ne hOther, hPhase]
  have hPromoted := hStill last h.lt (Nat.le_refl last)
  rw [h.pushed hPath] at hPromoted
  cases hPromoted

/-- A rotation whose turns reach the store ends later in the history of the record than the record
whose version it began with. -/
theorem Rolls.writeCount_lt (h : f.Rolls plan schedule i first last before after)
    (hPath : f.OnPath plan)
    (hReached : ∀ n, first < n → n ≤ last → (schedule n).who = i → (schedule n).outage = none)
    {record : SecretRecord} (hBegan : n < first)
    (hReads : Reads ((f.run plan schedule n).held plan) before.version record) :
    f.writeCount plan schedule n < f.writeCount plan schedule last := by
  obtain ⟨push, hFirst, hLast, hWho, hPhase⟩ := h.exists_push hPath
  have hUp := hReached push hFirst hLast.le hWho
  have hLe : n ≤ push := (hBegan.trans hFirst).le
  by_contra hCount
  -- Otherwise the record is still the one that the process knows, so the process replaces it.
  have hSame : f.writeCount plan schedule n = f.writeCount plan schedule push := by
    have hMono : f.writeCount plan schedule n ≤ f.writeCount plan schedule push :=
      writeCount_mono hLe
    have hMono' : f.writeCount plan schedule push ≤ f.writeCount plan schedule last :=
      writeCount_mono hLast.le
    omega
  obtain ⟨data, hHeld, hDecode⟩ := hReads
  obtain ⟨held, _, hNow, -⟩ := held_of_le hPath hLe hHeld
  obtain rfl := held_eq_of_writeCount_eq hPath hHeld hNow hSame
  have hMove := run_move schedule hPath push
  rw [hWho, hPhase, hNow] at hMove
  obtain ⟨hWrote, -⟩ := hMove.of_promoted hUp ⟨data, rfl, hDecode⟩ rfl
  have hAfter : f.writeCount plan schedule (push + 1) ≤ f.writeCount plan schedule last :=
    writeCount_mono hLast
  rw [writeCount_of_writes hWrote] at hAfter
  omega

/-- **Renewal after outages.** Whatever calls of the store have failed, and whoever else has
rotated: a rotation that reaches the store with each of its calls puts another secret in effect
exactly if the rotation of this process before could read the record, or the record was replaced by
others as well; and it ends with a previous secret that differs from the current one exactly if the
record that it reads was not written by a process whose rotation before had missed the record. All
secrets that were drawn are different, and the versions have not gone round. -/
theorem renewal_after_outages (plan : FleetPlan ι) (schedule : ℕ → Turn ι) (store : MemoryStore)
    {i : ι} {first last : ℕ} {before after : Member}
    (hRolls : (start store).Rolls plan schedule i first last before after)
    (hReached : ∀ n, first < n → n ≤ last → (schedule n).who = i → (schedule n).outage = none)
    (hDistinct : ((start store).drawn plan schedule last).Nodup)
    (hBound : (start store).writeCount plan schedule last < 2 ^ 64) :
    (after.keys.current ≠ before.keys.current ↔
      (start store).missed plan schedule i first = false ∨ after.version ≠ before.version + 1) ∧
    (after.keys.previous ≠ some after.keys.current ↔
      (start store).blind plan schedule last = false) := by
  have hPath : (start store : Fleet ι).OnPath plan := onPath_start plan store
  have hWaiting : ∀ i, (start store : Fleet ι).phase i = .waiting := fun _ => rfl
  have hUp := hReached last hRolls.lt (Nat.le_refl last) hRolls.ends
  -- Three records decide: the one that is read at the end, the one that the process knew before, and
  -- the one that was replaced by what is read.
  obtain ⟨version, record, hReads, hAgrees⟩ := hRolls.agrees hPath hWaiting hUp
  have hTrails := trails_run schedule hPath hWaiting first i
  rw [hRolls.before] at hTrails
  obtain ⟨known, ⟨n, hBegan, hKnown⟩, -, hCurrent⟩ := hTrails
  have hLater := hRolls.writeCount_lt hPath hReached hBegan hKnown
  obtain ⟨n₀, version₀, previous, hLt, hPrevious, hCount, hKeyring⟩ :=
    exists_predecessor hPath hWaiting hBound hReads (Nat.zero_lt_of_lt hLater)
  have hNow : after.keys.current = previous.next := by
    rw [hAgrees.keys, hKeyring]
  have hThen : after.keys.previous =
      some (previous.shown ((start store).blind plan schedule last)) := by
    rw [hAgrees.keys, hKeyring]
  have hDistinct₀ := drawn_nodup_of_le hLt.le hDistinct
  have hOwn := next_ne_current hPath hWaiting hDistinct₀ hPrevious
  obtain ⟨hChanged, hSame⟩ :=
    next_eq_next_iff hPath hWaiting hDistinct₀ hKnown hPrevious (by omega)
  have hVersion : after.version = before.version + 1 ↔ (start store).writeCount plan schedule n =
      (start store).writeCount plan schedule n₀ := by
    rw [hAgrees.version,
      version_eq_add_one_iff hPath (hBegan.trans hRolls.lt).le hKnown hReads hBound]
    omega
  constructor
  · rw [hNow, hCurrent, Ne, Ne, hVersion]
    cases (start store).missed plan schedule i first with
    | false => exact ⟨fun _ => Or.inl rfl, fun _ => hChanged⟩
    | true =>
      simp only [SecretRecord.shown, if_true, hSame, Bool.true_eq_false, false_or]
  · rw [hNow, hThen]
    cases (start store).blind plan schedule last with
    | false =>
      have hNe : some previous.current ≠ some previous.next := fun h =>
        hOwn (Option.some.inj h).symm
      exact ⟨fun _ => rfl, fun _ => hNe⟩
    | true => simp [SecretRecord.shown]

/-- A process founds a fleet, and its first rotation cannot write but reads the record. -/
def unwritten (n : ℕ) : Turn Bool where
  who := false
  outage := if n = 3 then some "connection loss" else none

/-- A process founds a fleet, and its first rotation can neither write nor read. -/
def unreached (n : ℕ) : Turn Bool where
  who := false
  outage := if n = 3 ∨ n = 4 then some "connection loss" else none

/-- After a rotation that could read, the next one renews the secret. -/
theorem renewal_after_outages_unwritten :
    let f := start {}
    ∃ before after, f.Rolls .two unwritten false 5 7 before after ∧
      (∀ n, 5 < n → n ≤ 7 → (unwritten n).outage = none) ∧
      (f.drawn .two unwritten 7).Nodup ∧ f.writeCount .two unwritten 7 < 2 ^ 64 ∧
      after.keys.current ≠ before.keys.current ∧
      after.keys.previous ≠ some after.keys.current := by
  intro f
  have hIdle : ∀ n, n = 5 ∨ n = 8 → ((f.run .two unwritten n).phase false).isIdle = true := by
    rintro n (rfl | rfl) <;> decide +kernel
  have hBusy : ∀ n, n = 6 ∨ n = 7 → ((f.run .two unwritten n).phase false).isIdle = false := by
    rintro n (rfl | rfl) <;> decide +kernel
  obtain ⟨before, hBefore⟩ := Phase.isIdle_iff.mp (hIdle 5 (by decide))
  obtain ⟨after, hAfter⟩ := Phase.isIdle_iff.mp (hIdle (7 + 1) (by decide))
  have hRolls : f.Rolls .two unwritten false 5 7 before after :=
    ⟨rfl, rfl, by decide, hBefore, hAfter, fun n _ _ => hBusy n (by omega)⟩
  have hReached : ∀ n, 5 < n → n ≤ 7 → (unwritten n).outage = none := by
    intro n hFirst _
    exact if_neg (by omega)
  have hDistinct : (f.drawn .two unwritten 7).Nodup := by decide +kernel
  have hBound : f.writeCount .two unwritten 7 < 2 ^ 64 := by decide +kernel
  obtain ⟨hCurrent, hPrevious⟩ := renewal_after_outages .two unwritten {} hRolls
    (fun n hFirst hLast _ => hReached n hFirst hLast) hDistinct hBound
  exact ⟨before, after, hRolls, hReached, hDistinct, hBound,
    hCurrent.mpr (Or.inl (by decide +kernel)), hPrevious.mpr (by decide +kernel)⟩

/-- A rotation that reaches the store with all its calls renews nothing: the process has the same
secret in effect as before, and now as the previous one too. -/
theorem no_renewal_after_unreached :
    let f := start {}
    ∃ before after, f.Rolls .two unreached false 5 7 before after ∧
      (∀ n, 5 < n → n ≤ 7 → (unreached n).outage = none) ∧
      (f.drawn .two unreached 7).Nodup ∧ f.writeCount .two unreached 7 < 2 ^ 64 ∧
      after.keys.current = before.keys.current ∧
      after.keys.previous = some after.keys.current := by
  intro f
  have hIdle : ∀ n, n = 5 ∨ n = 8 → ((f.run .two unreached n).phase false).isIdle = true := by
    rintro n (rfl | rfl) <;> decide +kernel
  have hBusy : ∀ n, n = 6 ∨ n = 7 → ((f.run .two unreached n).phase false).isIdle = false := by
    rintro n (rfl | rfl) <;> decide +kernel
  obtain ⟨before, hBefore⟩ := Phase.isIdle_iff.mp (hIdle 5 (by decide))
  obtain ⟨after, hAfter⟩ := Phase.isIdle_iff.mp (hIdle (7 + 1) (by decide))
  have hKeys : ((f.run .two unreached 5).phase false).keys?.map Keyring.current =
        ((f.run .two unreached (7 + 1)).phase false).keys?.map Keyring.current ∧
      ((f.run .two unreached (7 + 1)).phase false).keys?.bind Keyring.previous =
        ((f.run .two unreached (7 + 1)).phase false).keys?.map Keyring.current := by
    decide +kernel
  rw [hBefore, hAfter] at hKeys
  refine ⟨before, after, ⟨rfl, rfl, by decide, hBefore, hAfter, fun n _ _ => hBusy n (by omega)⟩,
    ?_, by decide +kernel, by decide +kernel, (Option.some.inj hKeys.1).symm, hKeys.2⟩
  intro n hFirst _
  exact if_neg (by omega)

end Fleet

end SignOn
