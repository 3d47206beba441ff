import SignOn.Proofs.Fleet.Outages

/-!
# Secrets that are drawn

Each record announces a secret that its writer has drawn for it. When all secrets that were drawn
are different, a record does not announce the secret it has in effect, and of two records of a run
the later one announces another secret than the earlier one (`next_eq_next_iff`), whatever calls of
the store have failed.
-/

namespace SignOn

open SignOn.Text (Bytes)

/-! ## What is drawn -/

/-- The secrets that a process draws for its next step. One that starts draws three and shows two of
them. -/
def FleetPlan.draws {ι : Type} (plan : FleetPlan ι) (i : ι) : Phase → List Bytes
  | .waiting => [(plan.generator i).secret, (plan.founding i).1.next, (plan.founding i).1.current]
  | .promoted m => [m.generator.secret]
  | .founded _ | .refused _ | .idle _ | .pushed _ => []

namespace Fleet

variable {ι : Type} [DecidableEq ι]

/-- The announced and the current secret of the record that is stored at first, if it can be
read. -/
def inherited (plan : FleetPlan ι) (f : Fleet ι) : List Bytes :=
  match (f.held plan).map fun record => SecretRecord.decode record.data with
  | some (.ok record) => [record.next, record.current]
  | _ => []

/-- The secrets that were drawn in the first `n` turns, behind those that the fleet began with. -/
def drawn (plan : FleetPlan ι) (schedule : ℕ → Turn ι) (f : Fleet ι) : ℕ → List Bytes
  | 0 => f.inherited plan
  | n + 1 => drawn plan schedule f n ++
      plan.draws (schedule n).who ((f.run plan schedule n).phase (schedule n).who)

variable {plan : FleetPlan ι} {schedule : ℕ → Turn ι} {f : Fleet ι} {n n' : ℕ}

theorem drawn_isPrefix (hLe : n ≤ n') :
    f.drawn plan schedule n <+: f.drawn plan schedule n' := by
  induction n', hLe using Nat.le_induction with
  | base => exact List.prefix_rfl
  | succ n' _ ih => exact ih.trans (List.prefix_append ..)

theorem drawn_nodup_of_le (hLe : n ≤ n') (h : (f.drawn plan schedule n').Nodup) :
    (f.drawn plan schedule n).Nodup :=
  (drawn_isPrefix hLe).sublist.nodup h

/-! ## The record that is written -/

/-- Who replaces the record is about to write and knows its version, and what is stored then is what
it offers. -/
theorem exists_writer (hPath : f.OnPath plan) (hWaiting : ∀ i, f.phase i = .waiting)
    (hWrites : (f.run plan schedule n).writes (schedule n) = true) :
    ∃ m held, (f.run plan schedule n).phase (schedule n).who = .promoted m ∧
      (f.run plan schedule n).held plan = some held ∧ m.version = held.version ∧
      Reads ((f.run plan schedule (n + 1)).held plan) (held.version + 1) m.offer := by
  have hMove := run_move schedule hPath n
  cases hHeld : (f.run plan schedule n).held plan with
  | none =>
    rw [hHeld] at hMove
    rw [hMove.of_none.1] at hWrites
    cases hWrites
  | some held =>
    rw [hHeld] at hMove
    rcases hMove.of_held with ⟨hWrote, -⟩ | ⟨-, m, hPhase, hVersion, hAfter⟩
    · rw [hWrote] at hWrites
      cases hWrites
    · have hSound := sound_run schedule hPath hWaiting n (schedule n).who
      have hStorable := (hSound.grounded m (by rw [hPhase]; rfl)).offer_storable
      exact ⟨m, held, hPhase, rfl, hVersion, _, hAfter, SecretRecord.decode_encode hStorable⟩

/-- What can be read after a turn could be read before, or was put there by a process that starts,
or is the offer of a process that was about to write. -/
theorem reads_succ (hPath : f.OnPath plan) (hWaiting : ∀ i, f.phase i = .waiting)
    {version : Int64} {record : SecretRecord}
    (hReads : Reads ((f.run plan schedule (n + 1)).held plan) version record) :
    (f.run plan schedule n).writes (schedule n) = false ∧
        Reads ((f.run plan schedule n).held plan) version record ∨
      (f.run plan schedule n).writes (schedule n) = false ∧
        (f.run plan schedule n).held plan = none ∧
        (f.run plan schedule n).phase (schedule n).who = .waiting ∧
        record = (plan.founding (schedule n).who).1 ∨
      (f.run plan schedule n).writes (schedule n) = true ∧
        ∃ m, (f.run plan schedule n).phase (schedule n).who = .promoted m ∧ record = m.offer := by
  cases hWrites : (f.run plan schedule n).writes (schedule n) with
  | true =>
    obtain ⟨m, held, hPhase, -, -, hOffer⟩ := exists_writer hPath hWaiting hWrites
    exact Or.inr (Or.inr ⟨rfl, m, hPhase, (hReads.unique hOffer).2⟩)
  | false =>
    have hMove := run_move schedule hPath n
    cases hHeld : (f.run plan schedule n).held plan with
    | none =>
      obtain ⟨data, hAfter, hDecode⟩ := hReads
      rw [hHeld, hAfter] at hMove
      obtain ⟨hPhase, hStored⟩ := hMove.of_none_some
      cases hStored
      have hFounding : (plan.founding (schedule n).who).1.Storable := Member.founding_storable _ _
      rw [SecretRecord.decode_encode hFounding] at hDecode
      cases hDecode
      exact Or.inr (Or.inl ⟨rfl, rfl, hPhase, rfl⟩)
    | some held =>
      rw [hHeld, hWrites] at hMove
      rcases hMove.of_held with ⟨-, hAfter⟩ | ⟨hWrote, -⟩
      · rw [hAfter] at hReads
        exact Or.inl ⟨rfl, hReads⟩
      · cases hWrote

/-- The announced and the current secret of a stored record were drawn. -/
theorem mem_drawn_of_reads (hPath : f.OnPath plan) (hWaiting : ∀ i, f.phase i = .waiting)
    {version : Int64} {record : SecretRecord}
    (hReads : Reads ((f.run plan schedule n).held plan) version record) :
    record.next ∈ f.drawn plan schedule n ∧ record.current ∈ f.drawn plan schedule n := by
  induction n using Nat.strong_induction_on generalizing version record with
  | _ n ih =>
    cases n with
    | zero =>
      obtain ⟨data, hHeld, hDecode⟩ := hReads
      have hStart : f.held plan = some ⟨data, version⟩ := hHeld
      have hInherited : f.drawn plan schedule 0 = [record.next, record.current] := by
        simp only [drawn, inherited, hStart, Option.map_some, hDecode]
      simp [hInherited]
    | succ n =>
      rcases reads_succ hPath hWaiting hReads with ⟨-, hBefore⟩ | ⟨-, -, hPhase, rfl⟩ |
          ⟨-, m, hPhase, rfl⟩
      · obtain ⟨hNext, hCurrent⟩ := ih n (Nat.lt_succ_self n) hBefore
        exact ⟨List.mem_append_left _ hNext, List.mem_append_left _ hCurrent⟩
      · rw [drawn, hPhase]
        exact ⟨List.mem_append_right _ (by simp [FleetPlan.draws]),
          List.mem_append_right _ (by simp [FleetPlan.draws])⟩
      · -- The secret in effect at the writer is one that an earlier record has announced.
        have hSound := sound_run schedule hPath hWaiting n (schedule n).who
        obtain ⟨before, ⟨n₀, hLt, hBefore⟩, hNext⟩ :=
          (hSound.grounded m (by rw [hPhase]; rfl)).announced
        have hCurrent : m.offer.current = before.next := (hSound.promoted m hPhase).trans hNext
        rw [drawn, hPhase, hCurrent]
        exact ⟨List.mem_append_right _ (List.mem_singleton_self _), List.mem_append_left _
          ((drawn_isPrefix hLt.le).subset (ih n₀ (Nat.lt_succ_of_lt hLt) hBefore).1)⟩

/-- What is announced when a record is replaced was not drawn before. -/
theorem next_not_mem_drawn_of_write {m : Member}
    (hPhase : (f.run plan schedule n).phase (schedule n).who = .promoted m)
    (hDistinct : (f.drawn plan schedule (n + 1)).Nodup) :
    m.offer.next ∉ f.drawn plan schedule n := by
  rw [drawn, hPhase] at hDistinct
  intro hMem
  exact (List.nodup_append.mp hDistinct).2.2 _ hMem _ (List.mem_singleton_self _) rfl

/-- A stored record does not announce its current secret. -/
theorem next_ne_current (hPath : f.OnPath plan) (hWaiting : ∀ i, f.phase i = .waiting)
    (hDistinct : (f.drawn plan schedule n).Nodup) {version : Int64} {record : SecretRecord}
    (hReads : Reads ((f.run plan schedule n).held plan) version record) :
    record.next ≠ record.current := by
  induction n generalizing version record with
  | zero =>
    obtain ⟨data, hHeld, hDecode⟩ := hReads
    have hStart : f.held plan = some ⟨data, version⟩ := hHeld
    have hInherited : f.drawn plan schedule 0 = [record.next, record.current] := by
      simp only [drawn, inherited, hStart, Option.map_some, hDecode]
    rw [hInherited] at hDistinct
    simpa using hDistinct
  | succ n ih =>
    rcases reads_succ hPath hWaiting hReads with ⟨-, hBefore⟩ | ⟨-, -, hPhase, rfl⟩ |
        ⟨-, m, hPhase, rfl⟩
    · exact ih (drawn_nodup_of_le (Nat.le_succ n) hDistinct) hBefore
    · rw [drawn, hPhase] at hDistinct
      have hDraws := (List.nodup_append.mp hDistinct).2.1
      simp only [FleetPlan.draws, List.nodup_cons, List.mem_cons, List.not_mem_nil, or_false,
        not_or] at hDraws
      exact hDraws.2.1
    · have hSound := sound_run schedule hPath hWaiting n (schedule n).who
      obtain ⟨before, ⟨n₀, hLt, hBefore⟩, hNext⟩ :=
        (hSound.grounded m (by rw [hPhase]; rfl)).announced
      have hCurrent : m.offer.current = before.next := (hSound.promoted m hPhase).trans hNext
      intro hSame
      apply next_not_mem_drawn_of_write hPhase hDistinct
      rw [hSame, hCurrent]
      exact (drawn_isPrefix hLt.le).subset (mem_drawn_of_reads hPath hWaiting hBefore).1

/-- A record that was written since announces nothing that was drawn before. -/
theorem next_not_mem_drawn (hPath : f.OnPath plan) (hWaiting : ∀ i, f.phase i = .waiting)
    (hLe : n ≤ n') (hDistinct : (f.drawn plan schedule n').Nodup)
    (hCount : f.writeCount plan schedule n < f.writeCount plan schedule n')
    {version : Int64} {record : SecretRecord}
    (hReads : Reads ((f.run plan schedule n').held plan) version record) :
    record.next ∉ f.drawn plan schedule n := by
  induction n', hLe using Nat.le_induction generalizing version record with
  | base => exact absurd hCount (Nat.lt_irrefl _)
  | succ n' hLe ih =>
    have hEarlier := drawn_nodup_of_le (Nat.le_succ n') hDistinct
    rcases reads_succ hPath hWaiting hReads with ⟨hWrote, hBefore⟩ | ⟨hWrote, hNone, -⟩ |
        ⟨-, m, hPhase, rfl⟩
    · rw [writeCount_of_not_writes hWrote] at hCount
      exact ih hEarlier hCount hBefore
    · rw [writeCount_of_not_writes hWrote, writeCount_of_held_eq_none hPath hNone] at hCount
      exact absurd hCount (Nat.not_lt_zero _)
    · intro hMem
      exact next_not_mem_drawn_of_write hPhase hDistinct ((drawn_isPrefix hLe).subset hMem)

/-- Of two stored records the later one does not announce the secret that the earlier one has in
effect, and it announces the same secret only if the record was not replaced in between. -/
theorem next_eq_next_iff (hPath : f.OnPath plan) (hWaiting : ∀ i, f.phase i = .waiting)
    (hDistinct : (f.drawn plan schedule n').Nodup) {version version' : Int64}
    {record record' : SecretRecord}
    (hReads : Reads ((f.run plan schedule n).held plan) version record)
    (hReads' : Reads ((f.run plan schedule n').held plan) version' record')
    (hCount : f.writeCount plan schedule n ≤ f.writeCount plan schedule n') :
    record'.next ≠ record.current ∧ (record'.next = record.next ↔
      f.writeCount plan schedule n = f.writeCount plan schedule n') := by
  by_cases hEq : f.writeCount plan schedule n = f.writeCount plan schedule n'
  · have hOwn := next_ne_current hPath hWaiting hDistinct hReads'
    obtain ⟨data, hHeld, hDecode⟩ := hReads
    obtain ⟨data', hHeld', hDecode'⟩ := hReads'
    obtain rfl : data = data' :=
      congrArg Versioned.data (held_eq_of_writeCount_eq hPath hHeld hHeld' hEq)
    rw [hDecode] at hDecode'
    cases hDecode'
    exact ⟨hOwn, fun _ => hEq, fun _ => rfl⟩
  · have hLe : n ≤ n' := by
      by_contra hAfter
      have hMono : f.writeCount plan schedule n' ≤ f.writeCount plan schedule n :=
        writeCount_mono (Nat.le_of_not_le hAfter)
      omega
    have hNew := next_not_mem_drawn hPath hWaiting hLe hDistinct (by omega) hReads'
    obtain ⟨hNext, hCurrent⟩ := mem_drawn_of_reads hPath hWaiting hReads
    exact ⟨fun h => hNew (h ▸ hCurrent), fun h => absurd (h ▸ hNext) hNew, fun h => absurd h hEq⟩

end Fleet

end SignOn
