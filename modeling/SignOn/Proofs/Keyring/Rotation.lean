import SignOn.Keyring.Source
import SignOn.Proofs.Fleet.Move
import SignOn.Proofs.Result

/-!
# Undisturbed rotations

A source that draws its secrets itself puts a new one in effect at each rotation and keeps the one
before. So does a member of a fleet as long as the store fails no call and nobody else replaces the
record (`Store.Reliable`): it knows the stored record, so it can replace it, and it reads back what
it wrote (`Member.roll_of_reliable`). `Source.Undisturbed` is what both have in common, and each
rotation keeps it (`Source.Undisturbed.roll`). A member that others disturb adopts what they have
written.
-/

namespace SignOn

open SignOn.Text (Bytes)

/-- A store that keeps the record of a path: it answers the calls for the record, and nobody else
replaces it. `held` says what the record is. The versions go up by one, as those in memory do. -/
structure Store.Reliable {σ : Type} (store : Store σ) (path : String)
    (held : σ → Option Versioned) : Prop where
  /-- What is there is answered. -/
  get : ∀ {s record}, held s = some record →
    ∃ s', store.get s path = (.ok record, s') ∧ held s' = some record
  /-- What is answered is there. -/
  answered : ∀ {s s' record}, store.get s path = (.ok record, s') → held s' = some record
  /-- Who knows the version replaces the record. -/
  set : ∀ {s record}, held s = some record → ∀ data,
    ∃ s', store.set s path data record.version = (.ok (record.version + 1), s') ∧
      held s' = some ⟨data, record.version + 1⟩

theorem MemoryStore.reliable (path : String) :
    asStore.Reliable path fun s => s.find? path where
  get {s record} hHeld := by
    have hGet : s.get path = .ok record := by rw [MemoryStore.get, hHeld]
    exact ⟨s, congrArg (fun answer => (answer, s)) hGet, hHeld⟩
  answered {s s' record} hGet := by
    obtain ⟨hRecord, rfl⟩ := Prod.mk.inj hGet
    rw [MemoryStore.get] at hRecord
    split at hRecord
    · rename_i hHeld
      rw [hHeld, Except.ok.inj hRecord]
    · cases hRecord
  set hHeld data := ⟨_, set_of_eq hHeld data, find?_put_self ..⟩

section

variable {σ : Type} {store : Store σ} {held : σ → Option Versioned} {s : σ} {m : Member}
  {record : SecretRecord}

theorem Member.readRecord_of_reliable {path : String} {version : Int64}
    (hStore : store.Reliable path held) (hReads : Fleet.Reads (held s) version record) :
    ∃ s', Member.readRecord store path s = (.ok (version, record), s') ∧
      Fleet.Reads (held s') version record := by
  obtain ⟨data, hHeld, hDecode⟩ := hReads
  obtain ⟨s', hGet, hKept⟩ := hStore.get hHeld
  refine ⟨s', ?_, data, hKept, hDecode⟩
  simp only [readRecord, hGet, hDecode]

/-- A member that knows the stored record replaces it by the record it offers, and has what that
record says. -/
theorem Member.roll_of_reliable (hStore : store.Reliable m.path held)
    (hReads : Fleet.Reads (held s) m.version record) (hAgrees : m.Agrees m.version record) :
    ∃ s', m.roll store s = (m.promote.spent.adopt (m.version + 1) m.promote.offer, s') ∧
      Fleet.Reads (held s') (m.version + 1) m.promote.offer := by
  have hStorable := hAgrees.promote.offer_storable hReads.storable
  obtain ⟨data, hHeld, -⟩ := hReads
  obtain ⟨written, hSet, hWritten⟩ := hStore.set hHeld m.promote.offer.encode
  have hPush : m.promote.push store s = (m.promote.spent, written) :=
    congrArg (fun answer => (m.promote.spent, answer.2)) hSet
  obtain ⟨s', hRead, hStored⟩ := readRecord_of_reliable hStore
    ⟨_, hWritten, SecretRecord.decode_encode hStorable⟩
  refine ⟨s', ?_, hStored⟩
  show (m.promote.push store s).1.pull store (m.promote.push store s).2 = _
  have hPath : m.promote.spent.path = m.path := rfl
  rw [hPush]
  simp only [pull, hPath, hRead]

/-- The store has the record that the member knows. -/
def Member.InStep (m : Member) (held : Option Versioned) : Prop :=
  ∃ record, Fleet.Reads held m.version record ∧ m.Agrees m.version record

/-- Who has joined a fleet knows the stored record. -/
theorem Member.inStep_join {path : String} {validity : Duration} {now : Int64}
    {generator : Generator} {s' : σ} (hStore : store.Reliable path held)
    (h : Member.join store path validity now generator s = (.ok m, s')) :
    1 ≤ validity.boundedMillis ∧ m.path = path ∧ m.interval = validity.boundedMillis ∧
      m.InStep (held s') := by
  unfold join at h
  dsimp only at h
  split at h
  · cases h
  · rename_i hValidity
    split at h
    · cases h
    · unfold enroll readRecord at h
      split at h
      · rename_i hRead
        split at hRead
        · cases hRead
        · rename_i hGet
          split at hRead
          · rename_i hDecode
            cases hRead
            cases h
            exact ⟨Int64.not_lt.mp hValidity, rfl, rfl, _, ⟨_, hStore.answered hGet, hDecode⟩,
              agrees_ofRecord ..⟩
          · cases hRead
      · cases h

end

namespace Source

/-- The source and the store after `n` rotations, one after the other. -/
def rolled {σ : Type} (store : Store σ) (source : Source) (s : σ) : ℕ → Source × σ
  | 0 => (source, s)
  | n + 1 => (rolled store source s n).1.roll store (rolled store source s n).2

/-- A source that nobody disturbs: one that draws its secrets itself, or a member of a fleet that
knows the stored record. -/
inductive Undisturbed (s : MemoryStore) : Source → Prop
  | random (keys : Keyring) (generator : Generator) (schedule : Option Schedule) :
      Undisturbed s (.random keys generator schedule)
  | fleet {m : Member} {record : SecretRecord} (schedule : Option Schedule)
      (hReads : Fleet.Reads (s.find? m.path) m.version record)
      (hAgrees : m.Agrees m.version record) : Undisturbed s (.fleet m schedule)

variable {s : MemoryStore} {source : Source}

/-- A rotation puts a new secret in effect, keeps the one that was as the previous one, and leaves a
source that nobody has disturbed. -/
theorem Undisturbed.roll (h : Undisturbed s source) :
    let next := source.roll MemoryStore.asStore s
    Undisturbed next.2 next.1 ∧ ∃ secret, next.1.keys = source.keys.rotate secret := by
  cases h with
  | random keys generator schedule => exact ⟨.random _ _ _, generator.secret, rfl⟩
  | @fleet m record schedule hReads hAgrees =>
    obtain ⟨s', hRolled, hStored⟩ :=
      Member.roll_of_reliable (MemoryStore.reliable m.path) hReads hAgrees
    have hRoll : (Source.fleet m schedule).roll MemoryStore.asStore s =
        (.fleet (m.promote.spent.adopt (m.version + 1) m.promote.offer) schedule, s') :=
      congrArg (fun rolled => (Source.fleet rolled.1 schedule, rolled.2)) hRolled
    rw [hRoll]
    exact ⟨.fleet schedule hStored (Member.agrees_adopt ..), m.next, rfl⟩

theorem Undisturbed.rolled (h : Undisturbed s source) (n : ℕ) :
    Undisturbed (source.rolled MemoryStore.asStore s n).2
      (source.rolled MemoryStore.asStore s n).1 := by
  induction n with
  | zero => exact h
  | succ n ih => exact ih.roll.1

/-- Between two rotations that follow each other, the secret in effect becomes the previous one. -/
theorem Undisturbed.previous_rolled (h : Undisturbed s source) (n : ℕ) :
    (source.rolled MemoryStore.asStore s (n + 1)).1.keys.previous =
      some (source.rolled MemoryStore.asStore s n).1.keys.current := by
  obtain ⟨-, secret, hKeys⟩ := (h.rolled n).roll
  exact congrArg Keyring.previous hKeys

theorem undisturbed_withSchedule (schedule : Option Schedule) (h : Undisturbed s source) :
    Undisturbed s (source.withSchedule schedule) := by
  cases h with
  | random => exact .random _ _ _
  | fleet _ hReads hAgrees => exact .fleet _ hReads hAgrees

theorem undisturbed_join {path : String} {validity : Duration} {now : Int64} {generator : Generator}
    {m : Member} {s' : MemoryStore}
    (h : Member.join MemoryStore.asStore path validity now generator s = (.ok m, s')) :
    Undisturbed s' (.fleet m none) := by
  obtain ⟨-, rfl, -, record, hReads, hAgrees⟩ := Member.inStep_join (MemoryStore.reliable path) h
  exact .fleet none hReads hAgrees

theorem undisturbed_joinFleet {path : String} {validity : Duration} {now : Int64}
    {generator : Generator} {clock : ℕ} {isScheduled : Bool} {s' : MemoryStore}
    (h : joinFleet MemoryStore.asStore path validity now generator clock isScheduled s =
      (.ok source, s')) : Undisturbed s' source := by
  unfold joinFleet at h
  split at h
  · cases h
  · rename_i m joined hJoin
    have hAlone := undisturbed_join hJoin
    dsimp only at h
    split at h
    · obtain ⟨hSource, rfl⟩ := Prod.mk.inj h
      obtain ⟨schedule, -, rfl⟩ := map_eq_ok_iff.mp hSource
      exact undisturbed_withSchedule _ hAlone
    · cases h
      exact hAlone

end Source

end SignOn
