import SignOn.Keyring.Provider
import SignOn.Proofs.Fleet.Rotation
import SignOn.Proofs.Result
import SignOn.Proofs.Session.Signature

/-!
# No secret is empty

With an empty secret everybody could sign. A fixed secret is checked when its source is made, and a
drawn one has 32 bytes. A member of a fleet takes its secrets from a store that may answer anything;
but it only takes whole records, and the reader of records refuses empty secrets. A promotion puts
nothing in effect that the member did not have, so it is enough to look at all secrets that a source
holds, the announced one included (`Source.held`).

`Source.Reachable` are the sources at all moments of all runs, and
`Source.Reachable.no_empty_secret` says that none of them signs with an empty secret or accepts one.
-/

namespace SignOn

open SignOn.Text (Bytes)

variable {σ : Type}

/-! ## Members of a fleet -/

theorem SecretRecord.Storable.nil_not_mem {record : SecretRecord} (h : record.Storable) :
    [] ∉ record.secrets := by
  intro hMem
  exact (h [] hMem).1 rfl

namespace Member

/-- The secrets that a member has: those in effect and the announced one. -/
def held (m : Member) : List Bytes :=
  m.next :: m.keys.secrets

theorem held_promote_subset (m : Member) : m.promote.held ⊆ m.held := by
  intro secret hMem
  simp only [held, promote, Keyring.rotate, Keyring.secrets, Option.toList_some, List.mem_cons,
    List.not_mem_nil, or_false] at hMem ⊢
  rcases hMem with rfl | rfl | rfl <;> simp

theorem held_push (store : Store σ) (m : Member) (s : σ) : (m.push store s).1.held = m.held := rfl

/-- Whatever the store answers, what is taken for a record is one that could have been stored. -/
theorem storable_of_readRecord {store : Store σ} {path : String} {s s' : σ} {version : Int64}
    {record : SecretRecord} (h : readRecord store path s = (.ok (version, record), s')) :
    record.Storable := by
  unfold readRecord at h
  split at h
  · cases h
  · split at h
    · rename_i hDecode
      cases h
      exact SecretRecord.storable_of_decode hDecode
    · cases h

/-- The secrets held after reading are those held before or those of a record. -/
theorem held_pull (store : Store σ) (m : Member) (s : σ) :
    (m.pull store s).1.held = m.held ∨
      ∃ record : SecretRecord, record.Storable ∧ (m.pull store s).1.held = record.secrets := by
  unfold pull
  split
  · rename_i record _ hRead
    exact .inr ⟨record, storable_of_readRecord hRead, rfl⟩
  · exact .inl rfl

/-- A rotation that gets as far as its promotion, its attempt to write or its end brings no empty
secret in. -/
theorem nil_not_mem_held_roll (store : Store σ) {m : Member} (s : σ) (h : [] ∉ m.held) :
    [] ∉ m.promote.held ∧ [] ∉ (m.promote.push store s).1.held ∧ [] ∉ (m.roll store s).1.held := by
  have hPromoted : [] ∉ m.promote.held := fun hMem => h (held_promote_subset m hMem)
  have hPushed : [] ∉ (m.promote.push store s).1.held := by
    rw [held_push]
    exact hPromoted
  refine ⟨hPromoted, hPushed, ?_⟩
  unfold roll
  rcases held_pull store (m.promote.push store s).1 (m.promote.push store s).2 with
    hKept | ⟨record, hStorable, hRead⟩
  · rw [hKept]
    exact hPushed
  · rw [hRead]
    exact hStorable.nil_not_mem

theorem held_join {store : Store σ} {path : String} {validity : Duration} {now : Int64}
    {generator : Generator} {s s' : σ} {m : Member}
    (h : join store path validity now generator s = (.ok m, s')) :
    ∃ record : SecretRecord, record.Storable ∧ m.held = record.secrets := by
  unfold join at h
  dsimp only at h
  split at h
  · cases h
  · split at h
    · cases h
    · unfold enroll at h
      split at h
      · rename_i record _ hRead
        cases h
        exact ⟨record, storable_of_readRecord hRead, rfl⟩
      · cases h

end Member

/-! ## Sources -/

namespace Source

/-- The secrets that a source has: those in effect and, in a fleet, the announced one. -/
def held : Source → List Bytes
  | .constant keys => keys.secrets
  | .random keys _ _ => keys.secrets
  | .fleet m _ => m.held

/-- The sources at all moments of all runs. A store that is asked on the way may answer anything,
and another one may answer the next time. Closing a source breaks off a rotation that waits for the
store, so a rotation may end with its promotion, or with its attempt to write. -/
inductive Reachable : Source → Prop
  | ofSecret {secret : Bytes} {source : Source} (h : ofSecret secret = .ok source) :
      Reachable source
  | ofFile {files : Files} {path : String} {source : Source}
      (h : Provision.ofFile files path = .ok source) : Reachable source
  | random (generator : Generator) : Reachable (startRandom generator)
  | joined {σ : Type} {store : Store σ} {path : String} {validity : Duration} {now : Int64}
      {generator : Generator} {clock : ℕ} {isScheduled : Bool} {s s' : σ} {source : Source}
      (h : joinFleet store path validity now generator clock isScheduled s = (.ok source, s')) :
      Reachable source
  | scheduled (schedule : Option Schedule) {source : Source} (h : Reachable source) :
      Reachable (source.withSchedule schedule)
  | rolled {σ : Type} (store : Store σ) (s : σ) {source : Source} (h : Reachable source) :
      Reachable (source.roll store s).1
  | promoted {m : Member} {schedule : Option Schedule} (h : Reachable (.fleet m schedule)) :
      Reachable (.fleet m.promote schedule)
  | pushed {σ : Type} (store : Store σ) (s : σ) {m : Member} {schedule : Option Schedule}
      (h : Reachable (.fleet m schedule)) : Reachable (.fleet (m.promote.push store s).1 schedule)

variable {source : Source}

theorem secrets_subset_held (source : Source) : source.keys.secrets ⊆ source.held := by
  cases source with
  | constant keys => exact List.Subset.refl _
  | random keys generator schedule => exact List.Subset.refl _
  | fleet m schedule => exact List.subset_cons_self _ _

theorem held_withSchedule (source : Source) (schedule : Option Schedule) :
    (source.withSchedule schedule).held = source.held := by
  cases source <;> rfl

theorem nil_not_mem_held_ofSecret {secret : Bytes} (h : ofSecret secret = .ok source) :
    [] ∉ source.held := by
  obtain ⟨keys, hKeys, rfl⟩ := map_eq_ok_iff.mp h
  unfold Keyring.make at hKeys
  split at hKeys
  · cases hKeys
  · rename_i hSecret
    cases hKeys
    intro hMem
    rcases List.mem_singleton.mp hMem with rfl
    exact hSecret rfl

theorem nil_not_mem_held_ofFile {files : Files} {path : String}
    (h : Provision.ofFile files path = .ok source) : [] ∉ source.held := by
  unfold Provision.ofFile at h
  split at h
  · cases h
  · dsimp only at h
    split at h
    · cases h
    · exact nil_not_mem_held_ofSecret h

theorem nil_not_mem_held_joinFleet {store : Store σ} {path : String} {validity : Duration}
    {now : Int64} {generator : Generator} {clock : ℕ} {isScheduled : Bool} {s s' : σ}
    (h : joinFleet store path validity now generator clock isScheduled s = (.ok source, s')) :
    [] ∉ source.held := by
  unfold joinFleet at h
  split at h
  · cases h
  · rename_i m joined hJoin
    obtain ⟨record, hStorable, hHeld⟩ := Member.held_join hJoin
    have hMember : [] ∉ m.held := by
      rw [hHeld]
      exact hStorable.nil_not_mem
    dsimp only at h
    split at h
    · obtain ⟨hSource, rfl⟩ := Prod.mk.inj h
      obtain ⟨schedule, -, rfl⟩ := map_eq_ok_iff.mp hSource
      exact hMember
    · cases h
      exact hMember

theorem nil_not_mem_held_roll (store : Store σ) (s : σ) (h : [] ∉ source.held) :
    [] ∉ (source.roll store s).1.held := by
  cases source with
  | constant keys => exact h
  | random keys generator schedule =>
    intro hMem
    rcases List.mem_cons.mp hMem with hNew | hOld
    · exact generator.isSecret_secret.1 hNew.symm
    · exact h (List.mem_cons.mpr (.inl (List.mem_singleton.mp hOld)))
  | fleet m schedule => exact (m.nil_not_mem_held_roll store s h).2.2

/-- No source comes to hold an empty secret, at no moment of any run. -/
theorem Reachable.nil_not_mem_held (h : Reachable source) : [] ∉ source.held := by
  induction h with
  | ofSecret h => exact nil_not_mem_held_ofSecret h
  | ofFile h => exact nil_not_mem_held_ofFile h
  | random generator =>
    intro hMem
    exact generator.isSecret_secret.1 (List.mem_singleton.mp hMem).symm
  | joined h => exact nil_not_mem_held_joinFleet h
  | scheduled schedule _ ih =>
    rw [held_withSchedule]
    exact ih
  | rolled store s _ ih => exact nil_not_mem_held_roll store s ih
  | promoted _ ih => exact fun hMem => ih (Member.held_promote_subset _ hMem)
  | pushed store s _ ih => exact (Member.nil_not_mem_held_roll store s ih).2.1

/-! ## Runs -/

theorem Reachable.ticks (store : Store σ) (n : ℕ) (s : σ) (h : Reachable source) :
    Reachable (source.ticks store n s).1 := by
  induction n generalizing source s with
  | zero => exact h
  | succ n ih => exact ih _ (.scheduled _ (h.rolled store s))

/-- Letting time pass leads from such a source to such a source. -/
theorem Reachable.runUntil (store : Store σ) (now : ℕ) (s : σ) (h : Reachable source) :
    Reachable (source.runUntil store now s).1 :=
  h.ticks store _ s

/-- The sources that a configuration starts are among them. -/
theorem reachable_of_start {files : Files} {hasStore : Bool} {props : Properties}
    {provision : Provision} {connect : StoreSettings → Except StoreFault (Store σ)}
    {validity : Duration} {now : Int64} {generator : Generator} {clock : ℕ} {s s' : σ}
    (hProvision : Provision.ofProperties files hasStore props = .ok provision)
    (h : provision.start connect validity now generator clock s = (.ok source, s')) :
    Reachable source := by
  cases provision with
  | constant made =>
    cases h
    obtain ⟨kind, -, hMade⟩ := bind_eq_ok_iff.mp hProvision
    cases kind with
    | constant =>
      obtain ⟨secret, -, hMade⟩ := bind_eq_ok_iff.mp hMade
      obtain ⟨source, hSource, hMade⟩ := bind_eq_ok_iff.mp hMade
      cases hMade
      exact .ofSecret hSource
    | file =>
      obtain ⟨path, -, hMade⟩ := bind_eq_ok_iff.mp hMade
      obtain ⟨source, hSource, hMade⟩ := bind_eq_ok_iff.mp hMade
      cases hMade
      exact .ofFile hSource
    | random => cases hMade
    | fleet =>
      dsimp only at hMade
      split at hMade
      · obtain ⟨settings, -, hMade⟩ := bind_eq_ok_iff.mp hMade
        cases hMade
      · cases hMade
  | random =>
    obtain ⟨hSource, -⟩ := Prod.mk.inj h
    obtain ⟨schedule, -, rfl⟩ := map_eq_ok_iff.mp hSource
    exact .scheduled _ (.random generator)
  | fleet settings =>
    unfold Provision.start at h
    dsimp only at h
    split at h
    · cases h
    · exact .joined h

/-- **No source ever signs with an empty secret or accepts one.** Whatever the source is and however
its run went on, and if a store was asked, whatever the store answered: the current secret is not
empty, nor is the previous one if there is one; these are the secrets in effect, the current one
first; and what is signed or accepted carries the code under one of them. -/
theorem Reachable.no_empty_secret (h : Reachable source) :
    source.keys.current ≠ [] ∧ (∀ previous, source.keys.previous = some previous → previous ≠ []) ∧
      ((source.keys.previous = none ∧ source.keys.secrets = [source.keys.current]) ∨
        ∃ previous, source.keys.previous = some previous ∧
          source.keys.secrets = [source.keys.current, previous]) ∧
      (∀ secret ∈ source.keys.secrets, secret ≠ []) ∧
      ∀ payload signed, Signature.sign source.keys payload = .ok signed ∨
          Signature.verify source.keys signed = .ok payload →
        ∃ secret ∈ source.keys.secrets, secret ≠ [] ∧
          signed = payload ++ Signature.mark ++ Signature.code secret payload := by
  have hSecrets : ∀ secret ∈ source.keys.secrets, secret ≠ [] := by
    rintro secret hMem rfl
    exact h.nil_not_mem_held (secrets_subset_held source hMem)
  have hCurrent : source.keys.current ≠ [] := hSecrets _ (Keyring.mem_secrets.mpr (.inl rfl))
  refine ⟨hCurrent, ?_, ?_, hSecrets, ?_⟩
  · intro previous hPrevious
    exact hSecrets _ (Keyring.mem_secrets.mpr (.inr hPrevious))
  · unfold Keyring.secrets
    cases source.keys.previous with
    | none => exact .inl ⟨rfl, rfl⟩
    | some previous => exact .inr ⟨previous, rfl, rfl⟩
  · rintro payload signed (hSign | hVerify)
    · unfold Signature.sign at hSign
      split at hSign
      · cases hSign
      · cases hSign
        exact ⟨source.keys.current, Keyring.mem_secrets.mpr (.inl rfl), hCurrent, rfl⟩
    · obtain ⟨secret, hMem, hSigned⟩ := Signature.verify_eq_ok_iff.mp hVerify
      exact ⟨secret, hMem, hSecrets secret hMem, hSigned⟩

end Source

/-- A store that everybody can write to, and that shows a record once and spoils it then. -/
def Store.spoiled : Store ℕ where
  create n _ _ := (.error .alreadyExists, n)
  get n _ :=
    (.ok ⟨SecretRecord.encode ⟨[1], if n = 0 then [2] else [], none, 0⟩, -1⟩, n + 1)
  set n _ _ _ := (.ok 7, n)

/-- A member that joined over a store that shows a proper record once and then an empty secret only,
after its promotion and after the whole rotation. -/
theorem Source.Reachable.no_empty_secret_spoiled :
    ∃ m s, Source.joinFleet Store.spoiled "/secrets" (.ofSeconds 1) 0
        ⟨fun n => Vector.replicate 32 n.toUInt8, 0⟩ 0 false 0 = (.ok (.fleet m none), s) ∧
      (∀ secret ∈ m.promote.keys.secrets, secret ≠ []) ∧
      ∀ secret ∈ ((Source.fleet m none).roll Store.spoiled s).1.keys.secrets, secret ≠ [] := by
  have hJoin : ∃ m s, Source.joinFleet Store.spoiled "/secrets" (.ofSeconds 1) 0
      ⟨fun n => Vector.replicate 32 n.toUInt8, 0⟩ 0 false 0 = (.ok (.fleet m none), s) :=
    ⟨_, _, rfl⟩
  obtain ⟨m, s, hJoin⟩ := hJoin
  have hMember : Source.Reachable (.fleet m none) := .joined hJoin
  obtain ⟨-, -, -, hPromoted, -⟩ := no_empty_secret hMember.promoted
  obtain ⟨-, -, -, hRolled, -⟩ := no_empty_secret (hMember.rolled Store.spoiled s)
  exact ⟨m, s, hJoin, hPromoted, hRolled⟩

end SignOn
