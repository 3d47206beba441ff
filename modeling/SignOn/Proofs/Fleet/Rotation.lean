import SignOn.Fleet.Member
import SignOn.Proofs.Fleet.RecordCodec

/-!
# Members and records

How a member stands to a record of its fleet. Between two rotations it agrees with the record that
it read last; after its promotion, and until it reads again, it is one secret ahead of that record.
What it offers then is a successor of the record, and what it offers can always be read.
-/

namespace SignOn

open SignOn.Text (Bytes)

/-! ## Successors -/

namespace SecretRecord

/-- The secrets that a record puts in effect. -/
def keyring (r : SecretRecord) : Keyring :=
  ⟨r.current, r.previous⟩

/-- The record `r'` has the secrets of `r` after one rotation. -/
def Precedes (r r' : SecretRecord) : Prop :=
  r'.keyring = r.keyring.rotate r.next

theorem Storable.isSecret_next {r : SecretRecord} (h : r.Storable) : IsSecret r.next :=
  h r.next (List.mem_cons_self ..)

/-- The secrets after a rotation were in the record before. -/
theorem Storable.isSecret_rotate {r : SecretRecord} (h : r.Storable) :
    ∀ secret ∈ (r.keyring.rotate r.next).secrets, IsSecret secret := by
  intro secret hMem
  rcases List.mem_cons.mp hMem with rfl | hCurrent
  · exact h.isSecret_next
  · obtain rfl := List.mem_singleton.mp hCurrent
    exact h r.current (List.mem_cons_of_mem _ (List.mem_cons_self ..))

end SecretRecord

/-! ## Standing -/

theorem Generator.isSecret_secret (g : Generator) : SecretRecord.IsSecret g.secret := by
  have hLength : g.secret.length = 32 := by
    rw [secret, Vector.length_toList]
  constructor
  · intro hEmpty
    rw [hEmpty] at hLength
    cases hLength
  · omega

namespace Member

/-- The member with the next secret drawn. -/
def spent (m : Member) : Member :=
  { m with generator := m.generator.advance }

/-- The member has what the record says. -/
structure Agrees (m : Member) (version : Int64) (record : SecretRecord) : Prop where
  version : m.version = version
  next : m.next = record.next
  nextRollover : m.nextRollover = record.nextRollover
  keys : m.keys = record.keyring

/-- The member has promoted the secret that the record announces. -/
structure Ahead (m : Member) (version : Int64) (record : SecretRecord) : Prop where
  version : m.version = version
  next : m.next = record.next
  nextRollover : m.nextRollover = record.nextRollover + m.interval
  keys : m.keys = record.keyring.rotate record.next

variable {m : Member} {version : Int64} {record : SecretRecord}

theorem agrees_ofRecord (path : String) (interval : Int64) (generator : Generator)
    (version : Int64) (record : SecretRecord) :
    (ofRecord path interval generator version record).Agrees version record :=
  ⟨rfl, rfl, rfl, rfl⟩

theorem agrees_adopt (m : Member) (version : Int64) (record : SecretRecord) :
    (m.adopt version record).Agrees version record :=
  ⟨rfl, rfl, rfl, rfl⟩

theorem Agrees.promote (h : m.Agrees version record) : m.promote.Ahead version record where
  version := h.version
  next := h.next
  nextRollover := by rw [Member.promote, h.nextRollover]
  keys := by rw [Member.promote, h.keys, h.next]

theorem Ahead.spent (h : m.Ahead version record) : m.spent.Ahead version record :=
  ⟨h.version, h.next, h.nextRollover, h.keys⟩

theorem Ahead.offer_keyring (h : m.Ahead version record) : record.Precedes m.offer :=
  h.keys

/-- What a member offers can be read if its own secrets can stand in a record. -/
theorem offer_storable (h : ∀ secret ∈ m.keys.secrets, SecretRecord.IsSecret secret) :
    m.offer.Storable := by
  intro secret hMem
  rcases List.mem_cons.mp hMem with rfl | hKeys
  · exact m.generator.isSecret_secret
  · exact h secret hKeys

theorem Ahead.offer_storable (h : m.Ahead version record) (hStorable : record.Storable) :
    m.offer.Storable := by
  apply Member.offer_storable
  rw [h.keys]
  exact hStorable.isSecret_rotate

/-- The record that founds a fleet can be read. -/
theorem founding_storable (generator : Generator) (deadline : Int64) :
    (founding generator deadline).1.Storable := by
  intro secret hMem
  rcases List.mem_cons.mp hMem with rfl | hCurrent
  · exact Generator.isSecret_secret _
  · obtain rfl := List.mem_singleton.mp hCurrent
    exact Generator.isSecret_secret _

end Member

end SignOn
