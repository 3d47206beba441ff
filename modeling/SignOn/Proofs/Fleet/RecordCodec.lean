import Mathlib.Algebra.Group.Nat.Defs
import SignOn.Fleet.Record
import SignOn.Proofs.Result
import SignOn.Proofs.Text.BigEndian

/-!
# Reading and writing records

What the reader of records accepts: a version number that is not above zero, the body as it is
written, and anything behind (`decode_eq_ok_iff`). So a record that can be stored at all is read as
it was written (`decode_encode`), and what is read can be stored again (`storable_of_decode`). The
lemmas follow the layout: numbers, then secrets, then the record. `decoding_exact` says it with the
writer of whole records, and adds that no part of a record passes for one.
-/

namespace SignOn

open SignOn.Text (Bytes)

namespace SecretRecord

open Text.BigEndian

/-! ## Numbers -/

theorem takeInt32_eq_ok_iff {bytes rest : Bytes} {n : Int32} :
    takeInt32 bytes = .ok (n, rest) ↔ bytes = ofInt32 n ++ rest := by
  unfold takeInt32
  constructor
  · intro h
    split at h
    · cases h
    · rename_i hLen
      cases h
      rw [ofInt32_toInt32 (by rw [List.length_take]; omega), List.take_append_drop]
  · rintro rfl
    have hLen : ¬ (ofInt32 n ++ rest).length < 4 := by
      rw [List.length_append, length_ofInt32]
      omega
    rw [if_neg hLen, List.take_left' (length_ofInt32 n), List.drop_left' (length_ofInt32 n),
      toInt32_ofInt32]

theorem takeInt64_eq_ok_iff {bytes rest : Bytes} {n : Int64} :
    takeInt64 bytes = .ok (n, rest) ↔ bytes = ofInt64 n ++ rest := by
  unfold takeInt64
  constructor
  · intro h
    split at h
    · cases h
    · rename_i hLen
      cases h
      rw [ofInt64_toInt64 (by rw [List.length_take]; omega), List.take_append_drop]
  · rintro rfl
    have hLen : ¬ (ofInt64 n ++ rest).length < 8 := by
      rw [List.length_append, length_ofInt64]
      omega
    rw [if_neg hLen, List.take_left' (length_ofInt64 n), List.drop_left' (length_ofInt64 n),
      toInt64_ofInt64]

/-! ## Secrets -/

/-- A secret is taken off the front exactly if it stands there behind its length. -/
theorem takeSecret_eq_ok_iff {bytes secret rest : Bytes} :
    takeSecret bytes = .ok (secret, rest) ↔
      secret.length < 2 ^ 31 ∧ bytes = encodeSecret secret ++ rest := by
  unfold takeSecret
  rw [bind_eq_ok_iff]
  constructor
  · rintro ⟨⟨length, behind⟩, hLength, h⟩
    rw [takeInt32_eq_ok_iff] at hLength
    dsimp only at h
    split at h
    · cases h
    · rename_i hFits
      rw [not_or, Int32.not_lt, Nat.not_lt] at hFits
      obtain ⟨hNonneg, hFits⟩ := hFits
      cases h
      have hLen : (behind.take length.toInt.toNat).length = length.toInt.toNat := by
        rw [List.length_take]
        omega
      have hBack : Int32.ofNat length.toInt.toNat = length :=
        Int32.ofNat_toNatClampNeg length hNonneg
      have hLt := length.toInt_lt
      refine ⟨by omega, ?_⟩
      rw [encodeSecret, hLen, hBack, List.append_assoc, List.take_append_drop, hLength]
  · rintro ⟨hLt, rfl⟩
    have hInt : (Int32.ofNat secret.length).toInt = secret.length := Int32.toInt_ofNat_of_lt hLt
    refine ⟨(Int32.ofNat secret.length, secret ++ rest), ?_, ?_⟩
    · rw [takeInt32_eq_ok_iff, encodeSecret, List.append_assoc]
    · have hFits : ¬ (Int32.ofNat secret.length < 0 ∨
          (secret ++ rest).length < (Int32.ofNat secret.length).toInt.toNat) := by
        rw [Int32.lt_iff_toInt_lt, hInt, List.length_append, Int32.toInt_zero]
        omega
      dsimp only
      rw [if_neg hFits, hInt, Int.toNat_natCast, List.take_left, List.drop_left]

/-! ## Records -/

/-- A byte string that can stand in a record as a secret. -/
def IsSecret (secret : Bytes) : Prop :=
  secret ≠ [] ∧ secret.length < 2 ^ 31

/-- The secrets of a record. -/
def secrets (r : SecretRecord) : List Bytes :=
  r.next :: r.current :: r.previous.toList

/-- A record that can be stored: its secrets are not empty, and their lengths can be written. -/
def Storable (r : SecretRecord) : Prop :=
  ∀ secret ∈ r.secrets, IsSecret secret

theorem storable_iff {r : SecretRecord} :
    r.Storable ↔ IsSecret r.next ∧ IsSecret r.current ∧
      ∀ secret, r.previous = some secret → IsSecret secret := by
  simp [Storable, secrets]

/-- The previous secret as it is written, read back. -/
theorem previous_eq_iff {previous : Option Bytes} {written : Bytes} :
    previous = (if written.isEmpty then none else some written) ↔
      written = previous.getD [] ∧ previous ≠ some [] := by
  by_cases hw : written = []
  · subst hw
    cases previous <;> simp [eq_comm]
  · rw [if_neg (by rwa [List.isEmpty_iff])]
    constructor
    · rintro rfl
      exact ⟨rfl, fun h => hw (Option.some.inj h)⟩
    · rintro ⟨rfl, -⟩
      cases previous with
      | none => exact absurd rfl hw
      | some secret => rfl

/-- The reader accepts the records that can be stored, as they are written, behind a version number
that is not above the newest one; what follows does not matter. -/
theorem decode_eq_ok_iff {bytes : Bytes} {r : SecretRecord} :
    decode bytes = .ok r ↔ r.Storable ∧ ∃ version behind, version ≤ layout ∧
      bytes = ofInt32 version ++ r.encodeBody ++ behind := by
  unfold decode
  simp only [bind_eq_ok_iff, guard_eq_ok_iff, Prod.exists, takeInt32_eq_ok_iff,
    takeSecret_eq_ok_iff, takeInt64_eq_ok_iff, Int32.not_lt]
  constructor
  · rintro ⟨version, _, rfl, hVersion, next, _, ⟨hNext, rfl⟩, current, _, ⟨hCurrent, rfl⟩,
      previous, _, ⟨hPrevious, rfl⟩, nextRollover, behind, rfl, hNe, h⟩
    cases h
    simp only [Bool.or_eq_true, List.isEmpty_iff, not_or] at hNe
    obtain ⟨hWritten, hSome⟩ := previous_eq_iff.mp (rfl :
      (if previous.isEmpty then none else some previous) = _)
    refine ⟨storable_iff.mpr ⟨⟨hNe.1, hNext⟩, ⟨hNe.2, hCurrent⟩, ?_⟩, version, behind, hVersion, ?_⟩
    · rintro secret hSecret
      dsimp only at hSecret
      rw [hSecret] at hWritten hSome
      refine ⟨fun h => hSome (congrArg some h), ?_⟩
      rw [hWritten] at hPrevious
      exact hPrevious
    · simp only [encodeBody, ← hWritten, List.append_assoc]
  · rintro ⟨hStorable, version, behind, hVersion, rfl⟩
    obtain ⟨hNext, hCurrent, hPrevious⟩ := storable_iff.mp hStorable
    have hSome : r.previous ≠ some [] := fun h => (hPrevious [] h).1 rfl
    have hLen : (r.previous.getD []).length < 2 ^ 31 := by
      cases hr : r.previous with
      | none => decide
      | some secret => exact (hPrevious secret hr).2
    refine ⟨version, _, List.append_assoc _ _ _, hVersion, r.next, _, ⟨hNext.2, ?_⟩, r.current, _,
      ⟨hCurrent.2, rfl⟩, r.previous.getD [], _, ⟨hLen, rfl⟩, r.nextRollover, behind, rfl, ?_, ?_⟩
    · simp only [encodeBody, List.append_assoc]
    · simp only [Bool.or_eq_true, List.isEmpty_iff, not_or]
      exact ⟨hNext.1, hCurrent.1⟩
    · rw [← previous_eq_iff.mpr ⟨rfl, hSome⟩]

/-- A record that can be stored is read as it was written. -/
theorem decode_encode {r : SecretRecord} (h : r.Storable) : decode r.encode = .ok r :=
  decode_eq_ok_iff.mpr ⟨h, layout, [], Int32.le_refl _, by rw [encode, List.append_nil]⟩

/-- Only records that can be stored are read. -/
theorem storable_of_decode {bytes : Bytes} {r : SecretRecord} (h : decode bytes = .ok r) :
    r.Storable :=
  (decode_eq_ok_iff.mp h).1

/-! ## No more and no less -/

theorem drop_encode (r : SecretRecord) : r.encode.drop 4 = r.encodeBody := by
  rw [encode, List.drop_left' (length_ofInt32 layout)]

theorem decode_append {bytes : Bytes} {r : SecretRecord} (h : decode bytes = .ok r)
    (more : Bytes) : decode (bytes ++ more) = .ok r := by
  obtain ⟨hStorable, version, behind, hVersion, rfl⟩ := decode_eq_ok_iff.mp h
  exact decode_eq_ok_iff.mpr ⟨hStorable, version, behind ++ more, hVersion, List.append_assoc ..⟩

theorem length_encode_le {bytes : Bytes} {r : SecretRecord} (h : decode bytes = .ok r) :
    r.encode.length ≤ bytes.length := by
  obtain ⟨-, version, behind, -, rfl⟩ := decode_eq_ok_iff.mp h
  simp only [encode, List.length_append, length_ofInt32]
  omega

/-- A record that was cut off is not read, wherever it was cut. -/
theorem decode_of_front {r : SecretRecord} (h : r.Storable) {front : Bytes}
    (hFront : front <+: r.encode) (hNe : front ≠ r.encode) : ∃ fault, decode front = .error fault := by
  cases hRead : decode front with
  | error fault => exact ⟨fault, rfl⟩
  | ok found =>
    -- What is read from the front is read from the whole as well, and that is `r` itself.
    obtain ⟨rest, hRest⟩ := hFront
    have hWhole := decode_append hRead rest
    rw [hRest, decode_encode h] at hWhole
    have hSame : r = found := Except.ok.inj hWhole
    have hLong := length_encode_le hRead
    rw [← hSame] at hLong
    exact absurd (List.IsPrefix.eq_of_length_le ⟨rest, hRest⟩ hLong) hNe

/-- **The reader accepts what the writer writes, and nothing else.** A byte string is read as a
record exactly if none of its secrets is empty or too long to be written, and the string is a number
in four bytes that is not above zero, the record as it is written but for its first four bytes, and
anything behind. So a record that can be written is read as it was, and no shorter beginning of it
is read as anything. -/
theorem decoding_exact (r : SecretRecord) :
    (∀ bytes, decode bytes = .ok r ↔ r.Storable ∧ ∃ number behind, number.length = 4 ∧
      toInt32 number ≤ 0 ∧ bytes = number ++ r.encode.drop 4 ++ behind) ∧
    (r.Storable → decode r.encode = .ok r ∧
      ∀ front, front <+: r.encode → front ≠ r.encode → ∃ fault, decode front = .error fault) := by
  constructor
  · intro bytes
    rw [decode_eq_ok_iff, drop_encode]
    constructor
    · rintro ⟨hStorable, version, behind, hVersion, hBytes⟩
      refine ⟨hStorable, ofInt32 version, behind, length_ofInt32 version, ?_, hBytes⟩
      rw [toInt32_ofInt32]
      exact hVersion
    · rintro ⟨hStorable, number, behind, hLength, hNumber, hBytes⟩
      refine ⟨hStorable, toInt32 number, behind, hNumber, ?_⟩
      rw [ofInt32_toInt32 hLength]
      exact hBytes
  · intro hStorable
    refine ⟨decode_encode hStorable, ?_⟩
    intro front hFront hNe
    exact decode_of_front hStorable hFront hNe

/-- A record with a previous secret of one byte that was cut off in its deadline. -/
theorem decoding_exact_cut :
    ∃ r : SecretRecord, r.Storable ∧ decode r.encode = .ok r ∧
      ∃ fault, decode (r.encode.take 20) = .error fault := by
  let r : SecretRecord := ⟨[1, 2], [3], some [0], -1⟩
  have hStorable : r.Storable := by
    intro secret hMem
    simp only [secrets, r, Option.toList_some, List.mem_cons, List.not_mem_nil, or_false] at hMem
    rcases hMem with rfl | rfl | rfl <;> exact ⟨by decide, by decide⟩
  obtain ⟨hRead, hCut⟩ := (decoding_exact r).2 hStorable
  exact ⟨r, hStorable, hRead, hCut _ (List.take_prefix ..) (by decide)⟩

end SecretRecord

end SignOn
