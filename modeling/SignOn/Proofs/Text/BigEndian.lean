import Mathlib.Algebra.Group.Nat.Defs
import SignOn.Text.BigEndian

/-!
# Numbers of a fixed width

A number that fits into the bytes it is given is read back from them (`read_write`), and bytes are
written back as they were (`write_read`). So the four or eight bytes of a machine integer and the
integer determine each other.
-/

namespace SignOn.Text.BigEndian

theorem length_write (width n : Nat) : (write width n).length = width := by
  induction width generalizing n with
  | zero => rfl
  | succ width ih => rw [write, List.length_append, ih, List.length_singleton]

theorem read_append (bytes : Bytes) (b : UInt8) :
    read (bytes ++ [b]) = 256 * read bytes + b.toNat := by
  simp [read]

theorem read_write (width n : Nat) : read (write width n) = n % 256 ^ width := by
  induction width generalizing n with
  | zero => simp [write, read, Nat.mod_one]
  | succ width ih =>
    have hPow : 256 ^ (width + 1) = 256 * 256 ^ width := by rw [Nat.pow_succ, Nat.mul_comm]
    rw [write, read_append, ih, UInt8.toNat_ofNat', hPow, Nat.mod_mul, Nat.add_comm]

theorem write_read (bytes : Bytes) : write bytes.length (read bytes) = bytes := by
  induction h : bytes.length generalizing bytes with
  | zero => rw [List.length_eq_zero_iff.mp h, write]
  | succ n ih =>
    rcases List.eq_nil_or_concat bytes with rfl | ⟨front, b, rfl⟩
    · cases h
    rw [List.concat_eq_append] at h ⊢
    have hLen : front.length = n := by simpa using h
    have hb : b.toNat < 256 := b.toNat_lt
    rw [write, read_append]
    have hDiv : (256 * read front + b.toNat) / 256 = read front := by omega
    have hMod : UInt8.ofNat (256 * read front + b.toNat) = b := by
      apply UInt8.toNat_inj.mp
      rw [UInt8.toNat_ofNat']
      omega
    rw [hDiv, hMod, ih front hLen]

theorem read_lt (bytes : Bytes) : read bytes < 256 ^ bytes.length := by
  have h := read_write bytes.length (read bytes)
  rw [write_read] at h
  rw [h]
  exact Nat.mod_lt _ (Nat.pow_pos (by decide))

theorem length_ofInt32 (n : Int32) : (ofInt32 n).length = 4 := length_write _ _

theorem length_ofInt64 (n : Int64) : (ofInt64 n).length = 8 := length_write _ _

theorem toInt32_ofInt32 (n : Int32) : toInt32 (ofInt32 n) = n := by
  have h : n.toUInt32.toNat % 256 ^ 4 = n.toUInt32.toNat :=
    Nat.mod_eq_of_lt n.toUInt32.toNat_lt
  rw [toInt32, ofInt32, read_write, h, UInt32.ofNat_toNat, Int32.toInt32_toUInt32]

theorem toInt64_ofInt64 (n : Int64) : toInt64 (ofInt64 n) = n := by
  have h : n.toUInt64.toNat % 256 ^ 8 = n.toUInt64.toNat :=
    Nat.mod_eq_of_lt n.toUInt64.toNat_lt
  rw [toInt64, ofInt64, read_write, h, UInt64.ofNat_toNat, Int64.toInt64_toUInt64]

theorem ofInt32_toInt32 {bytes : Bytes} (h : bytes.length = 4) :
    ofInt32 (toInt32 bytes) = bytes := by
  have hLt : read bytes < 2 ^ 32 := by
    have := read_lt bytes
    rw [h] at this
    exact this
  rw [ofInt32, toInt32, UInt32.toUInt32_toInt32, UInt32.toNat_ofNat_of_lt' hLt, ← h, write_read]

theorem ofInt64_toInt64 {bytes : Bytes} (h : bytes.length = 8) :
    ofInt64 (toInt64 bytes) = bytes := by
  have hLt : read bytes < 2 ^ 64 := by
    have := read_lt bytes
    rw [h] at this
    exact this
  rw [ofInt64, toInt64, UInt64.toUInt64_toInt64, UInt64.toNat_ofNat_of_lt' hLt, ← h, write_read]

end SignOn.Text.BigEndian
