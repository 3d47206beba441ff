import SignOn.Http.Percent
import SignOn.Proofs.Text.Utf8

/-!
# Escapes

A byte is written as a percent sign and two digits, and these are read as that byte, whatever
follows (`decode_encodeByte`); other bytes than percent signs stand for themselves (`decode_cons`).
What is written consists of characters that are kept and of escapes. So a character that is not
kept, and may not stand in an escape, does not stand in it (`not_mem_encode`).
-/

namespace SignOn.Http.Percent

open SignOn.Text (Bytes)

/-- The character may not stand in an escape. -/
def NotInEscape (c : Char) : Prop :=
  c ≠ '%' ∧ ∀ n < 16, c ≠ digit n

instance (c : Char) : Decidable (NotInEscape c) :=
  inferInstanceAs (Decidable (_ ∧ _))

theorem digit_bounds : ∀ n < 16, 48 ≤ (digit n).toNat ∧ (digit n).toNat ≤ 70 := by
  decide

theorem digit?_digit : ∀ n < 16, digit? (digit n) = some n := by
  decide

theorem NotInEscape.not_mem {c : Char} (h : NotInEscape c) (b : UInt8) : c ∉ encodeByte b := by
  have hByte : b.toNat < 256 := b.toNat_lt
  simp only [encodeByte, List.mem_cons, List.not_mem_nil, or_false, not_or]
  exact ⟨h.1, h.2 _ (by omega), h.2 _ (by omega)⟩

/-- A character that is neither kept nor part of an escape does not stand in what is written. -/
theorem not_mem_encode {keep : Char → Bool} {c : Char} (hKeep : keep c = false)
    (hEscape : NotInEscape c) (cs : List Char) : c ∉ encode keep cs := by
  intro hMem
  obtain ⟨d, -, hd⟩ := List.mem_flatMap.mp hMem
  unfold encodeChar at hd
  split at hd
  · rename_i hKept
    rw [List.mem_singleton.mp hd, hKept] at hKeep
    cases hKeep
  · obtain ⟨b, -, hb⟩ := List.mem_flatMap.mp hd
    exact hEscape.not_mem b hb

/-! ## Reading escapes -/

theorem decode_cons {b : UInt8} (h : b ≠ 0x25) (rest : Bytes) :
    decode (b :: rest) = b :: decode rest := by
  rw [decode.eq_def]
  split
  · rename_i hEq
    exact absurd (List.cons.inj hEq).1 h
  · rename_i hEq
    cases hEq
    rfl
  · rename_i hEq
    cases hEq

theorem byte?_digits (b : UInt8) :
    byte? (UInt8.ofNat (digit (b.toNat / 16)).toNat) (UInt8.ofNat (digit (b.toNat % 16)).toNat) =
      some b := by
  have hByte : b.toNat < 256 := b.toNat_lt
  have hDigit : ∀ n < 16, digit? (Char.ofNat (UInt8.ofNat (digit n).toNat).toNat) = some n := by
    intro n hn
    have hBounds := digit_bounds n hn
    rw [UInt8.toNat_ofNat', Nat.mod_eq_of_lt (by omega), Char.ofNat_toNat]
    exact digit?_digit n hn
  have hValue : UInt8.ofNat (b.toNat / 16 * 16 + b.toNat % 16) = b := by
    rw [Nat.div_add_mod', UInt8.ofNat_toNat]
  simp only [byte?, hDigit _ (show b.toNat / 16 < 16 by omega),
    hDigit _ (show b.toNat % 16 < 16 by omega), Option.bind_eq_bind, Option.bind_some, hValue]

theorem decode_encodeByte (b : UInt8) (rest : Bytes) :
    decode ((encodeByte b).map (fun c => UInt8.ofNat c.toNat) ++ rest) = b :: decode rest := by
  have hMark : UInt8.ofNat '%'.toNat = 0x25 := rfl
  rw [encodeByte, List.map_cons, List.map_cons, List.map_singleton, hMark, List.cons_append,
    List.cons_append, List.singleton_append, decode, byte?_digits]

end SignOn.Http.Percent
