import Mathlib.Logic.Basic
import SignOn.Proofs.Result
import SignOn.Text.Utf8

/-!
# The bytes of a text

A character of ASCII is one byte, and no byte of another character is one of ASCII. So a text can be
searched for a character of ASCII among its bytes (`mem_encode_iff`).

The bytes of a character are read as that character, whatever follows: the first byte tells how many
there are, and the others are all continuations. So every text is read as it was written
(`decode_encode`).

In the other direction, the ranges of the bytes leave one way to write a character: bytes that are
read as a character are those that are written for it. So nothing else is read as a text than what
is written for it (`decode_eq_ok_iff`).
-/

namespace SignOn.Text.Utf8

theorem encode_append (s t : String) : encode (s ++ t) = encode s ++ encode t := by
  simp [encode]

/-- Texts with a separator between them are so also as bytes. -/
theorem flatMap_intercalate {α β : Type} (f : α → List β) (sep : List α) (parts : List (List α)) :
    (sep.intercalate parts).flatMap f =
      (sep.flatMap f).intercalate (parts.map fun part => part.flatMap f) := by
  induction parts with
  | nil => rfl
  | cons first rest ih =>
    cases rest with
    | nil => simp
    | cons second rest =>
      rw [List.map_cons] at ih
      rw [List.intercalate_cons_cons, List.flatMap_append, List.flatMap_append, ih, List.map_cons,
        List.map_cons, List.intercalate_cons_cons]

theorem utf8EncodeChar_of_lt {c : Char} (h : c.toNat < 128) :
    String.utf8EncodeChar c = [UInt8.ofNat c.toNat] := by
  have hLe : c.val.toNat ≤ 127 := Nat.le_of_lt_succ h
  exact if_pos hLe

theorem le_of_mem_utf8EncodeChar {c : Char} (h : 128 ≤ c.toNat) {b : UInt8}
    (hb : b ∈ String.utf8EncodeChar c) : 128 ≤ b.toNat := by
  have hLt : ¬ c.val.toNat ≤ 127 := Nat.not_le.mpr h
  -- Leading and continuing bytes are small numbers on top of a mark that has the high bit.
  have marked : ∀ n m, 128 ≤ m → n + m < 256 → 128 ≤ (UInt8.ofNat (n + m)).toNat := by
    intro n m hm hSum
    rw [UInt8.toNat_ofNat']
    omega
  dsimp only [String.utf8EncodeChar] at hb
  rw [if_neg hLt] at hb
  split at hb
  · simp only [List.mem_cons, List.not_mem_nil, or_false] at hb
    rcases hb with rfl | rfl <;> exact marked _ _ (by decide) (by omega)
  · split at hb
    · simp only [List.mem_cons, List.not_mem_nil, or_false] at hb
      rcases hb with rfl | rfl | rfl <;> exact marked _ _ (by decide) (by omega)
    · simp only [List.mem_cons, List.not_mem_nil, or_false] at hb
      rcases hb with rfl | rfl | rfl | rfl <;> exact marked _ _ (by decide) (by omega)

theorem encode_of_ascii {s : String} (h : ∀ c ∈ s.toList, c.toNat < 128) :
    encode s = s.toList.map fun c => UInt8.ofNat c.toNat := by
  unfold encode
  generalize s.toList = cs at h ⊢
  induction cs with
  | nil => rfl
  | cons c cs ih =>
    rw [List.forall_mem_cons] at h
    rw [List.flatMap_cons, utf8EncodeChar_of_lt h.1, ih h.2]
    rfl

/-- A character of ASCII is in a text exactly if its byte is among the bytes of the text. -/
theorem mem_encode_iff {d : Char} (hd : d.toNat < 128) {s : String} :
    UInt8.ofNat d.toNat ∈ encode s ↔ d ∈ s.toList := by
  have hByte : ∀ c : Char, UInt8.ofNat d.toNat ∈ String.utf8EncodeChar c ↔ c = d := by
    intro c
    have hSmall : (UInt8.ofNat d.toNat).toNat = d.toNat := by
      rw [UInt8.toNat_ofNat']
      omega
    by_cases hc : c.toNat < 128
    · rw [utf8EncodeChar_of_lt hc, List.mem_singleton, ← UInt8.toNat_inj, hSmall,
        UInt8.toNat_ofNat', Nat.mod_eq_of_lt (by omega), Char.toNat_inj, eq_comm]
    · constructor
      · intro h
        have hLe := le_of_mem_utf8EncodeChar (by omega) h
        omega
      · rintro rfl
        exact absurd hd hc
  simp [encode, hByte]

/-! ## Reading the bytes of a text -/

theorem not_lt_of_toNat {a : UInt8} (h : 0x80 ≤ a.toNat) : ¬ a < 0x80 := by
  rw [UInt8.lt_iff_toNat_lt]
  exact Nat.not_lt.mpr h

theorem between_iff {low high b : UInt8} :
    (low ≤ b && b ≤ high) = true ↔ low.toNat ≤ b.toNat ∧ b.toNat ≤ high.toNat := by
  simp [UInt8.le_iff_toNat_le]

theorem isContinuation_iff {b : UInt8} :
    isContinuation b = true ↔ 0x80 ≤ b.toNat ∧ b.toNat ≤ 0xBF :=
  between_iff

theorem isSecondOfThree_iff {a b : UInt8} :
    isSecondOfThree a b = true ↔ isContinuation b = true ∧ (a.toNat = 0xE0 → 0xA0 ≤ b.toNat) ∧
      (a.toNat = 0xED → b.toNat ≤ 0x9F) := by
  simp only [isSecondOfThree, Bool.and_eq_true, Bool.or_eq_true, bne_iff_ne, decide_eq_true_eq,
    UInt8.le_iff_toNat_le, ne_eq, ← UInt8.toNat_inj, and_assoc, ← imp_iff_not_or]
  rfl

theorem isSecondOfFour_iff {a b : UInt8} :
    isSecondOfFour a b = true ↔ isContinuation b = true ∧ (a.toNat = 0xF0 → 0x90 ≤ b.toNat) ∧
      (a.toNat = 0xF4 → b.toNat ≤ 0x8F) := by
  simp only [isSecondOfFour, Bool.and_eq_true, Bool.or_eq_true, bne_iff_ne, decide_eq_true_eq,
    UInt8.le_iff_toNat_le, ne_eq, ← UInt8.toNat_inj, and_assoc, ← imp_iff_not_or]
  rfl

theorem piecesOf_one {a : UInt8} (ha : a.toNat < 0x80) (rest : Bytes) :
    piecesOf (a :: rest) = .char (Char.ofNat a.toNat) :: piecesOf rest := by
  have hOne : a < 0x80 := UInt8.lt_iff_toNat_lt.mpr ha
  rw [piecesOf.eq_def]
  exact if_pos hOne

theorem piecesOf_two {a b : UInt8} (ha : 0xC2 ≤ a.toNat ∧ a.toNat ≤ 0xDF)
    (hb : isContinuation b = true) (rest : Bytes) :
    piecesOf (a :: b :: rest) =
      .char (Char.ofNat (a.toNat % 32 * 64 + payload b)) :: piecesOf rest := by
  have hOne : ¬ a < 0x80 := not_lt_of_toNat (by omega)
  have hTwo : (0xC2 ≤ a && a ≤ 0xDF) = true := between_iff.mpr ha
  rw [piecesOf.eq_def]
  simp only [if_neg hOne, if_pos hTwo, if_pos hb]

theorem piecesOf_three {a b c : UInt8} (ha : 0xE0 ≤ a.toNat ∧ a.toNat ≤ 0xEF)
    (hb : isSecondOfThree a b = true) (hc : isContinuation c = true) (rest : Bytes) :
    piecesOf (a :: b :: c :: rest) =
      .char (Char.ofNat (a.toNat % 16 * 4096 + payload b * 64 + payload c)) :: piecesOf rest := by
  have hOne : ¬ a < 0x80 := not_lt_of_toNat (by omega)
  have hTwo : ¬ (0xC2 ≤ a && a ≤ 0xDF) = true := by
    intro h
    have hRange : 0xC2 ≤ a.toNat ∧ a.toNat ≤ 0xDF := between_iff.mp h
    omega
  have hThree : (0xE0 ≤ a && a ≤ 0xEF) = true := between_iff.mpr ha
  rw [piecesOf.eq_def]
  simp only [if_neg hOne, if_neg hTwo, if_pos hThree, if_pos hb, if_pos hc]

theorem piecesOf_four {a b c d : UInt8} (ha : 0xF0 ≤ a.toNat ∧ a.toNat ≤ 0xF4)
    (hb : isSecondOfFour a b = true) (hc : isContinuation c = true) (hd : isContinuation d = true)
    (rest : Bytes) :
    piecesOf (a :: b :: c :: d :: rest) =
      .char (Char.ofNat
        (a.toNat % 8 * 262144 + payload b * 4096 + payload c * 64 + payload d)) ::
        piecesOf rest := by
  have hOne : ¬ a < 0x80 := not_lt_of_toNat (by omega)
  have hTwo : ¬ (0xC2 ≤ a && a ≤ 0xDF) = true := by
    intro h
    have hRange : 0xC2 ≤ a.toNat ∧ a.toNat ≤ 0xDF := between_iff.mp h
    omega
  have hThree : ¬ (0xE0 ≤ a && a ≤ 0xEF) = true := by
    intro h
    have hRange : 0xE0 ≤ a.toNat ∧ a.toNat ≤ 0xEF := between_iff.mp h
    omega
  have hFour : (0xF0 ≤ a && a ≤ 0xF4) = true := between_iff.mpr ha
  rw [piecesOf.eq_def]
  simp only [if_neg hOne, if_neg hTwo, if_neg hThree, if_pos hFour, if_pos hb, if_pos hc, if_pos hd]

theorem toNat_marked {n m : Nat} (h : n + m < 256) : (UInt8.ofNat (n + m)).toNat = n + m := by
  rw [UInt8.toNat_ofNat']
  omega

theorem isContinuation_marked (n : Nat) : isContinuation (UInt8.ofNat (n % 64 + 0x80)) = true := by
  rw [isContinuation_iff, toNat_marked (by omega)]
  omega

theorem payload_marked (n : Nat) : payload (UInt8.ofNat (n % 64 + 0x80)) = n % 64 := by
  rw [payload, toNat_marked (by omega)]
  omega

/-- The bytes of a character are read as that character. -/
theorem piecesOf_utf8EncodeChar (c : Char) (rest : Bytes) :
    piecesOf (String.utf8EncodeChar c ++ rest) = .char c :: piecesOf rest := by
  have hValid : c.val.toNat < 0xD800 ∨ 0xDFFF < c.val.toNat ∧ c.val.toNat < 0x110000 := c.valid
  -- It is enough that the bits carried by the bytes make up the number of the character.
  have same : ∀ {n : Nat}, n = c.val.toNat → Piece.char (Char.ofNat n) :: piecesOf rest =
      .char c :: piecesOf rest := by
    rintro n rfl
    exact congrArg (Piece.char · :: piecesOf rest) c.ofNat_toNat
  dsimp only [String.utf8EncodeChar]
  generalize c.val.toNat = v at hValid same ⊢
  by_cases h1 : v ≤ 127
  · have hLead : (UInt8.ofNat v).toNat = v := toNat_marked (m := 0) (by omega)
    rw [if_pos h1, List.singleton_append, piecesOf_one (by omega), hLead]
    exact same rfl
  rw [if_neg h1]
  by_cases h2 : v ≤ 2047
  · have hLead := toNat_marked (n := v / 64 % 32) (m := 192) (by omega)
    rw [if_pos h2, List.cons_append, List.singleton_append,
      piecesOf_two (by omega) (isContinuation_marked v), hLead, payload_marked]
    exact same (by omega)
  rw [if_neg h2]
  by_cases h3 : v ≤ 65535
  · have hLead := toNat_marked (n := v / 4096 % 16) (m := 224) (by omega)
    have hSecond := toNat_marked (n := v / 64 % 64) (m := 128) (by omega)
    have hOfThree : isSecondOfThree (UInt8.ofNat (v / 4096 % 16 + 224))
        (UInt8.ofNat (v / 64 % 64 + 128)) = true := by
      rw [isSecondOfThree_iff, hLead, hSecond]
      exact ⟨isContinuation_marked _, by omega, by omega⟩
    rw [if_pos h3, List.cons_append, List.cons_append, List.singleton_append,
      piecesOf_three (by omega) hOfThree (isContinuation_marked v), hLead, payload_marked,
      payload_marked]
    exact same (by omega)
  rw [if_neg h3]
  have hLead := toNat_marked (n := v / 262144 % 8) (m := 240) (by omega)
  have hSecond := toNat_marked (n := v / 4096 % 64) (m := 128) (by omega)
  have hOfFour : isSecondOfFour (UInt8.ofNat (v / 262144 % 8 + 240))
      (UInt8.ofNat (v / 4096 % 64 + 128)) = true := by
    rw [isSecondOfFour_iff, hLead, hSecond]
    exact ⟨isContinuation_marked _, by omega, by omega⟩
  rw [List.cons_append, List.cons_append, List.cons_append, List.singleton_append,
    piecesOf_four (by omega) hOfFour (isContinuation_marked _) (isContinuation_marked v), hLead,
    payload_marked, payload_marked, payload_marked]
  exact same (by omega)

theorem textOf_chars (index : Nat) (cs : List Char) : textOf index (cs.map .char) = .ok cs := by
  induction cs generalizing index with
  | nil => rfl
  | cons c cs ih => rw [List.map_cons, textOf, ih]

theorem piecesOf_encode (s : String) : piecesOf (encode s) = s.toList.map .char := by
  rw [encode]
  induction s.toList with
  | nil => rfl
  | cons c cs ih => rw [List.flatMap_cons, piecesOf_utf8EncodeChar, ih, List.map_cons]

/-- What is written for a text is read as that text. -/
theorem decode_encode (s : String) : decode (encode s) = .ok s := by
  rw [decode, piecesOf_encode, textOf_chars]
  exact congrArg Except.ok String.ofList_toList

/-- The lenient reader replaces nothing in it. -/
theorem decodeLenient_encode (s : String) : decodeLenient (encode s) = s := by
  rw [decodeLenient, piecesOf_encode, List.map_map]
  exact (congrArg String.ofList (List.map_id s.toList)).trans String.ofList_toList

/-! ## Writing what was read -/

theorem toNat_val_ofNat {n : Nat} (h : n.isValidChar) : (Char.ofNat n).val.toNat = n := by
  rw [Char.ofNat, dif_pos h]
  rfl

theorem ofNat_eq_of_eq_toNat {n : Nat} {b : UInt8} (h : n = b.toNat) : UInt8.ofNat n = b := by
  rw [h, UInt8.ofNat_toNat]

theorem utf8EncodeChar_one {a : UInt8} (ha : a.toNat < 0x80) :
    String.utf8EncodeChar (Char.ofNat a.toNat) = [a] := by
  have hValue := toNat_val_ofNat (n := a.toNat) (.inl (by omega))
  dsimp only [String.utf8EncodeChar]
  rw [hValue, if_pos (by omega), UInt8.ofNat_toNat]

/-- A continuation is its payload on top of the mark of continuations. -/
theorem toNat_of_isContinuation {b : UInt8} (h : isContinuation b = true) :
    b.toNat = payload b + 0x80 ∧ payload b < 64 := by
  rw [isContinuation_iff] at h
  rw [payload]
  omega

theorem utf8EncodeChar_two {a b : UInt8} (ha : 0xC2 ≤ a.toNat ∧ a.toNat ≤ 0xDF)
    (hb : isContinuation b = true) :
    String.utf8EncodeChar (Char.ofNat (a.toNat % 32 * 64 + payload b)) = [a, b] := by
  obtain ⟨hSecond, hLow⟩ := toNat_of_isContinuation hb
  have hValue := toNat_val_ofNat (n := a.toNat % 32 * 64 + payload b) (.inl (by omega))
  dsimp only [String.utf8EncodeChar]
  rw [hValue, if_neg (by omega), if_pos (by omega), ofNat_eq_of_eq_toNat (b := a) (by omega),
    ofNat_eq_of_eq_toNat (b := b) (by omega)]

theorem utf8EncodeChar_three {a b c : UInt8} (ha : 0xE0 ≤ a.toNat ∧ a.toNat ≤ 0xEF)
    (hb : isSecondOfThree a b = true) (hc : isContinuation c = true) :
    String.utf8EncodeChar (Char.ofNat (a.toNat % 16 * 4096 + payload b * 64 + payload c)) =
      [a, b, c] := by
  obtain ⟨hSecond, hShortest, hSurrogate⟩ := isSecondOfThree_iff.mp hb
  obtain ⟨hb', hbLow⟩ := toNat_of_isContinuation hSecond
  obtain ⟨hc', hcLow⟩ := toNat_of_isContinuation hc
  have hValid : (a.toNat % 16 * 4096 + payload b * 64 + payload c).isValidChar := by
    rw [Nat.isValidChar]
    omega
  have hValue := toNat_val_ofNat hValid
  dsimp only [String.utf8EncodeChar]
  rw [hValue, if_neg (by omega), if_neg (by omega), if_pos (by omega),
    ofNat_eq_of_eq_toNat (b := a) (by omega), ofNat_eq_of_eq_toNat (b := b) (by omega),
    ofNat_eq_of_eq_toNat (b := c) (by omega)]

theorem utf8EncodeChar_four {a b c d : UInt8} (ha : 0xF0 ≤ a.toNat ∧ a.toNat ≤ 0xF4)
    (hb : isSecondOfFour a b = true) (hc : isContinuation c = true) (hd : isContinuation d = true) :
    String.utf8EncodeChar (Char.ofNat
      (a.toNat % 8 * 262144 + payload b * 4096 + payload c * 64 + payload d)) = [a, b, c, d] := by
  obtain ⟨hSecond, hShortest, hLast⟩ := isSecondOfFour_iff.mp hb
  obtain ⟨hb', hbLow⟩ := toNat_of_isContinuation hSecond
  obtain ⟨hc', hcLow⟩ := toNat_of_isContinuation hc
  obtain ⟨hd', hdLow⟩ := toNat_of_isContinuation hd
  have hValid :
      (a.toNat % 8 * 262144 + payload b * 4096 + payload c * 64 + payload d).isValidChar := by
    rw [Nat.isValidChar]
    omega
  have hValue := toNat_val_ofNat hValid
  dsimp only [String.utf8EncodeChar]
  rw [hValue, if_neg (by omega), if_neg (by omega), if_neg (by omega),
    ofNat_eq_of_eq_toNat (b := a) (by omega), ofNat_eq_of_eq_toNat (b := b) (by omega),
    ofNat_eq_of_eq_toNat (b := c) (by omega), ofNat_eq_of_eq_toNat (b := d) (by omega)]

/-- Bytes that fall into characters alone are those of the characters. -/
theorem flatMap_of_piecesOf {bytes : Bytes} {cs : List Char} (h : piecesOf bytes = cs.map .char) :
    cs.flatMap String.utf8EncodeChar = bytes := by
  -- A part that is ill-formed is no character, so four of the cases of the reader are left.
  fun_induction piecesOf bytes generalizing cs with
  | case1 =>
    rw [List.map_eq_nil_iff.mp h.symm, List.flatMap_nil]
  | case2 a rest ha ih =>
    obtain ⟨c, cs, rfl, hChar, hRest⟩ := List.map_eq_cons_iff.mp h.symm
    cases hChar
    rw [List.flatMap_cons, utf8EncodeChar_one (UInt8.lt_iff_toNat_lt.mp ha), ih hRest.symm]
    rfl
  | case4 a _ ha b rest hb ih =>
    obtain ⟨c, cs, rfl, hChar, hRest⟩ := List.map_eq_cons_iff.mp h.symm
    cases hChar
    rw [List.flatMap_cons, utf8EncodeChar_two (between_iff.mp ha) hb, ih hRest.symm]
    rfl
  | case8 a _ _ ha b hb c rest hc ih =>
    obtain ⟨c, cs, rfl, hChar, hRest⟩ := List.map_eq_cons_iff.mp h.symm
    cases hChar
    rw [List.flatMap_cons, utf8EncodeChar_three (between_iff.mp ha) hb hc, ih hRest.symm]
    rfl
  | case14 a _ _ _ ha b hb c hc d rest hd ih =>
    obtain ⟨c, cs, rfl, hChar, hRest⟩ := List.map_eq_cons_iff.mp h.symm
    cases hChar
    rw [List.flatMap_cons, utf8EncodeChar_four (between_iff.mp ha) hb hc hd, ih hRest.symm]
    rfl
  | _ =>
    obtain ⟨c, cs, rfl, hChar, -⟩ := List.map_eq_cons_iff.mp h.symm
    cases hChar

theorem eq_map_of_textOf {index : Nat} {pieces : List Piece} {cs : List Char}
    (h : textOf index pieces = .ok cs) : pieces = cs.map .char := by
  induction pieces generalizing index cs with
  | nil =>
    cases h
    rfl
  | cons piece pieces ih =>
    cases piece with
    | char c =>
      rw [textOf] at h
      split at h
      · rename_i cs' hRest
        cases h
        rw [List.map_cons, ← ih hRest]
      · cases h
    | invalid length => cases h
    | incomplete length => cases h

/-- Bytes are read as a text exactly if they are those of the text. -/
theorem decode_eq_ok_iff {bytes : Bytes} {s : String} :
    decode bytes = .ok s ↔ bytes = encode s := by
  constructor
  · intro h
    obtain ⟨cs, hText, rfl⟩ := map_eq_ok_iff.mp h
    rw [encode, String.toList_ofList, flatMap_of_piecesOf (eq_map_of_textOf hText)]
  · rintro rfl
    exact decode_encode s

end SignOn.Text.Utf8
