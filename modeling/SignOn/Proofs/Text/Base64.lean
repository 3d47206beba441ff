import SignOn.Text.Base64

/-!
# Reading and writing base64

A base64 text is made of the characters of its alphabet and of padding. Each group of characters is
read as the bytes that it was written for (`decodeChars?_encodeChars`), so different byte strings
have different texts (`encode_injective`); and nothing is read but what is written for some bytes
(`decode?_eq_some_iff`).
-/

namespace SignOn.Text.Base64

/-! ## The characters of a text -/

theorem alphabet_eq : alphabet =
    ['A', 'B', 'C', 'D', 'E', 'F', 'G', 'H', 'I', 'J', 'K', 'L', 'M', 'N', 'O', 'P', 'Q', 'R', 'S',
      'T', 'U', 'V', 'W', 'X', 'Y', 'Z', 'a', 'b', 'c', 'd', 'e', 'f', 'g', 'h', 'i', 'j', 'k', 'l',
      'm', 'n', 'o', 'p', 'q', 'r', 's', 't', 'u', 'v', 'w', 'x', 'y', 'z', '0', '1', '2', '3', '4',
      '5', '6', '7', '8', '9', '+', '/'] :=
  String.toList_ofList

theorem symbol_mem (n : Nat) : symbol n ∈ alphabet := by
  unfold symbol
  rw [List.getD_eq_getElem?_getD]
  cases h : alphabet[n]? with
  | none => simp [alphabet_eq]
  | some c => exact List.mem_of_getElem? h

theorem mem_encodeChars {bytes : Bytes} {c : Char} (hc : c ∈ encodeChars bytes) :
    c ∈ alphabet ∨ c = '=' := by
  induction bytes using encodeChars.induct with
  | case1 => simp [encodeChars] at hc
  | case2 a =>
    simp only [encodeChars, List.mem_cons, List.not_mem_nil, or_false] at hc
    rcases hc with rfl | rfl | rfl | rfl
    · exact Or.inl (symbol_mem _)
    · exact Or.inl (symbol_mem _)
    · exact Or.inr rfl
    · exact Or.inr rfl
  | case3 a b =>
    simp only [encodeChars, List.mem_cons, List.not_mem_nil, or_false] at hc
    rcases hc with rfl | rfl | rfl | rfl
    · exact Or.inl (symbol_mem _)
    · exact Or.inl (symbol_mem _)
    · exact Or.inl (symbol_mem _)
    · exact Or.inr rfl
  | case4 a b c' rest ih =>
    simp only [encodeChars, List.mem_cons] at hc
    rcases hc with rfl | rfl | rfl | rfl | hc
    · exact Or.inl (symbol_mem _)
    · exact Or.inl (symbol_mem _)
    · exact Or.inl (symbol_mem _)
    · exact Or.inl (symbol_mem _)
    · exact ih hc

theorem ampersand_not_mem_encodeChars (bytes : Bytes) : '&' ∉ encodeChars bytes := by
  intro h
  rcases mem_encodeChars h with h | h
  · simp [alphabet_eq] at h
  · exact absurd h (by decide)

/-! ## Reading what was written -/

/-- A character that stands for a value is read as that value. -/
theorem value?_symbol {n : Nat} (h : n < 64) : value? (symbol n) = some n := by
  have hAll : ∀ m : Fin 64, value? (symbol m) = some m.val := by
    simp only [value?, symbol, alphabet_eq]
    decide
  exact hAll ⟨n, h⟩

theorem symbol_ne_padding (n : Nat) : symbol n ≠ '=' := by
  intro h
  have hMem := symbol_mem n
  simp [h, alphabet_eq] at hMem

theorem oneByte?_symbol (a : UInt8) :
    oneByte? (symbol (a.toNat / 4)) (symbol (a.toNat % 4 * 16)) = some [a] := by
  have ha : a.toNat < 256 := a.toNat_lt
  have hStray : a.toNat % 4 * 16 % 16 = 0 := by omega
  have hByte : a.toNat / 4 * 4 + a.toNat % 4 * 16 / 16 = a.toNat := by omega
  simp only [oneByte?, value?_symbol (show a.toNat / 4 < 64 by omega),
    value?_symbol (show a.toNat % 4 * 16 < 64 by omega), Option.bind_eq_bind, Option.bind_some,
    hStray, if_true, hByte, UInt8.ofNat_toNat]

theorem twoBytes?_symbol (a b : UInt8) :
    let n := a.toNat * 256 + b.toNat
    twoBytes? (symbol (n / 1024)) (symbol (n / 16 % 64)) (symbol (n % 16 * 4)) = some [a, b] := by
  intro n
  have ha : a.toNat < 256 := a.toNat_lt
  have hb : b.toNat < 256 := b.toNat_lt
  have hStray : n % 16 * 4 % 4 = 0 := by omega
  have hFirst : (n / 1024 * 4096 + n / 16 % 64 * 64 + n % 16 * 4) / 1024 = a.toNat := by omega
  have hSecond : (n / 1024 * 4096 + n / 16 % 64 * 64 + n % 16 * 4) / 4 % 256 = b.toNat := by omega
  simp only [twoBytes?, value?_symbol (show n / 1024 < 64 by omega),
    value?_symbol (show n / 16 % 64 < 64 by omega), value?_symbol (show n % 16 * 4 < 64 by omega),
    Option.bind_eq_bind, Option.bind_some, hStray, if_true, hFirst, hSecond, UInt8.ofNat_toNat]

theorem threeBytes?_symbol (a b c : UInt8) :
    let n := a.toNat * 65536 + b.toNat * 256 + c.toNat
    threeBytes? (symbol (n / 262144)) (symbol (n / 4096 % 64)) (symbol (n / 64 % 64))
      (symbol (n % 64)) = some [a, b, c] := by
  intro n
  have ha : a.toNat < 256 := a.toNat_lt
  have hb : b.toNat < 256 := b.toNat_lt
  have hc : c.toNat < 256 := c.toNat_lt
  have hAll : n / 262144 * 262144 + n / 4096 % 64 * 4096 + n / 64 % 64 * 64 + n % 64 = n := by
    omega
  have hFirst : n / 65536 = a.toNat := by omega
  have hSecond : n / 256 % 256 = b.toNat := by omega
  have hThird : n % 256 = c.toNat := by omega
  simp only [threeBytes?, value?_symbol (show n / 262144 < 64 by omega),
    value?_symbol (show n / 4096 % 64 < 64 by omega), value?_symbol (show n / 64 % 64 < 64 by omega),
    value?_symbol (show n % 64 < 64 by omega), Option.bind_eq_bind, Option.bind_some, hAll, hFirst,
    hSecond, hThird, UInt8.ofNat_toNat]

theorem encodeChars_ne_nil {bytes : Bytes} (h : bytes ≠ []) : encodeChars bytes ≠ [] := by
  fun_cases encodeChars bytes with
  | case1 => exact absurd rfl h
  | case2 | case3 | case4 => exact List.cons_ne_nil _ _

/-- What is written is read. -/
theorem decodeChars?_encodeChars (bytes : Bytes) :
    decodeChars? (encodeChars bytes) = some bytes := by
  induction bytes using encodeChars.induct with
  | case1 => rfl
  | case2 a =>
    simp only [encodeChars, decodeChars?, if_true]
    exact oneByte?_symbol a
  | case3 a b =>
    simp only [encodeChars, decodeChars?, if_true, symbol_ne_padding, if_false]
    exact twoBytes?_symbol a b
  | case4 a b c rest ih =>
    have hGroup := threeBytes?_symbol a b c
    rw [encodeChars]
    cases rest with
    | nil =>
      simp only [encodeChars, decodeChars?, symbol_ne_padding, if_false]
      exact hGroup
    | cons d rest =>
      rw [decodeChars?, hGroup, ih]
      · rfl
      · exact encodeChars_ne_nil (List.cons_ne_nil d rest)

/-- Different byte strings have different texts. -/
theorem encode_injective {bytes bytes' : Bytes} (h : encode bytes = encode bytes') :
    bytes = bytes' := by
  have hChars : encodeChars bytes = encodeChars bytes' := by
    rw [← String.toList_ofList (l := encodeChars bytes), ← encode, h, encode, String.toList_ofList]
  have hRead := congrArg decodeChars? hChars
  rw [decodeChars?_encodeChars, decodeChars?_encodeChars] at hRead
  exact Option.some.inj hRead

/-! ## Reading nothing else -/

/-- A character with a value is the one that stands for that value. -/
theorem symbol_of_value? {c : Char} {n : Nat} (h : value? c = some n) : n < 64 ∧ symbol n = c := by
  rw [value?, List.findIdx?_eq_some_iff_getElem] at h
  obtain ⟨hLt, hEq, -⟩ := h
  have hSize : alphabet.length = 64 := by
    rw [alphabet_eq]
    rfl
  refine ⟨by omega, ?_⟩
  rw [symbol, List.getD_eq_getElem?_getD, List.getElem?_eq_getElem hLt, Option.getD_some]
  exact eq_of_beq hEq

theorem encodeChars_of_oneByte? {a b : Char} {bytes : Bytes} (h : oneByte? a b = some bytes) :
    encodeChars bytes = [a, b, '=', '='] := by
  simp only [oneByte?, Option.bind_eq_bind, Option.bind_eq_some_iff] at h
  obtain ⟨x, hx, y, hy, h⟩ := h
  obtain ⟨hxLt, hxEq⟩ := symbol_of_value? hx
  obtain ⟨hyLt, hyEq⟩ := symbol_of_value? hy
  split at h
  · rename_i hStray
    rw [← Option.some.inj h, encodeChars, UInt8.toNat_ofNat',
      show (x * 4 + y / 16) % 2 ^ 8 / 4 = x by omega,
      show (x * 4 + y / 16) % 2 ^ 8 % 4 * 16 = y by omega, hxEq, hyEq]
  · cases h

theorem encodeChars_of_twoBytes? {a b c : Char} {bytes : Bytes} (h : twoBytes? a b c = some bytes) :
    encodeChars bytes = [a, b, c, '='] := by
  simp only [twoBytes?, Option.bind_eq_bind, Option.bind_eq_some_iff] at h
  obtain ⟨x, hx, y, hy, z, hz, h⟩ := h
  obtain ⟨hxLt, hxEq⟩ := symbol_of_value? hx
  obtain ⟨hyLt, hyEq⟩ := symbol_of_value? hy
  obtain ⟨hzLt, hzEq⟩ := symbol_of_value? hz
  split at h
  · rename_i hStray
    have hWhole : (x * 4096 + y * 64 + z) / 1024 % 2 ^ 8 * 256 +
        (x * 4096 + y * 64 + z) / 4 % 256 % 2 ^ 8 = x * 1024 + y * 16 + z / 4 := by omega
    rw [← Option.some.inj h, encodeChars, UInt8.toNat_ofNat', UInt8.toNat_ofNat']
    simp only [hWhole]
    rw [show (x * 1024 + y * 16 + z / 4) / 1024 = x by omega,
      show (x * 1024 + y * 16 + z / 4) / 16 % 64 = y by omega,
      show (x * 1024 + y * 16 + z / 4) % 16 * 4 = z by omega, hxEq, hyEq, hzEq]
  · cases h

theorem encodeChars_of_threeBytes? {a b c d : Char} {bytes : Bytes}
    (h : threeBytes? a b c d = some bytes) (rest : Bytes) :
    encodeChars (bytes ++ rest) = a :: b :: c :: d :: encodeChars rest := by
  simp only [threeBytes?, Option.bind_eq_bind, Option.bind_eq_some_iff] at h
  obtain ⟨x, hx, y, hy, z, hz, w, hw, h⟩ := h
  obtain ⟨hxLt, hxEq⟩ := symbol_of_value? hx
  obtain ⟨hyLt, hyEq⟩ := symbol_of_value? hy
  obtain ⟨hzLt, hzEq⟩ := symbol_of_value? hz
  obtain ⟨hwLt, hwEq⟩ := symbol_of_value? hw
  have hWhole : (x * 262144 + y * 4096 + z * 64 + w) / 65536 % 2 ^ 8 * 65536 +
      (x * 262144 + y * 4096 + z * 64 + w) / 256 % 256 % 2 ^ 8 * 256 +
        (x * 262144 + y * 4096 + z * 64 + w) % 256 % 2 ^ 8 = x * 262144 + y * 4096 + z * 64 + w := by
    omega
  rw [← Option.some.inj h]
  simp only [List.cons_append, List.nil_append, encodeChars, UInt8.toNat_ofNat', hWhole]
  rw [show (x * 262144 + y * 4096 + z * 64 + w) / 262144 = x by omega,
    show (x * 262144 + y * 4096 + z * 64 + w) / 4096 % 64 = y by omega,
    show (x * 262144 + y * 4096 + z * 64 + w) / 64 % 64 = z by omega,
    show (x * 262144 + y * 4096 + z * 64 + w) % 64 = w by omega, hxEq, hyEq, hzEq, hwEq]

/-- Whatever is read was written so. -/
theorem encodeChars_of_decodeChars? {cs : List Char} {bytes : Bytes}
    (h : decodeChars? cs = some bytes) : encodeChars bytes = cs := by
  fun_induction decodeChars? cs generalizing bytes with
  | case1 =>
    cases h
    rfl
  | case2 a b => exact encodeChars_of_oneByte? h
  | case3 a b c => exact encodeChars_of_twoBytes? h
  | case4 a b c d =>
    have hGroup := encodeChars_of_threeBytes? h []
    rwa [List.append_nil] at hGroup
  | case5 a b c d rest _ front back hBack hFront ih =>
    rw [← Option.some.inj h, encodeChars_of_threeBytes? hFront, ih hBack]
  | case6 => cases h
  | case7 => cases h

/-- A text is read as bytes exactly if it is the one that was written for them. -/
theorem decode?_eq_some_iff {s : String} {bytes : Bytes} :
    decode? s = some bytes ↔ s = encode bytes := by
  rw [decode?, encode, ← String.toList_inj, String.toList_ofList]
  constructor
  · exact fun h => (encodeChars_of_decodeChars? h).symm
  · rintro h
    rw [h, decodeChars?_encodeChars]

end SignOn.Text.Base64
