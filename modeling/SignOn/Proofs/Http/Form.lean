import SignOn.Http.Form
import SignOn.Proofs.Http.Percent
import SignOn.Proofs.Text.Split

/-!
# Form data read back

What is written for a name or a value consists of characters that separate nothing
(`isInert_of_mem_encodeChars`), and is read as it was meant (`decodeText_encodeChars`): blanks come
back from plus signs, and plus signs and everything else from escapes. So a pair at the end of form
data is the last of its pairs, whatever stands in front (`pairs_append_pair`).
-/

namespace SignOn.Http.Form

open SignOn.Text (Bytes)

/-! ## Names and values -/

/-- The character is one of ASCII and separates neither pairs, nor a name from a value, nor a query
from what follows. -/
def IsInert (c : Char) : Prop :=
  c.toNat < 128 ∧ c ≠ '&' ∧ c ≠ '=' ∧ c ≠ '#'

instance (c : Char) : Decidable (IsInert c) :=
  inferInstanceAs (Decidable (_ ∧ _))

theorem isKept_iff {b : UInt8} :
    isKept b = true ↔ (0x30 ≤ b.toNat ∧ b.toNat ≤ 0x39) ∨ (0x41 ≤ b.toNat ∧ b.toNat ≤ 0x5A) ∨
      (0x61 ≤ b.toNat ∧ b.toNat ≤ 0x7A) ∨ b.toNat = 0x2A ∨ b.toNat = 0x2D ∨ b.toNat = 0x2E ∨
      b.toNat = 0x5F := by
  simp only [isKept, Bool.or_eq_true, Bool.and_eq_true, decide_eq_true_eq, beq_iff_eq,
    UInt8.le_iff_toNat_le, ← UInt8.toNat_inj, or_assoc]
  rfl

theorem isInert_digit : ∀ n < 16, IsInert (Percent.digit n) := by
  decide

theorem isInert_of_mem_encodeByte {b : UInt8} {c : Char} (h : c ∈ encodeByte b) : IsInert c := by
  have hByte : b.toNat < 256 := b.toNat_lt
  unfold encodeByte at h
  split at h
  · rw [List.mem_singleton.mp h]
    decide
  · split at h
    · rename_i hKept
      rw [isKept_iff] at hKept
      have hValid : b.toNat.isValidChar := .inl (by omega)
      have hNat : c.toNat = b.toNat := by
        rw [List.mem_singleton.mp h]
        exact Text.Utf8.toNat_val_ofNat hValid
      have hNe : ∀ d : Char, d.toNat ≠ b.toNat → c ≠ d := by
        rintro d hd rfl
        exact hd hNat
      refine ⟨by omega, hNe _ ?_, hNe _ ?_, hNe _ ?_⟩ <;>
        simp only [Char.reduceToNat] <;> omega
    · simp only [Percent.encodeByte, List.mem_cons, List.not_mem_nil, or_false] at h
      rcases h with rfl | rfl | rfl
      · decide
      · exact isInert_digit _ (by omega)
      · exact isInert_digit _ (by omega)

theorem isInert_of_mem_encodeChars {s : String} {c : Char} (h : c ∈ encodeChars s) :
    IsInert c := by
  obtain ⟨b, -, hb⟩ := List.mem_flatMap.mp h
  exact isInert_of_mem_encodeByte hb

/-- The byte for a character of form data before escapes are resolved: plus signs stand for
blanks. -/
def unplus (b : UInt8) : UInt8 :=
  if b = 0x2B then 0x20 else b

theorem decode_encodeByte (b : UInt8) (rest : Bytes) :
    Percent.decode ((encodeByte b).map (fun c => unplus (UInt8.ofNat c.toNat)) ++ rest) =
      b :: Percent.decode rest := by
  have hByte : b.toNat < 256 := b.toNat_lt
  unfold encodeByte
  split
  · rename_i hBlank
    subst hBlank
    exact Percent.decode_cons (by decide) rest
  · split
    · rename_i hKept
      rw [isKept_iff] at hKept
      have hValid : b.toNat.isValidChar := .inl (by omega)
      have hSelf : UInt8.ofNat (Char.ofNat b.toNat).toNat = b :=
        Text.Utf8.ofNat_eq_of_eq_toNat (Text.Utf8.toNat_val_ofNat hValid)
      have hPlus : b ≠ 0x2B := by
        rintro rfl
        exact absurd hKept (by decide)
      have hMark : b ≠ 0x25 := by
        rintro rfl
        exact absurd hKept (by decide)
      rw [List.map_singleton, hSelf, unplus, if_neg hPlus, List.singleton_append,
        Percent.decode_cons hMark]
    · -- No escape has a plus sign, so nothing in it is taken for a blank.
      have hDigit : ∀ n < 16, unplus (UInt8.ofNat (Percent.digit n).toNat) =
          UInt8.ofNat (Percent.digit n).toNat := by
        decide
      have hHigh := hDigit (b.toNat / 16) (by omega)
      have hLow := hDigit (b.toNat % 16) (by omega)
      have hEscape : (Percent.encodeByte b).map (fun c => unplus (UInt8.ofNat c.toNat)) =
          (Percent.encodeByte b).map fun c => UInt8.ofNat c.toNat := by
        simp only [Percent.encodeByte, List.map_cons, List.map_nil, hHigh, hLow]
        rfl
      rw [hEscape, Percent.decode_encodeByte]

theorem decode_flatMap_encodeByte (bytes : Bytes) :
    Percent.decode ((bytes.flatMap encodeByte).map fun c => unplus (UInt8.ofNat c.toNat)) =
      bytes := by
  induction bytes with
  | nil => rfl
  | cons b bytes ih => rw [List.flatMap_cons, List.map_append, decode_encodeByte, ih]

theorem encode_encodeChars (s : String) :
    Text.Utf8.encode (String.ofList (encodeChars s)) =
      (encodeChars s).map fun c => UInt8.ofNat c.toNat := by
  have hAscii : ∀ c ∈ (String.ofList (encodeChars s)).toList, c.toNat < 128 := by
    intro c hc
    rw [String.toList_ofList] at hc
    exact (isInert_of_mem_encodeChars hc).1
  rw [Text.Utf8.encode_of_ascii hAscii, String.toList_ofList]

theorem decodeText_encodeChars (s : String) :
    decodeText (Text.Utf8.encode (String.ofList (encodeChars s))) = s := by
  have hBytes := decode_flatMap_encodeByte (Text.Utf8.encode s)
  rw [decodeText, encode_encodeChars, List.map_map]
  exact (congrArg Text.Utf8.decodeLenient hBytes).trans (Text.Utf8.decodeLenient_encode s)

/-! ## Pairs -/

theorem toList_pair (name value : String) :
    (pair name value).toList = encodeChars name ++ '=' :: encodeChars value := by
  rw [pair, String.toList_ofList]

theorem not_mem_pair {c : Char} (hInert : ¬ IsInert c) (hEquals : c ≠ '=') (name value : String) :
    c ∉ (pair name value).toList := by
  rw [toList_pair, List.mem_append, List.mem_cons, not_or, not_or]
  exact ⟨fun h => hInert (isInert_of_mem_encodeChars h), hEquals,
    fun h => hInert (isInert_of_mem_encodeChars h)⟩

theorem readPair_pair (name value : String) :
    readPair (Text.Utf8.encode (pair name value)) = (name, value) := by
  have hParts : pair name value =
      String.ofList (encodeChars name) ++ "=" ++ String.ofList (encodeChars value) := by
    rw [← String.toList_inj, toList_pair]
    simp
  have hName : (0x3D : UInt8) ∉ Text.Utf8.encode (String.ofList (encodeChars name)) := by
    have hIff := Text.Utf8.mem_encode_iff (d := '=') (by decide)
      (s := String.ofList (encodeChars name))
    rw [String.toList_ofList] at hIff
    intro hMem
    exact (isInert_of_mem_encodeChars (hIff.mp hMem)).2.2.1 rfl
  have hEquals : Text.Utf8.encode "=" = [0x3D] := by decide
  rw [hParts, Text.Utf8.encode_append, Text.Utf8.encode_append, hEquals, List.append_assoc,
    List.singleton_append, readPair, Text.cut?_append hName]
  dsimp only
  rw [decodeText_encodeChars, decodeText_encodeChars]

theorem pairs_empty : pairs "" = [] := by
  decide

/-- An ampersand separates the pairs in front of it from those behind it. -/
theorem pairs_append (data more : String) :
    pairs (data ++ "&" ++ more) = pairs data ++ pairs more := by
  have hAmpersand : Text.Utf8.encode "&" = [0x26] := by decide
  rw [pairs, Text.Utf8.encode_append, Text.Utf8.encode_append, hAmpersand, List.append_assoc,
    List.singleton_append, Text.pieces_append, List.filter_append, List.map_append]
  rfl

theorem pairs_pair (name value : String) : pairs (pair name value) = [(name, value)] := by
  have hAmpersand : (0x26 : UInt8) ∉ Text.Utf8.encode (pair name value) := by
    have hIff := Text.Utf8.mem_encode_iff (d := '&') (by decide) (s := pair name value)
    exact fun hMem => not_mem_pair (by decide) (by decide) name value (hIff.mp hMem)
  have hEquals : (0x3D : UInt8) ∈ Text.Utf8.encode (pair name value) := by
    refine (Text.Utf8.mem_encode_iff (d := '=') (by decide)).mpr ?_
    rw [toList_pair]
    exact List.mem_append_right _ List.mem_cons_self
  have hNe : Text.Utf8.encode (pair name value) ≠ [] := List.ne_nil_of_mem hEquals
  rw [pairs, Text.pieces_of_not_mem hAmpersand]
  simp [hNe, readPair_pair]

/-- A pair at the end of form data is the last of its pairs. -/
theorem pairs_append_pair (data name value : String) :
    pairs (if data.isEmpty then pair name value else data ++ "&" ++ pair name value) =
      pairs data ++ [(name, value)] := by
  split
  · rename_i hEmpty
    rw [String.isEmpty_iff.mp hEmpty, pairs_pair, pairs_empty, List.nil_append]
  · rw [pairs_append, pairs_pair]

end SignOn.Http.Form
