import SignOn.Http.Headers
import SignOn.Proofs.Text.Utf8

/-!
# Texts in header fields

Which texts may stand in a header field (`Headers.Admits`) is a matter of their parts
(`admits_append`). A text that stands in one is read back if and only if it is ASCII
(`readable?_encode_eq_some_iff`): other characters may be sent, but nobody can read them.
-/

namespace SignOn.Http.Headers

open SignOn.Text (Bytes)

/-! ## The fields of a message -/

theorem getAll_append (h : Headers) (name : String) (value : Bytes) :
    (h.append name value).getAll name = h.getAll name ++ [value] := by
  simp [getAll, append]

theorem ofTexts_singleton (name text : String) :
    ofTexts [(name, text)] = ({} : Headers).append name (Text.Utf8.encode text) := rfl

/-! ## What may stand in a field -/

/-- The text may stand in a header field. -/
def Admits (s : String) : Prop :=
  (Text.Utf8.encode s).all isAllowed = true

instance (s : String) : Decidable (Admits s) :=
  inferInstanceAs (Decidable (_ = _))

theorem value?_eq_some_iff {s : String} {value : Bytes} :
    value? s = some value ↔ Admits s ∧ value = Text.Utf8.encode s := by
  unfold value? Admits
  dsimp only
  split
  · rename_i h
    simp [h, eq_comm]
  · rename_i h
    simp [h]

theorem admits_iff {s : String} :
    Admits s ↔ ∀ c ∈ s.toList, (String.utf8EncodeChar c).all isAllowed = true := by
  rw [Admits, Text.Utf8.encode, List.all_flatMap, List.all_eq_true]

theorem admits_append {s t : String} : Admits (s ++ t) ↔ Admits s ∧ Admits t := by
  simp only [Admits, Text.Utf8.encode_append, List.all_append, Bool.and_eq_true]

/-- Characters of ASCII that can be seen, and blanks. -/
def IsPrintable (c : Char) : Prop :=
  ' ' ≤ c ∧ c ≤ '~'

instance (c : Char) : Decidable (IsPrintable c) :=
  inferInstanceAs (Decidable (_ ∧ _))

theorem IsPrintable.toNat {c : Char} (h : IsPrintable c) : 32 ≤ c.toNat ∧ c.toNat ≤ 126 := h

theorem IsPrintable.lt {c : Char} (h : IsPrintable c) : c.toNat < 128 :=
  Nat.lt_of_le_of_lt h.toNat.2 (by decide)

theorem isAllowed_iff {b : UInt8} :
    isAllowed b = true ↔ 32 ≤ b.toNat ∧ b.toNat ≠ 127 ∨ b.toNat = 9 := by
  simp [isAllowed, UInt8.le_iff_toNat_le, ← UInt8.toNat_inj]

theorem isReadable_iff {b : UInt8} :
    isReadable b = true ↔ 32 ≤ b.toNat ∧ b.toNat ≤ 126 ∨ b.toNat = 9 := by
  simp [isReadable, UInt8.le_iff_toNat_le, ← UInt8.toNat_inj]

theorem admits_of_isPrintable {s : String} (h : ∀ c ∈ s.toList, IsPrintable c) : Admits s := by
  have hAscii : ∀ c ∈ s.toList, c.toNat < 128 := fun c hc => (h c hc).lt
  rw [Admits, Text.Utf8.encode_of_ascii hAscii, List.all_map, List.all_eq_true]
  intro c hc
  have := (h c hc).toNat
  rw [Function.comp_apply, isAllowed_iff, UInt8.toNat_ofNat']
  omega

/-! ## What can be read -/

theorem map_ofNat_encode {s : String} (h : ∀ c ∈ s.toList, c.toNat < 128) :
    (Text.Utf8.encode s).map (fun b => Char.ofNat b.toNat) = s.toList := by
  rw [Text.Utf8.encode_of_ascii h, List.map_map]
  refine (List.map_congr_left fun c hc => ?_).trans (List.map_id _)
  have hSmall := h c hc
  rw [Function.comp_apply, UInt8.toNat_ofNat', Nat.mod_eq_of_lt (by omega), Char.ofNat_toNat, id]

theorem isReadable_of_ascii {s : String} (hAdmits : Admits s)
    (hAscii : ∀ c ∈ s.toList, c.toNat < 128) : (Text.Utf8.encode s).all isReadable = true := by
  rw [Admits, List.all_eq_true] at hAdmits
  rw [List.all_eq_true]
  intro b hb
  have hAllowed := isAllowed_iff.mp (hAdmits b hb)
  rw [Text.Utf8.encode_of_ascii hAscii, List.mem_map] at hb
  obtain ⟨c, hc, rfl⟩ := hb
  have := hAscii c hc
  rw [UInt8.toNat_ofNat'] at hAllowed
  rw [isReadable_iff, UInt8.toNat_ofNat']
  omega

/-- A text is read where it stands, and only as itself, if it may stand there and is ASCII. -/
theorem readable?_encode_eq_some_iff {s t : String} :
    readable? (Text.Utf8.encode s) = some t ↔
      t = s ∧ Admits s ∧ ∀ c ∈ s.toList, c.toNat < 128 := by
  constructor
  · intro h
    unfold readable? at h
    split at h
    · rename_i hAll
      rw [List.all_eq_true] at hAll
      have hAdmits : Admits s := by
        rw [Admits, List.all_eq_true]
        intro b hb
        have hRead := isReadable_iff.mp (hAll b hb)
        exact isAllowed_iff.mpr (by omega)
      have hAscii : ∀ c ∈ s.toList, c.toNat < 128 := by
        intro c hc
        refine Nat.lt_of_not_le fun hLarge => ?_
        obtain ⟨b, hb⟩ := List.exists_mem_of_ne_nil _ (String.utf8EncodeChar_ne_nil (c := c))
        have hHigh := Text.Utf8.le_of_mem_utf8EncodeChar hLarge hb
        have hRead := isReadable_iff.mp (hAll b (List.mem_flatMap.mpr ⟨c, hc, hb⟩))
        omega
      rw [map_ofNat_encode hAscii, String.ofList_toList] at h
      exact ⟨(Option.some.inj h).symm, hAdmits, hAscii⟩
    · cases h
  · rintro ⟨rfl, hAdmits, hAscii⟩
    rw [readable?, if_pos (isReadable_of_ascii hAdmits hAscii), map_ofNat_encode hAscii,
      String.ofList_toList]

theorem readable?_of_isPrintable {s : String} (h : ∀ c ∈ s.toList, IsPrintable c) :
    readable? (Text.Utf8.encode s) = some s :=
  readable?_encode_eq_some_iff.mpr ⟨rfl, admits_of_isPrintable h, fun c hc => (h c hc).lt⟩

end SignOn.Http.Headers
