import Mathlib.Data.List.Basic
import SignOn.Text.Case

/-!
# What letter case leaves alone

All small letters stand behind the at sign in the order of characters. So the lower-case form of a
text has no digit, sign or blank of ASCII that the text does not have (`mem_of_mem_lowercase`). In a
text of ASCII nothing but its capitals is changed (`lowercase_of_ascii`).
-/

namespace SignOn.Text

variable {c : Char}

/-- The small letters are characters, and all stand behind the at sign. -/
theorem CaseRun.target_bounds : ∀ r ∈ capitalRuns, 0x40 < r.target ∧
    (r.target + (r.last - r.first) < 0xd800 ∨
      0xdfff < r.target ∧ r.target + (r.last - r.first) < 0x110000) := by
  decide +kernel

theorem lowerChar_eq (d : Char) : lowerChar d = d ∨ 0x40 < (lowerChar d).toNat := by
  unfold lowerChar
  cases hFind : capitalRuns.find? fun r => r.has d.toNat with
  | none => exact .inl rfl
  | some r =>
    have hHas := List.find?_some hFind
    obtain ⟨hTarget, hRange⟩ := CaseRun.target_bounds r (List.mem_of_find?_eq_some hFind)
    simp only [CaseRun.has, Bool.and_eq_true, decide_eq_true_eq] at hHas
    have hValid : (r.target + (d.toNat - r.first)).isValidChar := by
      unfold Nat.isValidChar
      omega
    have hSmall : (Char.ofNat (r.target + (d.toNat - r.first))).toNat =
        r.target + (d.toNat - r.first) := by
      rw [Char.ofNat, dif_pos hValid]
      rfl
    right
    dsimp only
    omega

theorem mem_of_mem_lowerWithin {before after : List Char} {d : Char} (hc : c.toNat ≤ 0x40)
    (h : c ∈ lowerWithin before d after) : c = d := by
  unfold lowerWithin at h
  split at h
  · rw [List.mem_singleton] at h
    subst h
    split at hc <;> exact absurd hc (by decide)
  · split at h
    · rw [List.mem_pair] at h
      rcases h with rfl | rfl <;> exact absurd hc (by decide)
    · rw [List.mem_singleton] at h
      subst h
      exact (lowerChar_eq d).resolve_right (by omega)

theorem mem_of_mem_lowerAfter {before cs : List Char} (hc : c.toNat ≤ 0x40)
    (h : c ∈ lowerAfter before cs) : c ∈ cs := by
  induction cs generalizing before with
  | nil => exact h
  | cons d cs ih =>
    rw [lowerAfter, List.mem_append] at h
    rcases h with h | h
    · exact mem_of_mem_lowerWithin hc h ▸ List.mem_cons_self
    · exact List.mem_cons_of_mem d (ih h)

theorem mem_of_mem_lowercase {s : String} (hc : c.toNat ≤ 0x40) (h : c ∈ (lowercase s).toList) :
    c ∈ s.toList := by
  rw [lowercase, String.toList_ofList] at h
  exact mem_of_mem_lowerAfter hc h

/-! ## Texts of ASCII -/

/-- All characters of the text are of ASCII. -/
def IsAscii (s : String) : Prop :=
  ∀ c ∈ s.toList, c.toNat < 0x80

-- Named, since an instance for all characters would apply as well.
instance (s : String) : Decidable (IsAscii s) :=
  List.decidableBAll _ s.toList

theorem isAscii_append {s t : String} : IsAscii (s ++ t) ↔ IsAscii s ∧ IsAscii t := by
  simp only [IsAscii, String.toList_append, List.forall_mem_append]

theorem CaseRun.first_of_mem_tail : ∀ r ∈ capitalRuns.tail, 0x80 ≤ r.first := by
  decide +kernel

theorem toNat_toLower (c : Char) :
    c.toLower.toNat = if 65 ≤ c.toNat ∧ c.toNat ≤ 90 then c.toNat + 32 else c.toNat := by
  unfold Char.toLower
  split
  · rename_i hUpper
    have hRange : 65 ≤ c.toNat ∧ c.toNat ≤ 90 := hUpper
    rw [if_pos hRange]
    show (c.val + 32).toNat = c.toNat + 32
    rw [UInt32.toNat_add]
    have hVal : c.val.toNat = c.toNat := rfl
    simp only [hVal, UInt32.reduceToNat]
    omega
  · rename_i hUpper
    have hRange : ¬ (65 ≤ c.toNat ∧ c.toNat ≤ 90) := hUpper
    rw [if_neg hRange]

theorem toLower_toLower (c : Char) : c.toLower.toLower = c.toLower := by
  rw [← Char.toNat_inj, toNat_toLower c.toLower, toNat_toLower c]
  split_ifs <;> omega

theorem lowerAscii_lowerAscii (s : String) : lowerAscii (lowerAscii s) = lowerAscii s := by
  rw [lowerAscii, lowerAscii, String.toList_ofList, List.map_map]
  exact congrArg String.ofList (List.map_congr_left fun c _ => toLower_toLower c)

/-- For ASCII the small letters of all scripts are those of ASCII. -/
theorem lowerChar_of_ascii {c : Char} (h : c.toNat < 0x80) : lowerChar c = c.toLower := by
  have hRuns : capitalRuns = ⟨0x41, 0x5A, 1, 0x61⟩ :: capitalRuns.tail := rfl
  have hRest : (capitalRuns.tail.find? fun r => r.has c.toNat) = none := by
    rw [List.find?_eq_none]
    intro r hr hHas
    have hFirst := CaseRun.first_of_mem_tail r hr
    simp only [CaseRun.has, Bool.and_eq_true, decide_eq_true_eq] at hHas
    omega
  rw [lowerChar, hRuns, List.find?_cons, hRest, ← Char.toNat_inj, toNat_toLower]
  by_cases hUpper : 65 ≤ c.toNat ∧ c.toNat ≤ 90
  · have hHas : CaseRun.has ⟨0x41, 0x5A, 1, 0x61⟩ c.toNat = true := by
      simp [CaseRun.has, hUpper, Nat.mod_one]
    have hValid : (0x61 + (c.toNat - 0x41)).isValidChar := by
      unfold Nat.isValidChar
      omega
    rw [hHas, if_pos hUpper]
    dsimp only
    rw [Char.ofNat, dif_pos hValid]
    show 0x61 + (c.toNat - 0x41) = c.toNat + 32
    omega
  · have hHas : CaseRun.has ⟨0x41, 0x5A, 1, 0x61⟩ c.toNat = false := by
      simp [CaseRun.has]
      omega
    rw [hHas, if_neg hUpper]

theorem lowerAfter_of_ascii {before cs : List Char} (h : ∀ c ∈ cs, c.toNat < 0x80) :
    lowerAfter before cs = cs.map Char.toLower := by
  induction cs generalizing before with
  | nil => rfl
  | cons c cs ih =>
    rw [List.forall_mem_cons] at h
    have hSigma : c ≠ 'Σ' := by
      rintro rfl
      exact absurd h.1 (by decide)
    have hDotted : c ≠ 'İ' := by
      rintro rfl
      exact absurd h.1 (by decide)
    rw [lowerAfter, lowerWithin, if_neg hSigma, if_neg hDotted, lowerChar_of_ascii h.1, ih h.2]
    rfl

/-- The lower-case form of a text of ASCII has its capitals made small. -/
theorem lowercase_of_ascii {s : String} (h : IsAscii s) : lowercase s = lowerAscii s := by
  rw [lowercase, lowerAscii, lowerAfter_of_ascii h]

end SignOn.Text
