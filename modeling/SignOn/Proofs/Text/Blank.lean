import SignOn.Proofs.Text.Case
import SignOn.Text.Blank

/-!
# Trimming

No visible character of ASCII is white space (`isBlank_of_visible`). A text without white space
stays as it is when it is trimmed (`stripBy_of_forall_not`), and a word without white space at the
start of a text stays there (`isPrefix_stripBy`). Letter case does not matter for trimming
(`trim_lowerAscii`).
-/

namespace SignOn.Text

theorem isBlank_of_visible {c : Char} (hLow : 33 ≤ c.toNat) (hHigh : c.toNat ≤ 126) :
    isBlank c = false := by
  simp [isBlank, blankRanges, Ranges.contains, Ranges.has]
  omega

section

variable {α : Type} {p : α → Bool}

theorem dropWhile_of_forall_not {xs : List α} (h : ∀ x ∈ xs, p x = false) :
    xs.dropWhile p = xs := by
  cases xs with
  | nil => rfl
  | cons x xs => simp [h x (List.mem_cons_self ..)]

theorem dropWhile_dropWhile (xs : List α) : (xs.dropWhile p).dropWhile p = xs.dropWhile p := by
  induction xs with
  | nil => rfl
  | cons x xs ih =>
    rw [List.dropWhile_cons]
    split
    · exact ih
    · rename_i hx
      exact List.dropWhile_cons_of_neg hx

/-- Nothing is taken off where there is nothing to take off. -/
theorem stripBy_of_forall_not {xs : List α} (h : ∀ x ∈ xs, p x = false) : stripBy p xs = xs := by
  have hBack : ∀ x ∈ xs.reverse, p x = false := fun x hx => h x (List.mem_reverse.mp hx)
  rw [stripBy, dropWhile_of_forall_not h, dropWhile_of_forall_not hBack, List.reverse_reverse]

/-- What is left is the beginning of what is left when only the front is stripped. -/
theorem stripBy_isPrefix (p : α → Bool) (xs : List α) : stripBy p xs <+: xs.dropWhile p := by
  have hSuffix := List.dropWhile_suffix p (l := (xs.dropWhile p).reverse)
  simpa [stripBy] using List.reverse_prefix.mpr hSuffix

theorem dropWhile_stripBy (xs : List α) : (stripBy p xs).dropWhile p = stripBy p xs := by
  obtain ⟨back, hBack⟩ := stripBy_isPrefix p xs
  cases hFirst : stripBy p xs with
  | nil => rfl
  | cons x rest =>
    have hHead := List.head?_dropWhile_not p xs
    rw [← hBack, hFirst] at hHead
    exact List.dropWhile_cons_of_neg (Bool.eq_false_iff.mp hHead)

/-- Stripping takes off nothing but what there was to take off. -/
theorem exists_stripBy (p : α → Bool) (xs : List α) :
    ∃ front back, xs = front ++ (stripBy p xs ++ back) ∧ (∀ x ∈ front, p x = true) ∧
      ∀ x ∈ back, p x = true := by
  refine ⟨xs.takeWhile p, ((xs.dropWhile p).reverse.takeWhile p).reverse, ?_, ?_, ?_⟩
  · rw [stripBy, ← List.reverse_append, List.takeWhile_append_dropWhile, List.reverse_reverse,
      List.takeWhile_append_dropWhile]
  · exact List.all_eq_true.mp List.all_takeWhile
  · intro x hx
    exact List.all_eq_true.mp List.all_takeWhile x (List.mem_reverse.mp hx)

theorem dropWhile_append_of_forall_not {word : List α} (hWord : ∀ x ∈ word, p x = false)
    (hNe : word ≠ []) (back : List α) : (word ++ back).dropWhile p = word ++ back := by
  obtain ⟨first, rest, rfl⟩ := List.exists_cons_of_ne_nil hNe
  exact List.dropWhile_cons_of_neg (by simp [hWord first (List.mem_cons_self ..)])

/-- Nothing is taken off between two words in which there is nothing to take off. -/
theorem stripBy_of_words {word back : List α} (hWord : ∀ x ∈ word, p x = false) (hNe : word ≠ [])
    (hBack : ∀ x ∈ back, p x = false) (hBackNe : back ≠ []) (middle : List α) :
    stripBy p (word ++ (middle ++ back)) = word ++ (middle ++ back) := by
  have hBack' : ∀ x ∈ back.reverse, p x = false := fun x hx => hBack x (List.mem_reverse.mp hx)
  have hBackNe' : back.reverse ≠ [] := by simpa using hBackNe
  rw [stripBy, dropWhile_append_of_forall_not hWord hNe, ← List.append_assoc, List.reverse_append,
    dropWhile_append_of_forall_not hBack' hBackNe', List.reverse_append, List.reverse_reverse,
    List.reverse_reverse]

/-- A word in which there is nothing to take off stays at the start. -/
theorem isPrefix_stripBy {word : List α} (hWord : ∀ x ∈ word, p x = false) (hNe : word ≠ [])
    (back : List α) : word <+: stripBy p (word ++ back) := by
  have hBack : ∀ x ∈ word.reverse, p x = false := fun x hx => hWord x (List.mem_reverse.mp hx)
  rw [stripBy, dropWhile_append_of_forall_not hWord hNe, List.reverse_append, List.dropWhile_append]
  split
  · simp only [dropWhile_of_forall_not hBack, List.reverse_reverse, List.prefix_rfl]
  · rw [List.reverse_append, List.reverse_reverse]
    exact List.prefix_append _ _

end

theorem stripBy_stripBy {α : Type} (p : α → Bool) (xs : List α) :
    stripBy p (stripBy p xs) = stripBy p xs := by
  have hFront : (stripBy p xs).dropWhile p = stripBy p xs := dropWhile_stripBy xs
  rw [stripBy, hFront, stripBy, List.reverse_reverse, dropWhile_dropWhile]

theorem trim_trim (s : String) : trim (trim s) = trim s := by
  rw [trim, trim, String.toList_ofList, stripBy_stripBy]

/-- White space in front does not count. -/
theorem trim_append_of_isBlank {front : String} (h : front.toList.all isBlank = true)
    (s : String) : trim (front ++ s) = trim s := by
  rw [List.all_eq_true] at h
  rw [trim, trim, String.toList_append, stripBy, stripBy, List.dropWhile_append_of_pos h]

/-- White space has no letter case. -/
theorem toLower_of_isBlank {c : Char} (h : isBlank c = true) : c.toLower = c := by
  have hSmall : ¬ (65 ≤ c.toNat ∧ c.toNat ≤ 90) := by
    rintro ⟨hLow, hHigh⟩
    rw [isBlank_of_visible (by omega) (by omega)] at h
    cases h
  unfold Char.toLower
  split
  · rename_i hUpper
    exact absurd hUpper hSmall
  · rfl

theorem isBlank_toLower (c : Char) : isBlank c.toLower = isBlank c := by
  cases hBlank : isBlank c with
  | true => rw [toLower_of_isBlank hBlank, hBlank]
  | false =>
    by_cases hUpper : 65 ≤ c.toNat ∧ c.toNat ≤ 90
    · have hCode := toNat_toLower c
      rw [if_pos hUpper] at hCode
      exact isBlank_of_visible (by omega) (by omega)
    · have hCode := toNat_toLower c
      rw [if_neg hUpper] at hCode
      rw [Char.toNat_inj.mp hCode, hBlank]

theorem stripBy_map {α : Type} {p : α → Bool} {f : α → α} (h : ∀ x, p (f x) = p x) (xs : List α) :
    stripBy p (xs.map f) = (stripBy p xs).map f := by
  have hSame : p ∘ f = p := funext h
  simp only [stripBy, List.dropWhile_map, ← List.map_reverse, hSame]

theorem trim_lowerAscii (s : String) : trim (lowerAscii s) = lowerAscii (trim s) := by
  rw [trim, trim, lowerAscii, lowerAscii, String.toList_ofList, String.toList_ofList,
    stripBy_map isBlank_toLower]

/-- A text that is trimmed in another letter case is trimmed. -/
theorem trim_eq_of_sameText {s t : String} (h : sameText (trim s) t = true) : trim t = t := by
  have hLower : lowerAscii (trim s) = lowerAscii t := beq_iff_eq.mp h
  have hTrimmed : lowerAscii (trim t) = lowerAscii t := by
    rw [← trim_lowerAscii, ← hLower, trim_lowerAscii, trim_trim]
  -- Lower case keeps the length, so nothing was taken off.
  have hLength : (stripBy isBlank t.toList).length = t.toList.length := by
    have hSame := congrArg (List.length ∘ String.toList) hTrimmed
    simpa [lowerAscii, trim] using hSame
  obtain ⟨front, back, hText, -, -⟩ := exists_stripBy isBlank t.toList
  have hSum := congrArg List.length hText
  simp only [List.length_append] at hSum
  have hFront : front = [] := List.length_eq_zero_iff.mp (by omega)
  have hBack : back = [] := List.length_eq_zero_iff.mp (by omega)
  rw [hFront, hBack, List.nil_append, List.append_nil] at hText
  rw [trim, ← hText, String.ofList_toList]

theorem sameText_iff {s t : String} :
    sameText s t = true ↔ s.toList.map Char.toLower = t.toList.map Char.toLower := by
  rw [sameText, beq_iff_eq, lowerAscii, lowerAscii, String.ofList_inj]

end SignOn.Text
