import SignOn.Text.Quoted
import SignOn.Text.Split

/-!
# Where a text is cut

A text that ends with a separator and a part free of the first element of the separator is cut
exactly there, whatever stands in front (`cutLast?_append`); and whatever is cut can be put together
again (`eq_of_cutLast?`). The first cut is where the separator stands for the first time
(`cut?_eq_some_iff`). Parts with separators between them are found again as they were
(`pieces_intercalate`), and the pieces give the whole (`intercalate_pieces`). A text loses one pair
of quotes, and no more, when it is unquoted (`unquote_eq_iff`).
-/

namespace SignOn.Text

/-! ## The first separator -/

section

variable {α : Type} [BEq α] [LawfulBEq α] {d : α}

theorem cut?_append {a : List α} (h : d ∉ a) (b : List α) :
    cut? d (a ++ d :: b) = some (a, b) := by
  induction a with
  | nil => simp [cut?]
  | cons x a ih =>
    rw [List.mem_cons, not_or] at h
    have hx : (x == d) = false := by simpa using Ne.symm h.1
    rw [List.cons_append, cut?, ih h.2]
    simp [hx]

theorem eq_of_cut? {xs a b : List α} (h : cut? d xs = some (a, b)) : xs = a ++ d :: b := by
  induction xs generalizing a with
  | nil => cases h
  | cons x xs ih =>
    rw [cut?] at h
    split at h
    · rename_i hx
      cases h
      rw [eq_of_beq hx, List.nil_append]
    · obtain ⟨⟨a', b'⟩, hxs, hEq⟩ := Option.map_eq_some_iff.mp h
      cases hEq
      rw [ih hxs, List.cons_append]

theorem not_mem_of_cut? {xs a b : List α} (h : cut? d xs = some (a, b)) : d ∉ a := by
  induction xs generalizing a with
  | nil => cases h
  | cons x xs ih =>
    rw [cut?] at h
    split at h
    · cases h
      exact List.not_mem_nil
    · rename_i hx
      obtain ⟨⟨a', b'⟩, hxs, hEq⟩ := Option.map_eq_some_iff.mp h
      cases hEq
      rw [List.mem_cons, not_or]
      exact ⟨fun hEq => hx (by simp [hEq]), ih hxs⟩

/-- A sequence is cut at its first separator. -/
theorem cut?_eq_some_iff {xs a b : List α} :
    cut? d xs = some (a, b) ↔ d ∉ a ∧ xs = a ++ d :: b := by
  constructor
  · intro h
    exact ⟨not_mem_of_cut? h, eq_of_cut? h⟩
  · rintro ⟨ha, rfl⟩
    exact cut?_append ha b

theorem takeWhile_of_not_mem {xs : List α} (h : d ∉ xs) (rest : List α) :
    (xs ++ rest).takeWhile (· != d) = xs ++ rest.takeWhile (· != d) := by
  refine List.takeWhile_append_of_pos fun x hx => ?_
  simpa using fun hEq : x = d => h (hEq ▸ hx)

theorem before_of_not_mem {xs : List α} (h : d ∉ xs) : before d xs = xs := by
  simpa [before] using takeWhile_of_not_mem h []

theorem before_append {a : List α} (h : d ∉ a) (b : List α) : before d (a ++ d :: b) = a := by
  rw [before, takeWhile_of_not_mem h]
  simp

end

/-- A sequence is cut where its elements stop satisfying a condition. -/
theorem takeWhile_and_dropWhile_iff {α : Type} {p : α → Bool} {xs a b : List α} :
    xs.takeWhile p = a ∧ xs.dropWhile p = b ↔
      xs = a ++ b ∧ (∀ x ∈ a, p x = true) ∧ ∀ x, b.head? = some x → p x = false := by
  constructor
  · rintro ⟨rfl, rfl⟩
    refine ⟨List.takeWhile_append_dropWhile.symm, List.all_eq_true.mp List.all_takeWhile, ?_⟩
    intro x hx
    have hHead := List.head?_dropWhile_not p xs
    rw [hx] at hHead
    exact hHead
  · rintro ⟨rfl, ha, hb⟩
    rw [List.takeWhile_append_of_pos ha, List.dropWhile_append_of_pos ha]
    cases b with
    | nil => simp
    | cons x b => simp [hb x rfl]

/-! ## All separators -/

theorem piecesBy_ne_nil {α : Type} (p : α → Bool) (xs : List α) : piecesBy p xs ≠ [] := by
  fun_cases piecesBy p xs <;> simp

section

variable {α : Type} [BEq α] [LawfulBEq α] {d : α}

/-- The pieces of what stands in front of a separator come before those of what stands behind it. -/
theorem pieces_append (a b : List α) : pieces d (a ++ d :: b) = pieces d a ++ pieces d b := by
  unfold pieces
  induction a with
  | nil => simp [piecesBy]
  | cons x a ih =>
    rw [List.cons_append, piecesBy, piecesBy, ih]
    split
    · rfl
    · cases ha : piecesBy (· == d) a with
      | nil => exact absurd ha (piecesBy_ne_nil _ _)
      | cons y ys => rfl

theorem pieces_of_not_mem {a : List α} (h : d ∉ a) : pieces d a = [a] := by
  unfold pieces
  induction a with
  | nil => rfl
  | cons x a ih =>
    rw [List.mem_cons, not_or] at h
    have hx : (x == d) = false := by simpa using Ne.symm h.1
    rw [piecesBy, ih h.2]
    simp [hx]

/-- Parts with separators between them are the pieces. -/
theorem pieces_intercalate {parts : List (List α)} (hNe : parts ≠ []) (h : ∀ p ∈ parts, d ∉ p) :
    pieces d ([d].intercalate parts) = parts := by
  induction parts with
  | nil => exact absurd rfl hNe
  | cons first rest ih =>
    rw [List.forall_mem_cons] at h
    cases rest with
    | nil => rw [List.intercalate_singleton, pieces_of_not_mem h.1]
    | cons second rest =>
      rw [List.intercalate_cons_cons, List.append_assoc, List.singleton_append, pieces_append,
        pieces_of_not_mem h.1, ih (List.cons_ne_nil _ _) h.2]
      rfl

/-- The pieces with separators between them are the whole. -/
theorem intercalate_pieces (d : α) (xs : List α) : [d].intercalate (pieces d xs) = xs := by
  induction hLength : xs.length using Nat.strongRecOn generalizing xs with
  | ind n ih =>
    by_cases hd : d ∈ xs
    · obtain ⟨a, b, rfl, ha⟩ := List.eq_append_cons_of_mem hd
      have hRest : [d].intercalate (pieces d b) = b := by
        refine ih b.length ?_ b rfl
        rw [← hLength, List.length_append, List.length_cons]
        omega
      cases hPieces : pieces d b with
      | nil => exact absurd hPieces (piecesBy_ne_nil _ _)
      | cons first rest =>
        rw [hPieces] at hRest
        rw [pieces_append, pieces_of_not_mem ha, hPieces, List.singleton_append,
          List.intercalate_cons_cons, hRest, List.append_assoc]
        rfl
    · rw [pieces_of_not_mem hd, List.intercalate_singleton]

theorem exists_cons_mem_pieces {x : α} (h : x ≠ d) (xs : List α) :
    ∃ rest, x :: rest ∈ pieces d (x :: xs) := by
  have hx : (x == d) = false := by simpa using h
  unfold pieces
  rw [piecesBy, hx, if_neg Bool.false_ne_true]
  split
  · exact ⟨[], by simp⟩
  · exact ⟨_, List.mem_cons_self ..⟩

/-- Whatever stands in a piece stands so in the whole. -/
theorem isInfix_of_mem_pieces {xs piece : List α} (h : piece ∈ pieces d xs) : piece <:+: xs := by
  induction hLength : xs.length using Nat.strongRecOn generalizing xs with
  | ind n ih =>
    by_cases hd : d ∈ xs
    · obtain ⟨a, b, rfl, ha⟩ := List.eq_append_cons_of_mem hd
      rw [pieces_append, pieces_of_not_mem ha, List.singleton_append] at h
      rcases List.mem_cons.mp h with rfl | h
      · exact List.infix_append' [] piece (d :: b)
      · rw [List.length_append, List.length_cons] at hLength
        have hRest := ih b.length (by omega) h rfl
        exact hRest.trans ⟨a ++ [d], [], by simp⟩
    · rw [pieces_of_not_mem hd, List.mem_singleton] at h
      exact h ▸ List.infix_rfl

theorem not_mem_of_mem_pieces {xs piece : List α} (h : piece ∈ pieces d xs) : d ∉ piece := by
  unfold pieces at h
  induction xs generalizing piece with
  | nil =>
    rw [piecesBy, List.mem_singleton] at h
    rw [h]
    exact List.not_mem_nil
  | cons x xs ih =>
    rw [piecesBy] at h
    split at h
    · rcases List.mem_cons.mp h with rfl | h
      · exact List.not_mem_nil
      · exact ih h
    · rename_i hx
      have hNe : d ≠ x := fun hEq => hx (by simp [hEq])
      cases hp : piecesBy (· == d) xs with
      | nil => exact absurd hp (piecesBy_ne_nil _ _)
      | cons y ys =>
        rw [hp] at h ih
        rcases List.mem_cons.mp h with rfl | h
        · rw [List.mem_cons, not_or]
          exact ⟨hNe, ih (List.mem_cons_self ..)⟩
        · exact ih (List.mem_cons_of_mem _ h)

end

/-- A text is cut into the parts between which its separators stand. -/
theorem splitText_intercalate {d : Char} {sep : String} (hSep : sep.toList = [d])
    {parts : List String} (hNe : parts ≠ []) (h : ∀ part ∈ parts, d ∉ part.toList) :
    splitText d (sep.intercalate parts) = parts := by
  have hParts : ∀ p ∈ parts.map String.toList, d ∉ p := by simpa using h
  rw [splitText, String.toList_intercalate, hSep, pieces_intercalate (by simpa using hNe) hParts,
    List.map_map]
  simp

theorem intercalate_splitText {d : Char} {sep : String} (hSep : sep.toList = [d]) (s : String) :
    sep.intercalate (splitText d s) = s := by
  rw [← String.toList_inj, String.toList_intercalate, hSep, splitText, List.map_map]
  have hList : String.toList ∘ String.ofList = id := by
    funext cs
    exact String.toList_ofList
  rw [hList, List.map_id, intercalate_pieces]

theorem not_mem_of_mem_splitText {d : Char} {s part : String} (h : part ∈ splitText d s) :
    d ∉ part.toList := by
  obtain ⟨cs, hMem, rfl⟩ := List.mem_map.mp h
  rw [String.toList_ofList]
  exact not_mem_of_mem_pieces hMem

/-! ## The last separator -/

section

variable {α : Type} [BEq α] [LawfulBEq α]

theorem eq_of_cutLast? {sep : List α} :
    ∀ {xs a b : List α}, cutLast? sep xs = some (a, b) → xs = a ++ sep ++ b
  | [], _, _, h => by cases h
  | x :: xs, a, b, h => by
    rw [cutLast?] at h
    split at h
    · rename_i a' b' hxs
      cases h
      rw [eq_of_cutLast? hxs]
      rfl
    · split at h
      · rename_i hPre
        cases h
        exact (List.prefix_iff_eq_append.mp (List.isPrefixOf_iff_prefix.mp hPre)).symm
      · cases h

/-- No separator begins in a text without its first element. -/
theorem cutLast?_eq_none {d : α} {sep xs : List α} (h : d ∉ xs) :
    cutLast? (d :: sep) xs = none := by
  induction xs with
  | nil => rfl
  | cons x xs ih =>
    rw [List.mem_cons, not_or] at h
    have hd : (d == x) = false := by simpa using h.1
    rw [cutLast?, ih h.2]
    simp [List.isPrefixOf, hd]

/-- Behind the separator stands nothing that could begin another one, so it is the last one. -/
theorem cutLast?_append {d : α} {sep a b : List α} (hSep : d ∉ sep) (hb : d ∉ b) :
    cutLast? (d :: sep) (a ++ (d :: sep) ++ b) = some (a, b) := by
  induction a with
  | nil =>
    have hRest : d ∉ sep ++ b := by
      rw [List.mem_append, not_or]
      exact ⟨hSep, hb⟩
    rw [List.nil_append, List.cons_append, cutLast?, cutLast?_eq_none hRest]
    have hPre : (d :: sep).isPrefixOf (d :: (sep ++ b)) = true :=
      List.isPrefixOf_iff_prefix.mpr ⟨b, rfl⟩
    simp only [hPre, if_true]
    rw [← List.cons_append, List.drop_left]
  | cons x a ih =>
    rw [List.cons_append, List.cons_append, cutLast?, ih]

end

/-! ## One pair of quotes -/

theorem unquoteChars_quoted (cs : List Char) : unquoteChars ('"' :: (cs ++ ['"'])) = cs := by
  simp [unquoteChars]

/-- A text that is not in quotes stays as it is. -/
theorem unquoteChars_of_ne {cs : List Char} (h : ∀ inner, cs ≠ '"' :: (inner ++ ['"'])) :
    unquoteChars cs = cs := by
  unfold unquoteChars
  split
  · rename_i rest
    split
    · rename_i hLast
      obtain ⟨inner, hInner⟩ := List.getLast?_eq_some_iff.mp hLast
      exact absurd (congrArg ('"' :: ·) hInner) (h inner)
    · rfl
  · rfl

/-- Unquoting takes off one pair of quotes if there is one, and nothing else. -/
theorem unquote_eq_iff {s t : String} :
    unquote s = t ↔ s = "\"" ++ t ++ "\"" ∨ (∀ inner, s ≠ "\"" ++ inner ++ "\"") ∧ s = t := by
  have quoted : ∀ inner : String,
      ("\"" ++ inner ++ "\"").toList = '"' :: (inner.toList ++ ['"']) := by
    intro inner
    simp
  constructor
  · intro h
    by_cases hq : ∃ inner, s = "\"" ++ inner ++ "\""
    · obtain ⟨inner, rfl⟩ := hq
      left
      rw [unquote, quoted, unquoteChars_quoted, String.ofList_toList] at h
      rw [h]
    · right
      have hNe : ∀ inner, s ≠ "\"" ++ inner ++ "\"" := fun inner hi => hq ⟨inner, hi⟩
      refine ⟨hNe, ?_⟩
      rw [unquote, unquoteChars_of_ne, String.ofList_toList] at h
      · exact h
      · intro inner hi
        apply hNe (String.ofList inner)
        rw [← String.toList_inj, quoted, hi, String.toList_ofList]
  · rintro (rfl | ⟨hNe, rfl⟩)
    · rw [unquote, quoted, unquoteChars_quoted, String.ofList_toList]
    · rw [unquote, unquoteChars_of_ne, String.ofList_toList]
      intro inner hi
      apply hNe (String.ofList inner)
      rw [← String.toList_inj, quoted, hi, String.toList_ofList]

theorem unquote_quoted (s : String) : unquote ("\"" ++ s ++ "\"") = s :=
  unquote_eq_iff.mpr (.inl rfl)

end SignOn.Text
