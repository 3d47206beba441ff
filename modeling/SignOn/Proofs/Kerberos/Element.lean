import Mathlib.Data.Nat.Log
import SignOn.Kerberos.Der
import SignOn.Proofs.Text.BigEndian

/-!
# Elements as they are written

An element is read exactly where a tag, a field that says the length of the content, and the content
stand one after the other (`read_eq_ok_iff`). A length can be said by several fields
(`LengthField`); `lengthField` is the shortest of them (`length_lengthField_le`). So what `write`
writes is read back whatever follows, the elements inside an element are taken one after the other
(`next_holding`), and a path of tags leads into the first one with the next tag, whatever stands
before it (`get_inside`).
-/

namespace SignOn.Der

open SignOn.Text (Bytes)
open SignOn.Text.BigEndian (length_write read_lt read_write)

/-! ## Lengths -/

/-- The bytes that say a length: one byte for a length below 128, or a byte that tells how many
bytes follow, at most four, and the length in these. -/
inductive LengthField : ℕ → Bytes → Prop
  | short {n : ℕ} (h : n < 0x80) : LengthField n [UInt8.ofNat n]
  | long {digits : Bytes} (h : digits.length ≤ 4) :
      LengthField (Text.BigEndian.read digits) (UInt8.ofNat (0x80 + digits.length) :: digits)

theorem readLength_eq_ok_iff {bytes rest : Bytes} {n : ℕ} :
    readLength bytes = .ok (n, rest) ↔ ∃ field, LengthField n field ∧ bytes = field ++ rest := by
  constructor
  · intro h
    cases bytes with
    | nil => cases h
    | cons first tail =>
      rw [readLength] at h
      split at h
      · rename_i hShort
        cases h
        have hField := LengthField.short (UInt8.lt_iff_toNat_lt.mp hShort)
        rw [UInt8.ofNat_toNat] at hField
        exact ⟨[first], hField, rfl⟩
      · rename_i hLong
        dsimp only at h
        split at h
        · cases h
        · rename_i hFits
          obtain ⟨rfl, rfl⟩ := Prod.mk.inj (Except.ok.inj h)
          have hFirst : 0x80 ≤ first.toNat :=
            Nat.not_lt.mp (UInt8.lt_iff_toNat_lt.not.mp hLong)
          have hLength : (tail.take (first.toNat - 0x80)).length = first.toNat - 0x80 := by
            rw [List.length_take]
            omega
          have hCount : (tail.take (first.toNat - 0x80)).length ≤ 4 := by omega
          have hField := LengthField.long hCount
          have hSum : 0x80 + (first.toNat - 0x80) = first.toNat := by omega
          rw [hLength, hSum, UInt8.ofNat_toNat] at hField
          exact ⟨_, hField, by simp⟩
  · rintro ⟨field, hField, rfl⟩
    cases hField with
    | short h =>
      have hByte : (UInt8.ofNat n).toNat = n := by
        rw [UInt8.toNat_ofNat']
        omega
      have hShort : UInt8.ofNat n < 0x80 := by
        rw [UInt8.lt_iff_toNat_lt, hByte]
        exact h
      rw [List.singleton_append, readLength, if_pos hShort, hByte]
    | @long digits h =>
      have hByte : (UInt8.ofNat (0x80 + digits.length)).toNat = 0x80 + digits.length := by
        rw [UInt8.toNat_ofNat']
        omega
      have hLong : ¬ UInt8.ofNat (0x80 + digits.length) < 0x80 := by
        rw [UInt8.lt_iff_toNat_lt, hByte]
        exact Nat.not_lt.mpr (Nat.le_add_right ..)
      have hFits : ¬ (4 < digits.length ∨ (digits ++ rest).length < digits.length) := by
        rw [List.length_append]
        omega
      rw [List.cons_append, readLength, if_neg hLong, hByte, Nat.add_sub_cancel_left]
      dsimp only
      rw [if_neg hFits, List.take_left, List.drop_left]
      rfl

/-! ## Elements -/

/-- An element is read exactly if its tag, a field that says the length of its content, and its
content stand in front. -/
theorem read_eq_ok_iff {bytes rest : Bytes} {d : Der} :
    read bytes = (.ok d, rest) ↔
      ∃ field, LengthField d.content.length field ∧ bytes = d.tag :: (field ++ d.content ++ rest) := by
  cases bytes with
  | nil => simp [read]
  | cons tag tail =>
    rw [read]
    constructor
    · intro h
      split at h
      · cases h
      · rename_i length left hLength
        obtain ⟨field, hField, rfl⟩ := readLength_eq_ok_iff.mp hLength
        split at h
        · cases h
        · rename_i hFits
          obtain ⟨hElement, rfl⟩ := Prod.mk.inj h
          obtain rfl := Except.ok.inj hElement
          have hTake : (left.take length).length = length := by
            rw [List.length_take]
            omega
          refine ⟨field, ?_, ?_⟩
          · rw [hTake]
            exact hField
          · rw [List.append_assoc, List.take_append_drop]
    · rintro ⟨field, hField, hBytes⟩
      obtain ⟨rfl, rfl⟩ := List.cons.inj hBytes
      have hLength : readLength (field ++ d.content ++ rest) =
          .ok (d.content.length, d.content ++ rest) :=
        readLength_eq_ok_iff.mpr ⟨field, hField, List.append_assoc ..⟩
      have hFits : ¬ (d.content ++ rest).length < d.content.length := by
        rw [List.length_append]
        omega
      simp only [hLength]
      rw [if_neg hFits, List.take_left, List.drop_left]

/-- What cannot be read stays where it is. -/
theorem eq_of_read_eq_error {bytes rest : Bytes} {fault : DerFault}
    (h : read bytes = (.error fault, rest)) : rest = bytes := by
  unfold read at h
  split at h
  · exact (Prod.mk.inj h).2.symm
  · split at h
    · exact (Prod.mk.inj h).2.symm
    · split at h
      · exact (Prod.mk.inj h).2.symm
      · simp at h

/-- The bytes are one way of writing the element. -/
def WrittenAs (d : Der) (bytes : Bytes) : Prop :=
  ∃ field, LengthField d.content.length field ∧ bytes = d.tag :: (field ++ d.content)

theorem read_eq_ok_iff_writtenAs {bytes rest : Bytes} {d : Der} :
    read bytes = (.ok d, rest) ↔ ∃ front, d.WrittenAs front ∧ bytes = front ++ rest := by
  rw [read_eq_ok_iff]
  constructor
  · rintro ⟨field, hField, rfl⟩
    exact ⟨_, ⟨field, hField, rfl⟩, rfl⟩
  · rintro ⟨_, ⟨field, hField, rfl⟩, rfl⟩
    exact ⟨field, hField, rfl⟩

/-- No two ways of writing an element begin alike. -/
theorem WrittenAs.unique {d : Der} {front front' rest rest' : Bytes} (h : d.WrittenAs front)
    (h' : d.WrittenAs front') (hSame : front ++ rest = front' ++ rest') :
    front = front' ∧ rest = rest' := by
  have hRead := read_eq_ok_iff_writtenAs.mpr ⟨front, h, hSame.symm⟩
  have hRest := (Prod.mk.inj
    (hRead.symm.trans (read_eq_ok_iff_writtenAs.mpr ⟨front', h', rfl⟩))).2
  subst hRest
  exact ⟨List.append_cancel_right hSame, rfl⟩

/-- The shortest field that says a length. -/
def lengthField (n : ℕ) : Bytes :=
  if n < 0x80 then [UInt8.ofNat n]
  else
    UInt8.ofNat (0x80 + (Nat.log 256 n + 1)) :: Text.BigEndian.write (Nat.log 256 n + 1) n

theorem lengthField_says {n : ℕ} (h : n < 2 ^ 32) : LengthField n (lengthField n) := by
  unfold lengthField
  by_cases hShort : n < 0x80
  · rw [if_pos hShort]
    exact .short hShort
  · rw [if_neg hShort]
    have hWidth : Nat.log 256 n < 4 := Nat.log_lt_of_lt_pow (by omega) h
    have hFits : n < 256 ^ (Nat.log 256 n + 1) := Nat.lt_pow_succ_log_self (by decide) n
    have hCount : (Text.BigEndian.write (Nat.log 256 n + 1) n).length ≤ 4 := by
      rw [length_write]
      omega
    have hField := LengthField.long hCount
    rw [read_write, Nat.mod_eq_of_lt hFits, length_write] at hField
    exact hField

/-- No field says a length in fewer bytes. -/
theorem length_lengthField_le {n : ℕ} {field : Bytes} (h : LengthField n field) :
    (lengthField n).length ≤ field.length := by
  unfold lengthField
  cases h with
  | short h =>
    rw [if_pos h]
  | @long digits h =>
    split
    · simp
    · have hWidth : Nat.log 256 (Text.BigEndian.read digits) < digits.length :=
        Nat.log_lt_of_lt_pow (by omega) (read_lt digits)
      simp only [List.length_cons, length_write]
      omega

/-- The bytes of an element, with its length in the shortest form. -/
def write (d : Der) : Bytes :=
  d.tag :: (lengthField d.content.length ++ d.content)

/-- The content is short enough for its length to be said. -/
def Fits (d : Der) : Prop :=
  d.content.length < 2 ^ 32

theorem read_write_append {d : Der} (h : d.Fits) (rest : Bytes) :
    read (d.write ++ rest) = (.ok d, rest) :=
  read_eq_ok_iff.mpr ⟨lengthField d.content.length, lengthField_says h, rfl⟩

theorem parse_write {d : Der} (h : d.Fits) : parse d.write = .ok d := by
  have hRead := read_write_append h []
  rw [List.append_nil] at hRead
  rw [parse, hRead]

/-! ## Elements inside elements -/

/-- Other elements may stand inside an element with this tag. -/
def MayHold (tag : UInt8) : Prop :=
  (tag &&& 0x30 != 0 || tag == octetsTag) = true

instance (tag : UInt8) : Decidable (MayHold tag) :=
  inferInstanceAs (Decidable (_ = true))

/-- The element with the given ones inside. -/
def holding (tag : UInt8) (inside : List Der) : Der :=
  ⟨tag, inside.flatMap write⟩

variable {tag : UInt8}

theorem Fits.of_mem {inside : List Der} (h : (holding tag inside).Fits) {d : Der}
    (hd : d ∈ inside) : d.Fits := by
  obtain ⟨before, after, rfl⟩ := List.append_of_mem hd
  unfold Fits holding at *
  simp only [List.flatMap_append, List.flatMap_cons, write, List.length_append,
    List.length_cons] at h
  omega

theorem Fits.only {d : Der} (h : (holding tag [d]).Fits) : d.Fits :=
  h.of_mem (List.mem_singleton_self d)

theorem Fits.tail {d : Der} {ds : List Der} (h : (holding tag (d :: ds)).Fits) :
    (holding tag ds).Fits := by
  unfold Fits holding at *
  dsimp only at h ⊢
  rw [List.flatMap_cons, List.length_append] at h
  omega

/-- The next element inside is the one that the content begins with. -/
theorem next_eq_ok_iff {d child rest : Der} :
    d.next = (.ok child, rest) ↔
      MayHold d.tag ∧ rest.tag = d.tag ∧
        ∃ front, child.WrittenAs front ∧ d.content = front ++ rest.content := by
  constructor
  · intro h
    rw [next] at h
    split at h
    · rename_i hHasNext
      rw [hasNext, Bool.and_eq_true] at hHasNext
      rcases hRead : read d.content with ⟨found, left⟩
      rw [hRead] at h
      cases h
      exact ⟨hHasNext.1, rfl, read_eq_ok_iff_writtenAs.mp hRead⟩
    · simp at h
  · rintro ⟨hTag, hSame, front, hFront, hContent⟩
    have hRead := read_eq_ok_iff_writtenAs.mpr ⟨front, hFront, hContent⟩
    have hHasNext : d.hasNext = true := by
      obtain ⟨field, -, rfl⟩ := hFront
      rw [hasNext, Bool.and_eq_true]
      exact ⟨hTag, by simp [hContent]⟩
    rw [next, if_pos hHasNext, hRead, ← hSame]

/-- An attempt to take an element that fails consumes nothing. -/
theorem eq_of_next_eq_error {d rest : Der} {fault : DerFault} (h : d.next = (.error fault, rest)) :
    rest = d := by
  rw [next] at h
  split at h
  · rcases hRead : read d.content with ⟨found, left⟩
    rw [hRead] at h
    cases h
    rw [eq_of_read_eq_error hRead]
  · exact (Prod.mk.inj h).2.symm

theorem next_holding {d : Der} {ds : List Der} (hTag : MayHold tag)
    (h : (holding tag (d :: ds)).Fits) :
    (holding tag (d :: ds)).next = (.ok d, holding tag ds) := by
  have hFront : d.WrittenAs d.write :=
    ⟨_, lengthField_says (h.of_mem (List.mem_cons_self ..)), rfl⟩
  exact next_eq_ok_iff.mpr ⟨hTag, rfl, d.write, hFront, List.flatMap_cons⟩

theorem choose_of_next {wanted : UInt8} {d child rest : Der} (h : d.next = (.ok child, rest)) :
    choose wanted d = if child.tag = wanted then (some child, rest) else choose wanted rest := by
  rw [choose]
  split
  · rename_i hNext
    rw [h] at hNext
    cases hNext
  · rename_i hNext
    rw [h] at hNext
    cases hNext
    rfl

theorem texts_of_next {d child rest : Der} {first : String} {others : List String}
    (h : d.next = (.ok child, rest)) (hFirst : child.text = .ok first)
    (hOthers : rest.texts = .ok others) : d.texts = .ok (first :: others) := by
  have hHasNext : d.hasNext = true := by
    by_contra hNone
    rw [next, if_neg hNone] at h
    cases h
  rw [texts, if_pos hHasNext]
  split
  · rename_i hNext
    rw [h] at hNext
    cases hNext
  · rename_i hNext
    rw [h] at hNext
    cases hNext
    rw [hFirst, hOthers]
    rfl

/-- The first element with the tag is found, and those behind it are left. -/
theorem choose_holding {wanted : UInt8} (hTag : MayHold tag) {before after : List Der} {d : Der}
    (h : (holding tag (before ++ d :: after)).Fits) (hBefore : ∀ other ∈ before, other.tag ≠ wanted)
    (hd : d.tag = wanted) :
    choose wanted (holding tag (before ++ d :: after)) = (some d, holding tag after) := by
  induction before with
  | nil =>
    rw [List.nil_append] at h ⊢
    rw [choose_of_next (next_holding hTag h), if_pos hd]
  | cons other before ih =>
    rw [List.forall_mem_cons] at hBefore
    rw [List.cons_append] at h ⊢
    rw [choose_of_next (next_holding hTag h), if_neg hBefore.1]
    exact ih h.tail hBefore.2

/-! ## Paths of tags -/

variable {tags : List UInt8} {found : Option Der} {d top target : Der}

/-- What was passed on the way shows in a failure only. -/
theorem follow_path {path : List UInt8} (path' : List UInt8)
    (h : (follow path found top tags).1 = .ok target) :
    (follow path' found top tags).1 = .ok target := by
  induction tags generalizing path path' found top with
  | nil => exact h
  | cons tag tags ih =>
    rw [follow] at h ⊢
    by_cases hTag : (found.getD top).tag = tag
    · rw [if_pos hTag] at h ⊢
      exact ih _ h
    · rw [if_neg hTag] at h ⊢
      generalize (found.getD top).choose tag = taken at h ⊢
      obtain ⟨_ | child, rest⟩ := taken
      · cases h
      · exact ih _ h

/-- Once an element is found, nothing more is taken from the top. -/
theorem follow_top {path : List UInt8} (top' : Der)
    (h : (follow path (some d) top tags).1 = .ok target) :
    follow path (some d) top' tags = (.ok target, top') := by
  induction tags generalizing path d with
  | nil =>
    cases h
    rfl
  | cons tag tags ih =>
    rw [follow, Option.getD_some] at h ⊢
    by_cases hTag : d.tag = tag
    · rw [if_pos hTag] at h ⊢
      exact ih h
    · rw [if_neg hTag] at h ⊢
      generalize d.choose tag = taken at h ⊢
      obtain ⟨_ | child, rest⟩ := taken
      · cases h
      · exact ih h

/-- A path is followed from an element that was found as from the top. -/
theorem follow_found (path : List UInt8) (top : Der) (h : (d.get tags).1 = .ok target) :
    follow path (some d) top tags = (.ok target, top) := by
  rw [get] at h
  induction tags generalizing path d with
  | nil =>
    cases h
    rfl
  | cons tag tags ih =>
    rw [follow, Option.getD_some]
    rw [follow, Option.getD_none] at h
    by_cases hTag : d.tag = tag
    · rw [if_pos hTag] at h ⊢
      exact ih _ (follow_path _ h)
    · rw [if_neg hTag] at h ⊢
      generalize d.choose tag = taken at h ⊢
      obtain ⟨_ | child, rest⟩ := taken
      · cases h
      · exact follow_top _ (follow_path _ h)

theorem get_here (hTag : d.tag = tag) (h : (d.get tags).1 = .ok target) :
    (d.get (tag :: tags)).1 = .ok target := by
  rw [get, follow, Option.getD_none, if_pos hTag]
  exact follow_path _ h

/-- A path leads into the first element inside that has the next tag, and leaves those behind it. -/
theorem get_inside (before : List Der) {after : List Der} {outer : UInt8} (hOuter : MayHold outer)
    (hFits : (holding outer (before ++ d :: after)).Fits)
    (hBefore : ∀ other ∈ before, other.tag ≠ tag) (hTag : d.tag = tag) (hNe : outer ≠ tag)
    (h : (d.get tags).1 = .ok target) :
    (holding outer (before ++ d :: after)).get (tag :: tags) = (.ok target, holding outer after) := by
  have hHere : (Option.getD none (holding outer (before ++ d :: after))).tag ≠ tag := hNe
  rw [get, follow, if_neg hHere, Option.getD_none, choose_holding hOuter hFits hBefore hTag]
  exact follow_found _ _ h

theorem get_child (before : List Der) {after : List Der} {outer : UInt8} (hOuter : MayHold outer)
    (hFits : (holding outer (before ++ d :: after)).Fits)
    (hBefore : ∀ other ∈ before, other.tag ≠ tag) (hTag : d.tag = tag) (hNe : outer ≠ tag)
    (h : (d.get tags).1 = .ok target) :
    ((holding outer (before ++ d :: after)).get (tag :: tags)).1 = .ok target :=
  congrArg Prod.fst (get_inside before hOuter hFits hBefore hTag hNe h)

end SignOn.Der
