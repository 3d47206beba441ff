import Mathlib.Data.List.Forall2
import SignOn.Proofs.Kerberos.Element

/-!
# The elements inside an element

The elements inside an element are taken one after the other until none is left or the next one
cannot be read. `Der.Takes` says that some were taken; what was taken and what is left stand one
after the other in the content (`Takes.content_eq`), and each element takes at least two bytes
(`Takes.length_le`), so every such loop comes to an end. It comes to one end only
(`Takes.unique`), which is what the search for a tag leaves behind when the tag is not there
(`choose_of_forall_ne`): an element that cannot be read stays where it is.

`Der.elements_exact` puts this together with the exact form of a single element.
-/

namespace SignOn.Der

open SignOn.Text (Bytes)

variable {d child rest last : Der} {children : List Der}

/-- Taking these elements from inside the first element, one after the other, leaves the second
element. -/
inductive Takes : Der → List Der → Der → Prop
  | none (d : Der) : Takes d [] d
  | next {d child rest last : Der} {children : List Der} (taken : d.next = (.ok child, rest))
      (others : Takes rest children last) : Takes d (child :: children) last

/-- Nothing more is taken from inside the element: none is left, or the next one cannot be read. -/
def IsSpent (d : Der) : Prop :=
  d.hasNext = false ∨ ∃ fault, d.next.1 = .error fault

theorem isSpent_iff : d.IsSpent ↔ ∃ fault, d.next = (.error fault, d) := by
  constructor
  · rintro (hNone | ⟨fault, hFault⟩)
    · exact ⟨.noElement d.tag, by simp [next, hNone]⟩
    · have hNext : d.next = (.error fault, d.next.2) := Prod.ext hFault rfl
      rw [eq_of_next_eq_error hNext] at hNext
      exact ⟨fault, hNext⟩
  · rintro ⟨fault, hFault⟩
    exact .inr ⟨fault, congrArg Prod.fst hFault⟩

theorem IsSpent.next_ne (h : d.IsSpent) : d.next ≠ (.ok child, rest) := by
  obtain ⟨fault, hFault⟩ := isSpent_iff.mp h
  rw [hFault]
  simp

/-- What an element ends with that may hold others: all of its content was taken, or what is left
does not begin with an element. -/
theorem IsSpent.content (h : d.IsSpent) (hTag : MayHold d.tag) :
    d.content = [] ∨ ∃ fault, (read d.content).1 = .error fault := by
  obtain ⟨fault, hFault⟩ := isSpent_iff.mp h
  by_cases hEmpty : d.content = []
  · exact .inl hEmpty
  · have hHasNext : d.hasNext = true := by
      rw [hasNext, Bool.and_eq_true]
      exact ⟨hTag, by simpa using hEmpty⟩
    rw [next, if_pos hHasNext] at hFault
    exact .inr ⟨fault, congrArg Prod.fst hFault⟩

theorem LengthField.length_pos {n : ℕ} {field : Bytes} (h : LengthField n field) :
    0 < field.length := by
  cases h <;> simp

theorem WrittenAs.two_le {bytes : Bytes} (h : d.WrittenAs bytes) : 2 ≤ bytes.length := by
  obtain ⟨field, hField, rfl⟩ := h
  have hPos := hField.length_pos
  simp only [List.length_cons, List.length_append]
  omega

namespace Takes

theorem tag_eq (h : Takes d children last) : last.tag = d.tag := by
  induction h with
  | none => rfl
  | next taken _ ih => exact ih.trans (next_eq_ok_iff.mp taken).2.1

theorem content_eq (h : Takes d children last) :
    ∃ pieces, List.Forall₂ WrittenAs children pieces ∧
      d.content = pieces.flatten ++ last.content := by
  induction h with
  | none => exact ⟨[], .nil, rfl⟩
  | next taken _ ih =>
    obtain ⟨-, -, front, hFront, hContent⟩ := next_eq_ok_iff.mp taken
    obtain ⟨pieces, hPieces, hRest⟩ := ih
    refine ⟨front :: pieces, .cons hFront hPieces, ?_⟩
    rw [hContent, hRest, List.flatten_cons, List.append_assoc]

theorem length_le (h : Takes d children last) :
    2 * children.length + last.content.length ≤ d.content.length := by
  induction h with
  | none => simp
  | next taken _ ih =>
    obtain ⟨-, -, front, hFront, hContent⟩ := next_eq_ok_iff.mp taken
    have hTwo := hFront.two_le
    rw [hContent, List.length_append, List.length_cons]
    omega

/-- Whoever takes as many elements as possible takes the same ones. -/
theorem unique {children' : List Der} {last' : Der} (h : Takes d children last)
    (hSpent : last.IsSpent) (h' : Takes d children' last') (hSpent' : last'.IsSpent) :
    children = children' ∧ last = last' := by
  induction h generalizing children' with
  | none =>
    cases h' with
    | none => exact ⟨rfl, rfl⟩
    | next taken => exact absurd taken hSpent.next_ne
  | next taken _ ih =>
    cases h' with
    | none => exact absurd taken hSpent'.next_ne
    | next taken' others' =>
      cases taken.symm.trans taken'
      obtain ⟨rfl, rfl⟩ := ih hSpent others'
      exact ⟨rfl, rfl⟩

end Takes

theorem exists_takes (d : Der) : ∃ children last, Takes d children last ∧ last.IsSpent := by
  induction hLength : d.content.length using Nat.strongRecOn generalizing d with
  | ind length ih =>
    subst hLength
    rcases hNext : d.next with ⟨fault | child, rest⟩
    · exact ⟨[], d, .none d, .inr ⟨fault, congrArg Prod.fst hNext⟩⟩
    · obtain ⟨children, last, hTakes, hSpent⟩ := ih _ (next_length hNext) rest rfl
      exact ⟨child :: children, last, .next hNext hTakes, hSpent⟩

/-- The search for a tag that no element has ends with what is left when all have been taken. -/
theorem choose_of_forall_ne {wanted : UInt8} (h : Takes d children last) (hSpent : last.IsSpent)
    (hOther : ∀ child ∈ children, child.tag ≠ wanted) : choose wanted d = (none, last) := by
  induction h with
  | none d =>
    obtain ⟨fault, hFault⟩ := isSpent_iff.mp hSpent
    rw [choose]
    split
    · rename_i hNext
      rw [hFault] at hNext
      cases hNext
      rfl
    · rename_i hNext
      exact absurd hNext hSpent.next_ne
  | next taken _ ih =>
    rw [List.forall_mem_cons] at hOther
    rw [choose_of_next taken, if_neg hOther.1]
    exact ih hSpent hOther.2

/-- **Elements are read exactly as they are written, and no byte is lost.** An element is read from
the front exactly if its tag, a field that says the length of its content, and its content stand
there; what follows is left, and all of it if there is no element, at the front of some bytes as
well as inside an element. Each element that is taken from inside another one makes its content
shorter, so taking one after the other comes to an end, and to one only: either all of the content
was taken, or what is left does not begin with an element. At each moment on the way, the bytes of
the elements that were taken and those that are left are the content, in this order. -/
theorem elements_exact :
    (∀ bytes tag content rest, read bytes = (.ok ⟨tag, content⟩, rest) ↔
      ∃ field, LengthField content.length field ∧ bytes = tag :: (field ++ content ++ rest)) ∧
    (∀ bytes fault rest, read bytes = (.error fault, rest) → rest = bytes) ∧
    (∀ (d : Der) fault rest, d.next = (.error fault, rest) → rest = d) ∧
    (∀ d child rest : Der, d.next = (.ok child, rest) →
      rest.content.length < d.content.length) ∧
    (∀ d children last, Takes d children last → last.tag = d.tag ∧
      ∃ pieces, List.Forall₂ WrittenAs children pieces ∧
        d.content = pieces.flatten ++ last.content) ∧
    ∀ d : Der, ∃ children last, Takes d children last ∧ last.IsSpent ∧
      (∀ children' last', Takes d children' last' → last'.IsSpent →
        children' = children ∧ last' = last) ∧
      (MayHold d.tag → last.content = [] ∨ ∃ fault, (read last.content).1 = .error fault) ∧
      ∀ wanted, (∀ child ∈ children, child.tag ≠ wanted) → choose wanted d = (none, last) := by
  refine ⟨fun bytes tag content rest => read_eq_ok_iff, fun bytes fault rest => eq_of_read_eq_error,
    fun d fault rest => eq_of_next_eq_error, fun d child rest => next_length,
    fun d children last h => ⟨h.tag_eq, h.content_eq⟩, fun d => ?_⟩
  obtain ⟨children, last, hTakes, hSpent⟩ := exists_takes d
  refine ⟨children, last, hTakes, hSpent, ?_, ?_, ?_⟩
  · intro children' last' hTakes' hSpent'
    exact hTakes'.unique hSpent' hTakes hSpent
  · intro hTag
    rw [← hTakes.tag_eq] at hTag
    exact hSpent.content hTag
  · intro wanted hOther
    exact choose_of_forall_ne hTakes hSpent hOther

/-- An element with one inside whose length is said by no byte at all, one whose length is said by
more bytes than it takes, and one that is cut off. -/
theorem elements_exact_odd :
    let odd : Der := ⟨0x30, [0x02, 0x80, 0x04, 0x82, 0x00, 0x01, 0xff, 0x02, 0x05, 0x01]⟩
    let last : Der := ⟨0x30, [0x02, 0x05, 0x01]⟩
    Takes odd [⟨0x02, []⟩, ⟨0x04, [0xff]⟩] last ∧ last.IsSpent ∧
      choose 0x05 odd = (none, last) := by
  intro odd last
  let second : Der := ⟨0x30, [0x04, 0x82, 0x00, 0x01, 0xff, 0x02, 0x05, 0x01]⟩
  have hFirst : odd.next = (.ok ⟨0x02, []⟩, second) := by decide
  have hSecond : second.next = (.ok ⟨0x04, [0xff]⟩, last) := by decide
  have hTakes : Takes odd [⟨0x02, []⟩, ⟨0x04, [0xff]⟩] last :=
    .next hFirst (.next hSecond (.none last))
  have hSpent : last.IsSpent := .inr ⟨.truncatedContent, by decide⟩
  obtain ⟨-, -, -, -, -, hAll⟩ := elements_exact
  obtain ⟨children, left, -, -, hUnique, -, hChoose⟩ := hAll odd
  obtain ⟨rfl, rfl⟩ := hUnique _ _ hTakes hSpent
  exact ⟨hTakes, hSpent, hChoose 0x05 (by decide)⟩

end SignOn.Der
