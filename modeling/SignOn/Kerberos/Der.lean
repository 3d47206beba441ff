import SignOn.Error

/-!
# Tag-length-value elements

The part of the distinguished encoding rules that is needed to look into a negotiation token. An
element is a tag byte, the length of its content and the content. A length below 128 is one byte;
otherwise a byte `0x80 + n` announces a length of `n` bytes, at most four, the most significant
first. The elements inside another one are taken one after the other from its content.
-/

namespace SignOn

open SignOn.Text (Bytes)

/-- An element; taking the elements inside it uses up its content. -/
structure Der where
  tag : UInt8
  content : Bytes
deriving DecidableEq, Repr

namespace Der

/-- The tag of an object identifier. -/
def objectTag : UInt8 := 0x06

/-- The tag of a string of bytes. -/
def octetsTag : UInt8 := 0x04

/-- Takes the length of an element off the front. -/
def readLength : Bytes → Except DerFault (Nat × Bytes)
  | [] => .error .truncatedLength
  | first :: rest =>
    if first < 0x80 then .ok (first.toNat, rest)
    else
      let count := first.toNat - 0x80
      if 4 < count ∨ rest.length < count then .error .invalidLength
      else .ok ((rest.take count).foldl (fun n b => 256 * n + b.toNat) 0, rest.drop count)

/-- Takes an element off the front, and answers also what is left. The front moves on only when
there is a whole element. -/
def read (bytes : Bytes) : Except DerFault Der × Bytes :=
  match bytes with
  | [] => (.error .truncatedElement, bytes)
  | tag :: rest =>
    match readLength rest with
    | .error fault => (.error fault, bytes)
    | .ok (length, rest) =>
      if rest.length < length then (.error .truncatedContent, bytes)
      else (.ok ⟨tag, rest.take length⟩, rest.drop length)

/-- The first element of a byte string; bytes behind it do not matter. -/
def parse (bytes : Bytes) : Except DerFault Der :=
  (read bytes).1

/-- What is left after a length is not longer than before. -/
theorem readLength_length {bytes rest : Bytes} {n : Nat} (h : readLength bytes = .ok (n, rest)) :
    rest.length ≤ bytes.length := by
  cases bytes with
  | nil => simp [readLength] at h
  | cons first tail =>
    simp only [readLength] at h
    split at h
    · simp only [Except.ok.injEq, Prod.mk.injEq] at h
      simp [← h.2]
    · split at h
      · simp at h
      · simp only [Except.ok.injEq, Prod.mk.injEq] at h
        simp only [← h.2, List.length_drop, List.length_cons]
        omega

/-- What is left after an element is shorter than before. -/
theorem read_length {bytes rest : Bytes} {d : Der} (h : read bytes = (.ok d, rest)) :
    rest.length < bytes.length := by
  cases bytes with
  | nil => simp [read] at h
  | cons tag tail =>
    simp only [read] at h
    split at h
    · simp at h
    · rename_i length left hLength
      split at h
      · simp at h
      · have := readLength_length hLength
        simp only [← (Prod.mk.inj h).2, List.length_drop, List.length_cons]
        omega

/-- Whether elements are left inside: there is content, and the tag is one of those that may hold
elements. -/
def hasNext (d : Der) : Bool :=
  (d.tag &&& 0x30 != 0 || d.tag == octetsTag) && !d.content.isEmpty

/-- Takes the next element inside, and answers also the element with what is left of its content. -/
def next (d : Der) : Except DerFault Der × Der :=
  if d.hasNext then
    let (child, rest) := read d.content
    (child, { d with content := rest })
  else (.error (.noElement d.tag), d)

/-- Taking an element uses up content. -/
theorem next_length {d child rest : Der} (h : d.next = (.ok child, rest)) :
    rest.content.length < d.content.length := by
  simp only [next] at h
  split at h
  · rcases hRead : read d.content with ⟨found, left⟩
    rw [hRead] at h
    cases h
    exact read_length hRead
  · simp at h

/-- Takes elements until one has the tag, and the element with what is left. -/
def choose (tag : UInt8) (d : Der) : Option Der × Der :=
  match _h : d.next with
  | (.error _, rest) => (none, rest)
  | (.ok child, rest) => if child.tag = tag then (some child, rest) else choose tag rest
termination_by d.content.length
decreasing_by exact next_length _h

/-- Follows a path of tags from `found`, or from `top` if nothing is found yet: an element that has
the tag already stays, otherwise the first element inside with the tag is next. Answers also what
is left of `top`. -/
def follow (path : List UInt8) (found : Option Der) (top : Der) :
    List UInt8 → Except DerFault Der × Der
  | [] => (.ok (found.getD top), top)
  | tag :: tags =>
    let here := found.getD top
    if here.tag = tag then follow (path ++ [tag]) found top tags
    else
      let (child, rest) := here.choose tag
      let top := if found.isSome then top else rest
      match child with
      | some child => follow (path ++ [tag]) (some child) top tags
      | none => (.error (.tagNotFound (path ++ [tag])), top)

/-- Finds the element at the end of a path of tags; what was taken on the way is used up, whether
the element is found or not. -/
def get (d : Der) (tags : List UInt8) : Except DerFault Der × Der :=
  follow [] none d tags

/-- Whether an element is the given object identifier. -/
def isObject (d : Der) (object : Bytes) : Bool :=
  d.tag == objectTag && d.content == object

/-- The content as text. -/
def text (d : Der) : Except DerFault String :=
  match Text.Utf8.decode d.content with
  | .ok s => .ok s
  | .error fault => .error (.notText fault)

/-- The texts of all elements inside. -/
def texts (d : Der) : Except DerFault (List String) :=
  if d.hasNext then
    match _h : d.next with
    | (.error fault, _) => .error fault
    | (.ok child, rest) => do
      let first ← child.text
      let others ← texts rest
      .ok (first :: others)
  else .ok []
termination_by d.content.length
decreasing_by exact next_length _h

end Der

end SignOn
