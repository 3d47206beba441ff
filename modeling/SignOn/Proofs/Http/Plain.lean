import SignOn.Http.Date
import SignOn.Proofs.Http.Headers
import SignOn.Proofs.Text.Base64
import SignOn.Proofs.Text.Decimal

/-!
# Plain texts

A text of printable ASCII without semicolons passes unchanged through header fields and cookies.
Numbers, base64 texts and dates are plain, and so is what is put together from plain texts.
-/

namespace SignOn.Http

open SignOn.Text (Bytes)

/-- A text of printable ASCII without semicolons. -/
def IsPlain (s : String) : Prop :=
  ∀ c ∈ s.toList, Headers.IsPrintable c ∧ c ≠ ';'

-- Named, since an instance for all characters would apply as well.
instance (s : String) : Decidable (IsPlain s) :=
  List.decidableBAll _ s.toList

theorem isPlain_append {s t : String} : IsPlain (s ++ t) ↔ IsPlain s ∧ IsPlain t := by
  simp only [IsPlain, String.toList_append, List.forall_mem_append]

theorem IsPlain.admits {s : String} (h : IsPlain s) : Headers.Admits s :=
  Headers.admits_of_isPrintable fun c hc => (h c hc).1

theorem IsPlain.readable? {s : String} (h : IsPlain s) :
    Headers.readable? (Text.Utf8.encode s) = some s :=
  Headers.readable?_of_isPrintable fun c hc => (h c hc).1

theorem IsPlain.not_mem {s : String} (h : IsPlain s) : ';' ∉ s.toList :=
  fun hMem => (h ';' hMem).2 rfl

theorem isPlain_of_numeral {s : String} (h : ∀ c ∈ s.toList, c.isDigit = true ∨ c = '-') :
    IsPlain s := by
  intro c hc
  rcases h c hc with hDigit | rfl
  · have hRange := Text.Decimal.toNat_of_isDigit hDigit
    refine ⟨⟨?_, ?_⟩, ?_⟩
    · show 32 ≤ c.toNat
      omega
    · show c.toNat ≤ 126
      omega
    · rintro rfl
      exact absurd hRange (by decide)
  · decide

theorem isPlain_print (v : Int64) : IsPlain (Text.Decimal.print v) :=
  isPlain_of_numeral fun _ => Text.Decimal.mem_print

theorem isPlain_base64 (bytes : Bytes) : IsPlain (Text.Base64.encode bytes) := by
  intro c hc
  have hAlphabet : ('=' :: Text.Base64.alphabet).all
      (fun c => decide (Headers.IsPrintable c ∧ c ≠ ';')) = true := by
    rw [Text.Base64.alphabet_eq]
    rfl
  simp only [List.all_eq_true, decide_eq_true_eq] at hAlphabet
  rw [Text.Base64.encode, String.toList_ofList] at hc
  rcases Text.Base64.mem_encodeChars hc with h | rfl
  · exact hAlphabet c (List.mem_cons_of_mem _ h)
  · exact hAlphabet _ (List.mem_cons_self ..)

theorem isPlain_padded (width n : Nat) : IsPlain (Text.Decimal.padded width n) := by
  apply isPlain_of_numeral
  intro c hc
  rw [Text.Decimal.padded, String.toList_ofList, List.mem_append] at hc
  rcases hc with hZero | hDigit
  · rw [List.eq_of_mem_replicate hZero]
    decide
  · exact .inl (Text.Decimal.isDigit_of_mem_printNat hDigit)

theorem isPlain_getD {names : List String} (h : ∀ s ∈ names, IsPlain s) (n : Nat) :
    IsPlain (names.getD n "") := by
  rw [List.getD_eq_getElem?_getD]
  cases hn : names[n]? with
  | none => decide
  | some s => exact h s (List.mem_of_getElem? hn)

/-- A date is plain. -/
theorem isPlain_date {seconds : Int} {s : String} (h : Date.text? seconds = some s) :
    IsPlain s := by
  have hDays : ∀ s ∈ Date.shortWeekdays, IsPlain s := by decide
  have hMonths : ∀ s ∈ Date.months, IsPlain s := by decide
  have hYear : ∀ year, IsPlain (String.ofList (Text.Decimal.printInt year)) := fun year =>
    isPlain_of_numeral fun c hc => Text.Decimal.mem_printInt (by simpa using hc)
  unfold Date.text? at h
  split at h
  · cases h
  · rw [← Option.some.inj h]
    simp only [isPlain_append, isPlain_getD hDays, isPlain_getD hMonths, isPlain_padded, hYear,
      true_and, and_true]
    decide

end SignOn.Http
