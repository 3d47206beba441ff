import Mathlib.Algebra.Group.Nat.Defs
import Mathlib.Tactic.Common
import SignOn.Text.Decimal

/-!
# Reading decimal integers that were written

A written integer is made of digits behind at most one minus sign, and it is read as itself: a
natural number (`natural?_printNat`), an integer (`integer?_printInt`) and a machine word
(`int64?_print`).

More can be read than is written: zeros may stand in front, and a plus sign. A machine word is read
from the texts that denote its value (`Denotes`, `int64?_eq_some_iff`), and from no other.
-/

namespace SignOn.Text.Decimal

theorem digit?_of_isDigit {c : Char} (h : c.isDigit = true) :
    digit? c = some (c.toNat - '0'.toNat) := by
  have hRange : '0' ≤ c ∧ c ≤ '9' := by
    simpa [Char.isDigit, Char.le_def] using h
  rw [digit?, if_pos hRange]

theorem toNat_of_isDigit {c : Char} (h : c.isDigit = true) : 48 ≤ c.toNat ∧ c.toNat ≤ 57 := by
  simpa [Char.isDigit, UInt32.le_iff_toNat_le] using h

/-- Digits behind a number are read from left to right. -/
theorem digits?_of_isDigit {cs : List Char} (h : ∀ c ∈ cs, c.isDigit = true) (acc : Nat) :
    digits? acc cs = some (Nat.ofDigitChars 10 cs acc) := by
  induction cs generalizing acc with
  | nil => rfl
  | cons c cs ih =>
    have hc := digit?_of_isDigit (h c (List.mem_cons_self ..))
    simp only [digits?, hc]
    exact ih (fun d hd => h d (List.mem_cons_of_mem c hd)) _

theorem isDigit_of_mem_printNat {n : Nat} {c : Char} (h : c ∈ printNat n) : c.isDigit = true :=
  Nat.isDigit_of_mem_toDigits (by decide) (by decide) h

theorem natural?_printNat (n : Nat) : natural? (printNat n) = some n := by
  have hDigits := digits?_of_isDigit (fun c => isDigit_of_mem_printNat (n := n) (c := c)) 0
  rw [printNat, Nat.ofDigitChars_ten_toDigits] at hDigits
  unfold natural? printNat
  split
  · rename_i hNil
    exact absurd hNil Nat.toDigits_ne_nil
  · exact hDigits

/-- No natural number begins with a sign. -/
theorem integer?_printNat (n : Nat) : integer? (printNat n) = some (Int.ofNat n) := by
  have hSign : ∀ c ∈ printNat n, c ≠ '+' ∧ c ≠ '-' := by
    intro c hc
    have hDigit := isDigit_of_mem_printNat hc
    constructor <;> rintro rfl <;> exact absurd hDigit (by decide)
  have hNatural := natural?_printNat n
  unfold integer?
  split
  · rename_i rest hEq
    exact absurd rfl (hSign '+' (hEq ▸ List.mem_cons_self ..)).1
  · rename_i rest hEq
    exact absurd rfl (hSign '-' (hEq ▸ List.mem_cons_self ..)).2
  · rw [hNatural, Option.map_some]

theorem integer?_printInt (v : Int) : integer? (printInt v) = some v := by
  cases v with
  | ofNat n => exact integer?_printNat n
  | negSucc n =>
    rw [printInt, integer?, natural?_printNat]
    rfl

theorem int64?_print (v : Int64) : int64? (print v) = some v := by
  have hLow := v.le_toInt
  have hHigh := v.toInt_lt
  have hFits : fitsInt64 v.toInt = true := by
    simp only [fitsInt64, Bool.and_eq_true, decide_eq_true_eq]
    omega
  simp only [int64?, print, String.toList_ofList, integer?_printInt, hFits, if_true,
    Int64.ofInt_toInt]

/-- An integer is written with digits and a minus sign. -/
theorem mem_printInt {v : Int} {c : Char} (h : c ∈ printInt v) : c.isDigit = true ∨ c = '-' := by
  cases v with
  | ofNat n => exact .inl (isDigit_of_mem_printNat h)
  | negSucc n =>
    rcases List.mem_cons.mp h with rfl | h
    · exact .inr rfl
    · exact .inl (isDigit_of_mem_printNat h)

theorem mem_print {v : Int64} {c : Char} (h : c ∈ (print v).toList) :
    c.isDigit = true ∨ c = '-' := by
  rw [print, String.toList_ofList] at h
  exact mem_printInt h

/-! ## All that can be read -/

/-- One or more digits. -/
def IsRun (digits : List Char) : Prop :=
  digits ≠ [] ∧ ∀ c ∈ digits, c.isDigit = true

/-- The characters denote an integer: one or more digits, perhaps behind a sign. -/
inductive Denotes : List Char → Int → Prop
  | unsigned {digits : List Char} (h : IsRun digits) :
      Denotes digits (Nat.ofDigitChars 10 digits 0)
  | plus {digits : List Char} (h : IsRun digits) :
      Denotes ('+' :: digits) (Nat.ofDigitChars 10 digits 0)
  | minus {digits : List Char} (h : IsRun digits) :
      Denotes ('-' :: digits) (-Nat.ofDigitChars 10 digits 0)

theorem isDigit_of_digit? {c : Char} {d : Nat} (h : digit? c = some d) : c.isDigit = true := by
  unfold digit? at h
  split at h
  · rename_i hRange
    simpa [Char.isDigit, Char.le_def] using hRange
  · cases h

theorem isDigit_of_digits? {acc n : Nat} {cs : List Char} (h : digits? acc cs = some n) :
    ∀ c ∈ cs, c.isDigit = true := by
  induction cs generalizing acc with
  | nil => simp
  | cons c cs ih =>
    rw [digits?] at h
    split at h
    · rename_i d hDigit
      exact List.forall_mem_cons.mpr ⟨isDigit_of_digit? hDigit, ih h⟩
    · cases h

theorem natural?_eq_some_iff {cs : List Char} {n : Nat} :
    natural? cs = some n ↔ IsRun cs ∧ n = Nat.ofDigitChars 10 cs 0 := by
  cases cs with
  | nil => simp [natural?, IsRun]
  | cons c cs =>
    rw [natural?]
    · constructor
      · intro h
        have hDigits := isDigit_of_digits? h
        rw [digits?_of_isDigit hDigits] at h
        exact ⟨⟨List.cons_ne_nil _ _, hDigits⟩, (Option.some.inj h).symm⟩
      · rintro ⟨⟨-, hDigits⟩, rfl⟩
        exact digits?_of_isDigit hDigits 0
    · exact List.cons_ne_nil _ _

/-- A run of digits has no sign. -/
theorem IsRun.ne_sign {c : Char} {digits : List Char} (h : IsRun (c :: digits)) :
    c ≠ '+' ∧ c ≠ '-' := by
  have hDigit := h.2 c (List.mem_cons_self ..)
  constructor <;> rintro rfl <;> exact absurd hDigit (by decide)

theorem integer?_eq_some_iff {cs : List Char} {v : Int} :
    integer? cs = some v ↔ Denotes cs v := by
  constructor
  · intro h
    unfold integer? at h
    split at h
    all_goals
      obtain ⟨n, hNatural, rfl⟩ := Option.map_eq_some_iff.mp h
      obtain ⟨hRun, rfl⟩ := natural?_eq_some_iff.mp hNatural
    · exact .plus hRun
    · exact .minus hRun
    · exact .unsigned hRun
  · intro h
    cases h with
    | unsigned hRun =>
      have hNatural := natural?_eq_some_iff.mpr ⟨hRun, rfl⟩
      unfold integer?
      split
      · exact absurd rfl hRun.ne_sign.1
      · exact absurd rfl hRun.ne_sign.2
      · rw [hNatural]
        rfl
    | plus hRun =>
      rw [integer?, natural?_eq_some_iff.mpr ⟨hRun, rfl⟩]
      rfl
    | minus hRun =>
      rw [integer?, natural?_eq_some_iff.mpr ⟨hRun, rfl⟩]
      rfl

theorem fitsInt64_iff {v : Int} : fitsInt64 v = true ↔ ∃ n : Int64, n.toInt = v := by
  rw [fitsInt64, Bool.and_eq_true, decide_eq_true_eq, decide_eq_true_eq]
  constructor
  · rintro ⟨hLow, hHigh⟩
    exact ⟨Int64.ofInt v, Int64.toInt_ofInt_of_le (by omega) (by omega)⟩
  · rintro ⟨n, rfl⟩
    have hLow := n.le_toInt
    have hHigh := n.toInt_lt
    omega

/-- A machine word is read from the texts that denote its value. -/
theorem int64?_eq_some_iff {s : String} {n : Int64} :
    int64? s = some n ↔ Denotes s.toList n.toInt := by
  rw [← integer?_eq_some_iff, int64?]
  constructor
  · intro h
    split at h
    · rename_i v hValue
      split at h
      · rename_i hFits
        obtain ⟨m, rfl⟩ := fitsInt64_iff.mp hFits
        rw [Int64.ofInt_toInt] at h
        rw [hValue, Option.some.inj h]
      · cases h
    · cases h
  · intro h
    simp only [h, fitsInt64_iff.mpr ⟨n, rfl⟩, if_true, Int64.ofInt_toInt]

/-! ## Natural numbers of 64 bits -/

/-- Without a plus sign in front, a natural number of 64 bits is a run of digits. -/
theorem word64?_eq_some_iff {cs : List Char} {n : Nat} (hSign : cs.head? ≠ some '+') :
    word64? cs = some n ↔ IsRun cs ∧ n = Nat.ofDigitChars 10 cs 0 ∧ n < 2 ^ 64 := by
  unfold word64?
  split
  · exact absurd rfl hSign
  · rw [Option.bind_eq_some_iff]
    simp only [natural?_eq_some_iff]
    constructor
    · rintro ⟨n, ⟨hRun, rfl⟩, h⟩
      split at h
      · cases h
        exact ⟨hRun, rfl, by omega⟩
      · cases h
    · rintro ⟨hRun, rfl, hFits⟩
      exact ⟨_, ⟨hRun, rfl⟩, if_pos (by omega)⟩

theorem isRun_printNat (n : Nat) : IsRun (printNat n) :=
  ⟨Nat.toDigits_ne_nil, fun _ => isDigit_of_mem_printNat⟩

theorem ofDigitChars_printNat (n : Nat) : Nat.ofDigitChars 10 (printNat n) 0 = n :=
  Nat.ofDigitChars_ten_toDigits ..

end SignOn.Text.Decimal
