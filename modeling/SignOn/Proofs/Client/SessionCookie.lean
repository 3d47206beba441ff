import Mathlib.Algebra.Group.Int.Defs
import SignOn.Client.SessionCookie
import SignOn.Proofs.Http.Headers
import SignOn.Proofs.Text.Split

/-!
# What a client keeps of the cookies it is given

Of the fields of an answer only those matter that can be read and set the session cookie (`Sets`),
and of these only the last one (`afterAnswer_eq`). What it gives is kept unless it is blank or lives
for less than two seconds, and for nine tenths of its life at most (`afterAnswer_exact`).
-/

namespace SignOn

open SignOn.Http (Cookie Headers)

namespace SessionCookie

/-! ## Lifetimes -/

section

variable {seconds : Int}

theorem keptSeconds_of_nonneg (h : 0 ≤ seconds) :
    keptSeconds seconds = min (9 * seconds) 9223372036854775807 / 10 := by
  unfold keptSeconds bounded
  rw [Int.tdiv_eq_ediv_of_nonneg (by omega)]
  omega

theorem keptSeconds_of_neg (h : seconds < 0) :
    -922337203685477580 ≤ keptSeconds seconds ∧ keptSeconds seconds ≤ 0 := by
  have hOpposite : bounded (9 * seconds) = -min (-(9 * seconds)) 9223372036854775808 := by
    unfold bounded
    omega
  rw [keptSeconds, hOpposite, Int.neg_tdiv, Int.tdiv_eq_ediv_of_nonneg (by omega)]
  omega

/-- Something is kept of a lifetime exactly if nine tenths of it are a second at least. -/
theorem keptSeconds_pos_iff : 0 < keptSeconds seconds ↔ 1 ≤ 9 * seconds / 10 := by
  rcases Int.lt_or_le seconds 0 with hNegative | hNonneg
  · have := (keptSeconds_of_neg hNegative).2
    omega
  · rw [keptSeconds_of_nonneg hNonneg]
    omega

theorem keptSeconds_le_iff : keptSeconds seconds ≤ 0 ↔ seconds < 2 := by
  rw [← Int.not_lt, keptSeconds_pos_iff]
  omega

theorem keptSeconds_bounds (seconds : Int) :
    -922337203685477580 ≤ keptSeconds seconds ∧ keptSeconds seconds ≤ 922337203685477580 := by
  rcases Int.lt_or_le seconds 0 with hNegative | hNonneg
  · have := keptSeconds_of_neg hNegative
    omega
  · rw [keptSeconds_of_nonneg hNonneg]
    omega

end

/-- A number that is not negative is the same without a sign. -/
theorem toNat_toUInt64 {n : Int64} (h : 0 ≤ n.toInt) : (n.toUInt64.toNat : Int) = n.toInt := by
  have hInt : n.toInt = n.toBitVec.toInt := rfl
  have hNat : n.toUInt64.toNat = n.toBitVec.toNat := rfl
  have hBits := n.toBitVec.isLt
  rw [hInt, BitVec.toInt_eq_toNat_cond] at h ⊢
  rw [hNat]
  split at h <;> split <;> omega

/-- In 64 bits the product is brought into range before it is divided, so that the quotient is
exact, and so it stays as a number without a sign if it is positive. -/
theorem toInt_keptSeconds (seconds : Int) :
    let product := Int64.ofInt (bounded (9 * seconds))
    product.toInt = bounded (9 * seconds) ∧ (product / 10).toInt = keptSeconds seconds ∧
      (0 ≤ keptSeconds seconds → ((product / 10).toUInt64.toNat : Int) = keptSeconds seconds) := by
  intro product
  have hProduct : product.toInt = bounded (9 * seconds) := by
    apply Int64.toInt_ofInt_of_le
    · unfold bounded
      omega
    · unfold bounded
      omega
  have hBounds := keptSeconds_bounds seconds
  have hTen : (10 : Int64).toInt = 10 := rfl
  have hQuotient : (product / 10).toInt = keptSeconds seconds := by
    rw [Int64.toInt_div, hProduct, hTen]
    exact Int.bmod_eq_of_le (by rw [← keptSeconds]; omega) (by rw [← keptSeconds]; omega)
  refine ⟨hProduct, hQuotient, ?_⟩
  intro hNonneg
  rw [← hQuotient] at hNonneg ⊢
  exact toNat_toUInt64 hNonneg

/-! ## Values -/

/-- The text begins and ends with a double quote, and these are two. -/
def InQuotes (s : String) : Prop :=
  ∃ inner, s = "\"" ++ inner ++ "\""

theorem unquote_of_not_inQuotes {s : String} (h : ¬ InQuotes s) : Text.unquote s = s :=
  Text.unquote_eq_iff.mpr (.inr ⟨fun inner hs => h ⟨inner, hs⟩, rfl⟩)

theorem head?_of_inQuotes {s : String} (h : InQuotes s) : s.toList.head? = some '"' := by
  obtain ⟨inner, rfl⟩ := h
  simp

theorem quoted_of_head {value : String} (h : value.toList.head? = some '"') :
    quoted value = value :=
  if_pos h

theorem quoted_of_not_head {value : String} (h : value.toList.head? ≠ some '"') :
    quoted value = "\"" ++ value ++ "\"" :=
  if_neg h

/-- What is shown of a value is not changed by the quotes that it is put in. -/
theorem unquote_quoted_value (value : String) :
    Text.unquote (quoted value) = Text.unquote value := by
  by_cases hHead : value.toList.head? = some '"'
  · rw [quoted_of_head hHead]
  · rw [quoted_of_not_head hHead, Text.unquote_quoted,
      unquote_of_not_inQuotes fun h => hHead (head?_of_inQuotes h)]

theorem ofValue_blank {value : String} (h : Text.unquote value = "") (lifetime : Option Int) :
    ofValue value lifetime = {} :=
  if_pos h

/-- What is kept of a value that is not blank. -/
theorem held_ofValue {value : String} (h : Text.unquote value ≠ "") (lifetime : Option Int) :
    (ofValue value lifetime).held =
      if ∃ seconds ∈ lifetime, keptSeconds seconds ≤ 0 then none
      else some { text := quoted value, lifetime := lifetime.map keptSeconds } := by
  unfold ofValue
  rw [if_neg h]
  cases lifetime with
  | none => simp
  | some seconds =>
    by_cases hShort : keptSeconds seconds ≤ 0 <;> simp [hShort]

theorem ofValue_held_eq_some {value : String} {lifetime : Option Int} {held : HeldCookie}
    (h : (ofValue value lifetime).held = some held) :
    Text.unquote value ≠ "" ∧ held.text = quoted value ∧
      held.lifetime = lifetime.map keptSeconds ∧
      ∀ seconds, lifetime = some seconds → 0 < keptSeconds seconds := by
  by_cases hBlank : Text.unquote value = ""
  · rw [ofValue_blank hBlank] at h
    cases h
  · rw [held_ofValue hBlank] at h
    split at h
    · cases h
    · rename_i hLong
      cases h
      refine ⟨hBlank, rfl, rfl, ?_⟩
      intro seconds hSeconds
      exact Int.not_le.mp fun hShort => hLong ⟨seconds, hSeconds, hShort⟩

theorem value?_ofValue {value : String} {lifetime : Option Int}
    (h : (ofValue value lifetime).isSet = true) :
    (ofValue value lifetime).value? = some (Text.unquote value) := by
  obtain ⟨held, hHeld⟩ := Option.isSome_iff_exists.mp h
  obtain ⟨-, hText, -, -⟩ := ofValue_held_eq_some hHeld
  rw [value?, hHeld, Option.map_some, hText, unquote_quoted_value]

theorem isSet_ofValue_iff {value : String} {lifetime : Option Int} :
    (ofValue value lifetime).isSet = true ↔
      Text.unquote value ≠ "" ∧ ∀ seconds, lifetime = some seconds → 1 ≤ 9 * seconds / 10 := by
  simp only [← keptSeconds_pos_iff]
  constructor
  · intro h
    obtain ⟨held, hHeld⟩ := Option.isSome_iff_exists.mp h
    obtain ⟨hBlank, -, -, hLong⟩ := ofValue_held_eq_some hHeld
    exact ⟨hBlank, hLong⟩
  · rintro ⟨hBlank, hLong⟩
    have hNot : ¬ ∃ seconds ∈ lifetime, keptSeconds seconds ≤ 0 := by
      rintro ⟨seconds, hSeconds, hShort⟩
      exact Int.not_lt.mpr hShort (hLong seconds hSeconds)
    rw [isSet, held_ofValue hBlank, if_neg hNot]
    rfl

/-! ## Fields that set the cookie -/

/-- The field can be read and sets the session cookie, whose name may be in any letter case. -/
def Sets (field : Text.Bytes) (cookie : Cookie) : Prop :=
  ∃ text, Headers.readable? field = some text ∧ Cookie.parse? text = some cookie ∧
    Text.sameText cookie.name "auth" = true

variable {now : Int} {field : Text.Bytes}

theorem Sets.unique {cookie other : Cookie} (h : Sets field cookie) (h' : Sets field other) :
    cookie = other := by
  obtain ⟨text, hText, hCookie, -⟩ := h
  obtain ⟨text', hText', hOther, -⟩ := h'
  cases hText.symm.trans hText'
  exact Option.some.inj (hCookie.symm.trans hOther)

theorem received?_eq_some_iff {c : SessionCookie} :
    received? now field = some c ↔
      ∃ cookie, Sets field cookie ∧ c = ofValue cookie.value (lifetimeOf cookie now) := by
  unfold received? Sets
  simp only [Option.bind_eq_bind, Option.bind_eq_some_iff]
  constructor
  · rintro ⟨cookie, ⟨text, hText, hCookie⟩, hGiven⟩
    split at hGiven
    · rename_i hName
      exact ⟨cookie, ⟨text, hText, hCookie, hName⟩, (Option.some.inj hGiven).symm⟩
    · cases hGiven
  · rintro ⟨cookie, ⟨text, hText, hCookie, hName⟩, rfl⟩
    exact ⟨cookie, ⟨text, hText, hCookie⟩, if_pos hName⟩

theorem received?_eq_none_iff :
    received? now field = none ↔ ∀ cookie, ¬ Sets field cookie := by
  rw [Option.eq_none_iff_forall_ne_some]
  constructor
  · intro h cookie hSets
    exact h _ (received?_eq_some_iff.mpr ⟨cookie, hSets, rfl⟩)
  · intro h c hSome
    obtain ⟨cookie, hSets, -⟩ := received?_eq_some_iff.mp hSome
    exact h cookie hSets

/-! ## Answers -/

/-- After an answer the cookie is what the last field that sets it gives. -/
theorem afterAnswer_eq (c : SessionCookie) (now : Int) (headers : Headers) :
    c.afterAnswer now headers =
      (((headers.getAll Http.setCookieField).filterMap (received? now)).getLast?).getD c := by
  unfold afterAnswer
  generalize headers.getAll Http.setCookieField = fields
  induction fields generalizing c with
  | nil => rfl
  | cons field fields ih =>
    rw [List.foldl_cons, ih, List.filterMap_cons]
    cases received? now field with
    | none => rfl
    | some given => simp [List.getLast?_cons]

theorem afterAnswer_of_last {c given : SessionCookie} {headers : Headers}
    {before after : List Text.Bytes}
    (hFields : headers.getAll Http.setCookieField = before ++ field :: after)
    (hField : received? now field = some given)
    (hLast : ∀ other ∈ after, received? now other = none) :
    c.afterAnswer now headers = given := by
  rw [afterAnswer_eq, hFields, List.filterMap_append, List.filterMap_cons, hField,
    List.filterMap_eq_nil_iff.mpr hLast]
  simp

/-- No field of the answer sets the cookie. -/
def NoneSets (headers : Headers) : Prop :=
  ∀ field ∈ headers.getAll Http.setCookieField, ∀ cookie, ¬ Sets field cookie

/-- The field sets the cookie, and no later one of the answer does. -/
def LastSets (headers : Headers) (field : Text.Bytes) (cookie : Cookie) : Prop :=
  ∃ before after, headers.getAll Http.setCookieField = before ++ field :: after ∧
    Sets field cookie ∧ ∀ other ∈ after, ∀ later, ¬ Sets other later

theorem noneSets_or_lastSets (headers : Headers) :
    NoneSets headers ∨ ∃ field cookie, LastSets headers field cookie := by
  unfold NoneSets LastSets
  generalize headers.getAll Http.setCookieField = fields
  induction fields with
  | nil => exact .inl fun _ h => absurd h List.not_mem_nil
  | cons field fields ih =>
    obtain hNone | ⟨last, cookie, before, after, rfl, hSets, hLast⟩ := ih
    · by_cases hField : ∃ cookie, Sets field cookie
      · obtain ⟨cookie, hSets⟩ := hField
        exact .inr ⟨field, cookie, [], fields, rfl, hSets, hNone⟩
      · exact .inl (List.forall_mem_cons.mpr ⟨fun cookie h => hField ⟨cookie, h⟩, hNone⟩)
    · exact .inr ⟨last, cookie, field :: before, after, rfl, hSets, hLast⟩

variable {c : SessionCookie} {headers : Headers} {cookie : Cookie}

theorem afterAnswer_of_noneSets (h : NoneSets headers) : c.afterAnswer now headers = c := by
  have hNone : (headers.getAll Http.setCookieField).filterMap (received? now) = [] :=
    List.filterMap_eq_nil_iff.mpr fun field hField => received?_eq_none_iff.mpr (h field hField)
  rw [afterAnswer_eq, hNone]
  rfl

theorem afterAnswer_of_lastSets (h : LastSets headers field cookie) :
    c.afterAnswer now headers = ofValue cookie.value (lifetimeOf cookie now) := by
  obtain ⟨before, after, hFields, hSets, hLast⟩ := h
  exact afterAnswer_of_last hFields (received?_eq_some_iff.mpr ⟨cookie, hSets, rfl⟩)
    fun other hOther => received?_eq_none_iff.mpr (hLast other hOther)

theorem LastSets.only (h : LastSets headers field cookie) :
    LastSets ⟨[(Http.setCookieField, field)]⟩ field cookie := by
  obtain ⟨-, -, -, hSets, -⟩ := h
  exact ⟨[], [], rfl, hSets, fun _ h => absurd h List.not_mem_nil⟩

/-- A cookie that is held ends after nine tenths of its lifetime, if the clock goes so far. -/
theorem end?_of_held {value : String} {lifetime : Option Int} {held : HeldCookie}
    (h : (ofValue value lifetime).held = some held) (received last : Int) :
    (held.end? received last = none ↔ ∀ seconds, lifetime = some seconds →
      last < received + min (9 * seconds) (2 ^ 63 - 1) / 10) ∧
    ∀ moment, held.end? received last = some moment → ∃ seconds, lifetime = some seconds ∧
      received < moment ∧ moment = received + min (9 * seconds) (2 ^ 63 - 1) / 10 := by
  obtain ⟨-, -, hLifetime, hLong⟩ := ofValue_held_eq_some h
  unfold HeldCookie.end?
  rw [hLifetime]
  cases lifetime with
  | none => simp
  | some seconds =>
    have hPositive := hLong seconds rfl
    have hKept : keptSeconds seconds = min (9 * seconds) (2 ^ 63 - 1) / 10 := by
      have hTenths := keptSeconds_pos_iff.mp hPositive
      exact keptSeconds_of_nonneg (by omega)
    rw [hKept] at hPositive
    rw [Option.map_some, Option.map_some, hKept]
    constructor
    · simp [Option.filter_eq_none_iff]
    · intro moment hMoment
      obtain ⟨hSame, -⟩ := Option.filter_eq_some_iff.mp hMoment
      obtain rfl := Option.some.inj hSame
      exact ⟨seconds, rfl, by omega, rfl⟩

/-- **The last cookie of an answer decides, and it is kept for a shortened life.** An answer of
which no field can be read and sets the session cookie leaves it as it was. Otherwise what was held
before does not matter, nor do the other fields: the last of these fields gives the same alone.
There is a cookie then if and only if its value is not blank without a pair of quotes around it, and
nine tenths of its lifetime, if it has one, are a second at least; and it shows that value without
the quotes. If it has an end, this is after nine tenths of the lifetime at most; it has none only
without a lifetime, or if the clock does not go so far. In 64 bits all this is computed without
overflow. -/
theorem afterAnswer_exact (c : SessionCookie) (now : Int) (headers : Headers) :
    (NoneSets headers ∧ c.afterAnswer now headers = c ∨
      ∃ field cookie, LastSets headers field cookie ∧
        (∀ other : SessionCookie,
          other.afterAnswer now ⟨[("set-cookie", field)]⟩ = c.afterAnswer now headers) ∧
        ((c.afterAnswer now headers).isSet = true ↔ Text.unquote cookie.value ≠ "" ∧
          ∀ seconds, lifetimeOf cookie now = some seconds → 1 ≤ 9 * seconds / 10) ∧
        ((c.afterAnswer now headers).isSet = true →
          (c.afterAnswer now headers).value? = some (Text.unquote cookie.value)) ∧
        ∀ held, (c.afterAnswer now headers).held = some held → ∀ received last,
          (held.end? received last = none ↔ ∀ seconds, lifetimeOf cookie now = some seconds →
            last < received + min (9 * seconds) (2 ^ 63 - 1) / 10) ∧
          ∀ moment, held.end? received last = some moment →
            ∃ seconds, lifetimeOf cookie now = some seconds ∧ received < moment ∧
              moment ≤ received + 9 * seconds / 10 ∧
              moment = received + min (9 * seconds) (2 ^ 63 - 1) / 10) ∧
    ∀ seconds : Int64,
      let product := Int64.ofInt (bounded (9 * seconds.toInt))
      product.toInt = max (-2 ^ 63) (min (9 * seconds.toInt) (2 ^ 63 - 1)) ∧
        (product / 10).toInt = keptSeconds seconds.toInt ∧
        (0 ≤ keptSeconds seconds.toInt →
          ((product / 10).toUInt64.toNat : Int) = keptSeconds seconds.toInt) := by
  refine ⟨?_, fun seconds => toInt_keptSeconds seconds.toInt⟩
  obtain hNone | ⟨field, cookie, hLast⟩ := noneSets_or_lastSets headers
  · exact .inl ⟨hNone, afterAnswer_of_noneSets hNone⟩
  · refine .inr ⟨field, cookie, hLast, ?_⟩
    rw [afterAnswer_of_lastSets hLast]
    refine ⟨fun other => afterAnswer_of_lastSets hLast.only, isSet_ofValue_iff, value?_ofValue, ?_⟩
    intro held hHeld received last
    obtain ⟨hNone, hSome⟩ := end?_of_held hHeld received last
    refine ⟨hNone, ?_⟩
    intro moment hMoment
    obtain ⟨seconds, hSeconds, hAfter, hExact⟩ := hSome moment hMoment
    exact ⟨seconds, hSeconds, hAfter, by omega, hExact⟩

/-- Of two fields that set the cookie the last one counts, and its two seconds are kept as one. -/
theorem afterAnswer_exact_latest :
    let headers := Headers.ofTexts [("set-cookie", "auth=u=ann; Max-Age=3600"),
      ("set-cookie", "AUTH=\"u=bob\"; Path=/; Max-Age=2"), ("set-cookie", "author=ann")]
    let kept := ({ held := some { text := "\"u=eve\"" } } : SessionCookie).afterAnswer 0 headers
    kept.held = some { text := "\"u=bob\"", lifetime := some 1 } ∧
    ∃ field cookie, LastSets headers field cookie ∧
      Text.unquote cookie.value = "u=bob" ∧ lifetimeOf cookie 0 = some 2 ∧
      ∀ other : SessionCookie, other.afterAnswer 0 ⟨[("set-cookie", field)]⟩ = kept := by
  intro headers kept
  have hKept : kept = { held := some { text := "\"u=bob\"", lifetime := some 1 } } := by
    decide +kernel
  have hHeld : kept.held = some { text := "\"u=bob\"", lifetime := some 1 } :=
    congrArg held hKept
  have hSet : kept.isSet = true := by
    rw [isSet, hHeld]
    rfl
  have hShown : kept.value? = some "u=bob" := by
    rw [value?, hHeld]
    decide
  obtain ⟨-, hSame⟩ | ⟨field, cookie, hLast, hAlone, -, hValue, hEnd⟩ :=
    (afterAnswer_exact { held := some { text := "\"u=eve\"" } } 0 headers).1
  · exact absurd (hKept.symm.trans hSame) (by decide)
  · refine ⟨hHeld, field, cookie, hLast, ?_, ?_, hAlone⟩
    · exact Option.some.inj ((hValue hSet).symm.trans hShown)
    · obtain ⟨seconds, hSeconds, -, -, hOne⟩ := (hEnd _ hHeld 0 1).2 1 (by decide)
      rw [hSeconds]
      exact congrArg some (by omega)

/-- A blank value takes away what an earlier field has set. -/
example :
    ({} : SessionCookie).afterAnswer 0 (.ofTexts [("set-cookie", "auth=u=ann; Max-Age=3600"),
      ("set-cookie", "AUTH=\"\"; Path=/"), ("set-cookie", "author=ann")]) = {} := by
  decide +kernel

end SessionCookie

end SignOn
