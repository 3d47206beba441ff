import SignOn.Client.Authenticator
import SignOn.Proofs.Text.Base64
import SignOn.Proofs.Text.Blank
import SignOn.Proofs.Text.Case

/-!
# Offers to negotiate

A challenge carries a token if it consists of the name of the scheme, in any letter case, and the
token in base64 behind a blank (`Offer.read?_eq_token_iff`). Of several challenges in an answer the
last one counts that is an offer at all (`Offer.inHeaders?_eq_token_iff`).
-/

namespace SignOn.Offer

open SignOn.Http (Headers)
open SignOn.Text (Bytes)

/-- The challenge consists of the name of the scheme, in any letter case, and of a token in base64
behind a blank. More white space does not count. -/
def Carries (challenge : String) (token : Bytes) : Prop :=
  ∃ word rest : String, Text.trim challenge = word ++ " " ++ rest ∧
    Text.sameText word "Negotiate" = true ∧ Text.trim rest = Text.Base64.encode token

/-- The last challenge in the fields that is an offer carries this token. -/
def LastCarries (headers : Headers) (token : Bytes) : Prop :=
  ∃ earlier challenge later,
    headers.texts "www-authenticate" = earlier ++ challenge :: later ∧
      Carries challenge token ∧ ∀ other ∈ later, read? other = none

theorem length_of_sameText {word : String} (h : Text.sameText word "Negotiate" = true) :
    word.toList.length = 9 := by
  have hLength := congrArg List.length (Text.sameText_iff.mp h)
  rw [List.length_map, List.length_map] at hLength
  exact hLength

theorem eq_blank_of_toLower {c : Char} (h : c.toLower = ' ') : c = ' ' := by
  have hCode := congrArg Char.toNat h
  rw [Text.toNat_toLower] at hCode
  refine Char.toNat_inj.mp ?_
  split at hCode
  · simp only [Char.reduceToNat] at hCode
    omega
  · exact hCode

/-- A text begins with the name of the scheme and a blank. -/
theorem beginsWithText_iff {text : String} :
    Text.beginsWithText (Scheme.negotiate.name ++ " ") text = true ↔
      ∃ word rest : String, text = word ++ " " ++ rest ∧
        Text.sameText word "Negotiate" = true := by
  have hName : (Scheme.negotiate.name ++ " ").toList.map Char.toLower =
      "Negotiate".toList.map Char.toLower ++ [' '] := by decide
  rw [Text.beginsWithText, hName, List.isPrefixOf_iff_prefix, List.prefix_map_iff]
  constructor
  · rintro ⟨front, ⟨rest, hText⟩, hFront⟩
    obtain ⟨word, last, rfl, hWord, hLast⟩ := List.map_eq_append_iff.mp hFront.symm
    obtain ⟨blank, rfl, hBlank⟩ := List.map_eq_singleton_iff.mp hLast
    rw [eq_blank_of_toLower hBlank] at hText
    refine ⟨String.ofList word, String.ofList rest, ?_, ?_⟩
    · rw [← String.toList_inj, ← hText]
      simp
    · rw [Text.sameText_iff, String.toList_ofList, hWord]
  · rintro ⟨word, rest, rfl, hSame⟩
    refine ⟨word.toList ++ [' '], ⟨rest.toList, ?_⟩, ?_⟩
    · simp
    · rw [List.map_append, Text.sameText_iff.mp hSame]
      rfl

theorem read?_eq_token_iff {challenge : String} {token : Bytes} :
    read? challenge = some (.token token) ↔ Carries challenge token := by
  have hBehind : ∀ word rest : String, Text.sameText word "Negotiate" = true →
      Text.trim (String.ofList ((word ++ " " ++ rest).toList.drop
        Scheme.negotiate.name.toList.length)) = Text.trim rest := by
    intro word rest hSame
    have hLength : Scheme.negotiate.name.toList.length = word.toList.length :=
      (length_of_sameText hSame).symm
    have hDrop : String.ofList ((word ++ " " ++ rest).toList.drop
        Scheme.negotiate.name.toList.length) = " " ++ rest := by
      rw [hLength, ← String.toList_inj, String.toList_ofList, String.toList_append,
        String.toList_append, List.append_assoc, List.drop_left, String.toList_append]
    rw [hDrop, Text.trim_append_of_isBlank (by decide)]
  have hDecode : ∀ encoded, (Text.Base64.decode? encoded).map Offer.token = some (.token token) ↔
      encoded = Text.Base64.encode token := by
    intro encoded
    rw [← Text.Base64.decode?_eq_some_iff]
    cases Text.Base64.decode? encoded <;> simp
  unfold read? Carries
  generalize Text.trim challenge = text
  dsimp only
  by_cases hBare : Text.sameText text Scheme.negotiate.name = true
  · rw [if_pos hBare]
    constructor
    · intro h
      cases h
    · rintro ⟨word, rest, rfl, hSame, -⟩
      have hLong := length_of_sameText hBare
      simp [length_of_sameText hSame] at hLong
  · rw [if_neg hBare]
    by_cases hBegins : Text.beginsWithText (Scheme.negotiate.name ++ " ") text = true
    · rw [if_pos hBegins, hDecode]
      constructor
      · intro h
        obtain ⟨word, rest, rfl, hSame⟩ := beginsWithText_iff.mp hBegins
        exact ⟨word, rest, rfl, hSame, (hBehind word rest hSame).symm.trans h⟩
      · rintro ⟨word, rest, rfl, hSame, h⟩
        exact (hBehind word rest hSame).trans h
    · rw [if_neg hBegins]
      constructor
      · intro h
        cases h
      · rintro ⟨word, rest, hText, hSame, -⟩
        exact absurd (beginsWithText_iff.mpr ⟨word, rest, hText, hSame⟩) hBegins

theorem inHeaders?_eq_token_iff {headers : Headers} {token : Bytes} :
    inHeaders? headers = some (.token token) ↔ LastCarries headers token := by
  rw [inHeaders?, List.getLast?_filterMap, List.findSome?_eq_some_iff]
  constructor
  · rintro ⟨later, challenge, earlier, hAll, hRead, hLater⟩
    refine ⟨earlier.reverse, challenge, later.reverse, ?_, read?_eq_token_iff.mp hRead, ?_⟩
    · have hTexts := congrArg List.reverse hAll
      rw [List.reverse_reverse] at hTexts
      rw [show "www-authenticate" = Http.challengeField from rfl, hTexts]
      simp
    · intro other hOther
      exact hLater other (List.mem_reverse.mp hOther)
  · rintro ⟨earlier, challenge, later, hAll, hCarries, hLater⟩
    refine ⟨later.reverse, challenge, earlier.reverse, ?_, read?_eq_token_iff.mpr hCarries, ?_⟩
    · rw [show Http.challengeField = "www-authenticate" from rfl, hAll]
      simp
    · intro other hOther
      exact hLater other (List.mem_reverse.mp hOther)

end SignOn.Offer
