import SignOn.Proofs.Text.Base64
import SignOn.Proofs.Text.Split
import SignOn.Session.Signature

/-!
# What the signer accepts

A base64 text is made of the characters of its alphabet and of padding, so no mark begins in a
signature and the last mark of a signed text is the one that was put there. Hence a text is accepted
if and only if it is a payload, the mark and the code of that payload under a secret in effect
(`verify_eq_ok_iff`). A text signed with a secret is accepted wherever that secret is in effect
(`verify_of_sign`), and elsewhere only if another secret gives the payload the same code
(`verify_signed_iff`).
-/

namespace SignOn

/-! ## Signatures -/

theorem Keyring.mem_secrets {k : Keyring} {secret : Text.Bytes} :
    secret ∈ k.secrets ↔ secret = k.current ∨ k.previous = some secret := by
  simp [Keyring.secrets]

namespace Signature

open Text (cutLast?)

theorem code_toList (secret : Text.Bytes) (payload : String) :
    (code secret payload).toList =
      Text.Base64.encodeChars (Hash.hmac secret (Text.Utf8.encode payload)) := by
  rw [code, Text.Base64.encode, String.toList_ofList]

/-- The last mark of a signed text stands in front of its signature. -/
theorem cutLast?_signed (secret : Text.Bytes) (payload : String) :
    cutLast? mark.toList (payload ++ mark ++ code secret payload).toList =
      some (payload.toList, (code secret payload).toList) := by
  rw [String.toList_append, String.toList_append, code_toList]
  exact Text.cutLast?_append (by decide) (Text.Base64.ampersand_not_mem_encodeChars _)

/-- A text is accepted exactly if a secret in effect gives it its signature. -/
theorem verify_eq_ok_iff {keys : Keyring} {signed payload : String} :
    verify keys signed = .ok payload ↔
      ∃ secret ∈ keys.secrets, signed = payload ++ mark ++ code secret payload := by
  constructor
  · intro h
    unfold verify at h
    split at h
    · cases h
    · rename_i before behind hCut
      dsimp only at h
      split at h
      · rename_i hAny
        cases h
        obtain ⟨secret, hMem, hEq⟩ := List.any_eq_true.mp hAny
        refine ⟨secret, hMem, ?_⟩
        have hCode : code secret (String.ofList before) = String.ofList behind := by
          simpa using hEq
        rw [hCode, ← String.toList_inj, Text.eq_of_cutLast? hCut]
        simp
      · cases h
  · rintro ⟨secret, hMem, rfl⟩
    have hAny : (keys.secrets.any fun s => code s payload == code secret payload) = true :=
      List.any_eq_true.mpr ⟨secret, hMem, beq_self_eq_true _⟩
    simp only [verify, cutLast?_signed, String.ofList_toList, hAny, if_true]

/-- A signed text tells its payload and its signature apart. -/
theorem signed_inj {secret secret' : Text.Bytes} {payload payload' : String}
    (h : payload ++ mark ++ code secret payload = payload' ++ mark ++ code secret' payload') :
    payload = payload' ∧ code secret payload = code secret' payload' := by
  have hCut := cutLast?_signed secret payload
  rw [h, cutLast?_signed secret' payload'] at hCut
  obtain ⟨hPayload, hCode⟩ := Prod.mk.inj (Option.some.inj hCut)
  exact ⟨(String.toList_inj.mp hPayload).symm, (String.toList_inj.mp hCode).symm⟩

/-- A text signed with some secret is accepted as its own payload and nothing else, and only if a
secret in effect gives that payload the same authentication code. -/
theorem verify_signed_iff {keys : Keyring} {secret : Text.Bytes} {payload found : String} :
    verify keys (payload ++ mark ++ code secret payload) = .ok found ↔
      found = payload ∧ ∃ live ∈ keys.secrets,
        Hash.hmac live (Text.Utf8.encode payload) = Hash.hmac secret (Text.Utf8.encode payload) := by
  rw [verify_eq_ok_iff]
  constructor
  · rintro ⟨live, hLive, hEq⟩
    obtain ⟨rfl, hCode⟩ := signed_inj hEq
    exact ⟨rfl, live, hLive, (Text.Base64.encode_injective hCode).symm⟩
  · rintro ⟨rfl, live, hLive, hMac⟩
    exact ⟨live, hLive, by rw [code, code, hMac]⟩

theorem sign_of_ne {payload : String} (hPayload : payload ≠ "") (keys : Keyring) :
    sign keys payload = .ok (payload ++ mark ++ code keys.current payload) := by
  rw [sign, if_neg]
  simpa using hPayload

/-- What is signed with one of the secrets in effect is accepted. -/
theorem verify_of_sign {keys keys' : Keyring} {payload signed : String}
    (hSign : sign keys payload = .ok signed) (hMem : keys.current ∈ keys'.secrets) :
    verify keys' signed = .ok payload := by
  unfold sign at hSign
  split at hSign
  · cases hSign
  · cases hSign
    exact verify_eq_ok_iff.mpr ⟨keys.current, hMem, rfl⟩

end Signature

end SignOn
