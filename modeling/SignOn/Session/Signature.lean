import SignOn.Hash.Hmac
import SignOn.Keyring.Basic
import SignOn.Text.Base64
import SignOn.Text.Split

/-!
# Signed texts

A signed text is its payload, the mark `&s=` and the authentication code of the payload in base64.
The code is made with the current secret of a keyring and accepted for every secret in effect. The
signature stands behind the last mark, so a payload may hold the mark itself.
-/

namespace SignOn.Signature

open SignOn.Text (Bytes)

/-- The mark in front of a signature. -/
def mark : String := "&s="

/-- The signature of a payload under a secret. -/
def code (secret : Bytes) (payload : String) : String :=
  Text.Base64.encode (Hash.hmac secret (Text.Utf8.encode payload))

/-- A failure of signing or verifying. -/
def signatureFails {α : Type} (fault : SignatureFault) : Result α :=
  .error ⟨.signature fault, none⟩

/-- Signs a payload with the current secret. -/
def sign (keys : Keyring) (payload : String) : Result String :=
  if payload.isEmpty then signatureFails .nothingToSign
  else .ok (payload ++ mark ++ code keys.current payload)

/-- The payload of a signed text, if its signature belongs to one of the secrets in effect. -/
def verify (keys : Keyring) (signed : String) : Result String :=
  match Text.cutLast? mark.toList signed.toList with
  | none => signatureFails .noSignature
  | some (before, behind) =>
    let payload := String.ofList before
    if keys.secrets.any fun secret => code secret payload == String.ofList behind then .ok payload
    else signatureFails .mismatch

/-- A signer over fixed secrets as a developer sees it. -/
def inspectSigner (secrets : String) : String :=
  Text.Inspect.record "RequestSigner" [("secrets", secrets)]

end SignOn.Signature
