import SignOn.Error

/-!
# Keyrings

The secrets in effect at a moment: the current one, with which texts are signed, and possibly the
previous one, whose signatures are still accepted.
-/

namespace SignOn

open SignOn.Text (Bytes)

/-- The secrets in effect. -/
structure Keyring where
  current : Bytes
  previous : Option Bytes := none
deriving DecidableEq, Repr

namespace Keyring

/-- A keyring whose current secret must not be empty. -/
def make (current : Bytes) (previous : Option Bytes) : Result Keyring :=
  if current.isEmpty then misconfigured .emptySecret else .ok { current, previous }

/-- Every secret in effect, the current one first. -/
def secrets (k : Keyring) : List Bytes :=
  k.current :: k.previous.toList

/-- The keyring after `next` takes over: the current secret becomes the previous one. -/
def rotate (k : Keyring) (next : Bytes) : Keyring where
  current := next
  previous := some k.current

/-- A keyring as a developer sees it, without its secrets. -/
def inspect (k : Keyring) : String :=
  Text.Inspect.record "SecretState" [
    ("current", Text.Inspect.quote "[redacted]"),
    ("has_previous", Text.Inspect.bool k.previous.isSome)]

end Keyring

end SignOn
