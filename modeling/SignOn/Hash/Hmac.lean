import SignOn.Hash.Sha256

/-!
# Keyed hashing

HMAC over SHA-256: the message is hashed behind the key, and that digest once more.
-/

namespace SignOn.Hash

open SignOn.Text (Bytes)

/-- The size of a block of the hash function, in bytes. -/
def blockSize : Nat := 64

/-- The key at the size of a block: a longer one is hashed, a shorter one is filled up with
zeros. -/
def blockKey (key : Bytes) : Bytes :=
  let short := if key.length > blockSize then Sha256.digest key else key
  short ++ List.replicate (blockSize - short.length) 0

/-- The authentication code of a message under a key. -/
def hmac (key message : Bytes) : Bytes :=
  let k := blockKey key
  Sha256.digest (k.map (· ^^^ 0x5c) ++ Sha256.digest (k.map (· ^^^ 0x36) ++ message))

end SignOn.Hash
