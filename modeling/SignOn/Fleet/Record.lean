import SignOn.Error
import SignOn.Text.BigEndian

/-!
# Secret records

The record that all processes of a fleet read and write: the secret announced as the next one, the
current and the previous one, and when the next rotation falls due. Its layout is a 32-bit version
number, the three secrets, each behind its length in 32 bits, and the deadline in 64 bits, all
numbers with the most significant byte first. A missing previous secret has the length zero.
-/

namespace SignOn

open SignOn.Text (Bytes BigEndian.ofInt32 BigEndian.toInt32 BigEndian.ofInt64 BigEndian.toInt64)

/-- The secrets of a fleet. -/
structure SecretRecord where
  next : Bytes
  current : Bytes
  previous : Option Bytes
  /-- When the next rotation falls due, in epoch milliseconds. -/
  nextRollover : Int64
deriving DecidableEq, Repr

namespace SecretRecord

/-- The layout that is written, and the newest one that is read. -/
def layout : Int32 := 0

/-- A secret behind its length. -/
def encodeSecret (secret : Bytes) : Bytes :=
  BigEndian.ofInt32 (Int32.ofNat secret.length) ++ secret

/-- The record without the version number in front. -/
def encodeBody (r : SecretRecord) : Bytes :=
  encodeSecret r.next ++ encodeSecret r.current ++ encodeSecret (r.previous.getD []) ++
    BigEndian.ofInt64 r.nextRollover

/-- The bytes of a record. -/
def encode (r : SecretRecord) : Bytes :=
  BigEndian.ofInt32 layout ++ r.encodeBody

/-- Takes a 32-bit number off the front. -/
def takeInt32 (bytes : Bytes) : Except RecordFault (Int32 × Bytes) :=
  if bytes.length < 4 then .error .truncated
  else .ok (BigEndian.toInt32 (bytes.take 4), bytes.drop 4)

/-- Takes a 64-bit number off the front. -/
def takeInt64 (bytes : Bytes) : Except RecordFault (Int64 × Bytes) :=
  if bytes.length < 8 then .error .truncated
  else .ok (BigEndian.toInt64 (bytes.take 8), bytes.drop 8)

/-- Takes a secret and its length off the front. -/
def takeSecret (bytes : Bytes) : Except RecordFault (Bytes × Bytes) := do
  let (length, rest) ← takeInt32 bytes
  if length < 0 ∨ rest.length < length.toInt.toNat then .error (.invalidLength length)
  else .ok (rest.take length.toInt.toNat, rest.drop length.toInt.toNat)

/-- Reads a record; bytes behind it do not matter. -/
def decode (bytes : Bytes) : Except RecordFault SecretRecord := do
  let (version, rest) ← takeInt32 bytes
  if layout < version then .error (.newerLayout version)
  let (next, rest) ← takeSecret rest
  let (current, rest) ← takeSecret rest
  let (previous, rest) ← takeSecret rest
  let (nextRollover, _) ← takeInt64 rest
  if next.isEmpty || current.isEmpty then .error .emptySecret
  .ok {
    next, current, nextRollover
    previous := if previous.isEmpty then none else some previous }

/-- A record as a developer sees it, without its secrets. -/
def inspect (r : SecretRecord) : String :=
  Text.Inspect.partialRecord "SecretRecord" [
    ("has_previous", Text.Inspect.bool r.previous.isSome),
    ("next_rollover", Text.Decimal.print r.nextRollover)]

end SecretRecord

end SignOn
