import SignOn.Text.Utf8

/-!
# Numbers as bytes

Numbers in a fixed number of bytes, the most significant byte first.
-/

namespace SignOn.Text.BigEndian

/-- The lowest `width` bytes of a number. -/
def write : Nat → Nat → Bytes
  | 0, _ => []
  | width + 1, n => write width (n / 256) ++ [UInt8.ofNat n]

/-- The number that bytes stand for. -/
def read (bytes : Bytes) : Nat :=
  bytes.foldl (fun n b => 256 * n + b.toNat) 0

/-- The four bytes of a 32-bit integer with a sign. -/
def ofInt32 (n : Int32) : Bytes :=
  write 4 n.toUInt32.toNat

/-- The 32-bit integer with a sign in four bytes. -/
def toInt32 (bytes : Bytes) : Int32 :=
  (UInt32.ofNat (read bytes)).toInt32

/-- The eight bytes of a 64-bit integer with a sign. -/
def ofInt64 (n : Int64) : Bytes :=
  write 8 n.toUInt64.toNat

/-- The 64-bit integer with a sign in eight bytes. -/
def toInt64 (bytes : Bytes) : Int64 :=
  (UInt64.ofNat (read bytes)).toInt64

end SignOn.Text.BigEndian
