import StoneLink.Bytes
import StoneLink.Fault

/-!
# Reading and writing fields

Payload fields are little-endian integers of one, two or four bytes, byte strings of a given
length, and byte strings behind a one-byte length. A reader walks a byte string from an offset;
a read that does not fit fails with `truncated` and leaves the offset where it was, except that
a length-prefixed read has taken its length byte by the time it finds the bytes missing. A
writer appends fields to a buffer; a value longer than its field is refused and writes nothing.
-/

namespace StoneLink.Frame

/-- A position in a byte string. -/
structure Reader where
  /-- The bytes being read. -/
  data : Bytes
  /-- How many bytes have been read. -/
  offset : Nat := 0
  deriving DecidableEq

namespace Reader

/-- The number of bytes not yet read. -/
def remaining (r : Reader) : Nat := r.data.length - r.offset

/-- The bytes not yet read. -/
def unread (r : Reader) : Bytes := r.data.drop r.offset

/-- Reads `n` bytes, or fails without moving. -/
def take (r : Reader) (n : Nat) : Except Fault Bytes × Reader :=
  if r.remaining < n then (.error (.because .truncated), r)
  else (.ok (r.unread.take n), { r with offset := r.offset + n })

/-- Reads a byte count that may be negative; a negative count fails. -/
def bytes (r : Reader) (n : Int) : Except Fault Bytes × Reader :=
  if n < 0 then (.error (.because .truncated), r) else r.take n.toNat

/-- Reads one byte. -/
def u8 (r : Reader) : Except Fault UInt8 × Reader :=
  let (b, r) := r.take 1
  (b.map (·.getD 0 0), r)

/-- Reads a 16-bit little-endian integer. -/
def u16 (r : Reader) : Except Fault UInt16 × Reader :=
  let (b, r) := r.take 2
  (b.map Bytes.toUInt16, r)

/-- Reads a 32-bit little-endian integer. -/
def u32 (r : Reader) : Except Fault UInt32 × Reader :=
  let (b, r) := r.take 4
  (b.map Bytes.toUInt32, r)

/-- Reads a length byte and then that many bytes. -/
def lengthPrefixed (r : Reader) : Except Fault Bytes × Reader :=
  match r.u8 with
  | (.ok n, r) => r.take n.toNat
  | (.error e, r) => (.error e, r)

/-- Reads everything that is left. -/
def rest (r : Reader) : Bytes × Reader :=
  (r.unread, { r with offset := max r.offset r.data.length })

end Reader

/-- A buffer that fields are appended to. -/
structure Writer where
  /-- The bytes written so far. -/
  buf : Bytes := []
  deriving DecidableEq

namespace Writer

/-- Appends bytes. -/
def put (w : Writer) (b : Bytes) : Writer := ⟨w.buf ++ b⟩

/-- Appends one byte. -/
def putU8 (w : Writer) (v : UInt8) : Writer := w.put [v]

/-- Appends a 16-bit little-endian integer. -/
def putU16 (w : Writer) (v : UInt16) : Writer := w.put (Bytes.ofUInt16 v)

/-- Appends a 32-bit little-endian integer. -/
def putU32 (w : Writer) (v : UInt32) : Writer := w.put (Bytes.ofUInt32 v)

/-- Appends bytes zero padded to a field width; bytes longer than the width are refused. -/
def putFixed (w : Writer) (b : Bytes) (width : Int) : Except Fault Writer :=
  if width < b.length then .error (.because .fieldTooLong)
  else .ok (w.put (Bytes.padTo width.toNat b))

/-- Appends a length byte and the bytes; more than 255 bytes are refused. -/
def putLengthPrefixed (w : Writer) (b : Bytes) : Except Fault Writer :=
  if b.length > 255 then .error (.because .fieldTooLong)
  else .ok ((w.putU8 b.length.toUInt8).put b)

end Writer

end StoneLink.Frame
