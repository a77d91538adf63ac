import StoneLink.Bytes
import StoneLink.Fault

/-!
# Messages in parts

A notification carries at most a few bytes, so a longer message is cut into parts. Each part is
a part number followed by a chunk of the message; the parts count up from zero and the last is
numbered `0xFF`, so a message needs at most 255 parts. An empty message is one empty last part.
The count of parts is computed in 64-bit arithmetic, so a part size close to the largest 64-bit
integer makes it wrap.

The receiver collects chunks while the numbers come in order. A number out of order throws away
what was collected and counts a reset; the last part delivers what was collected.
-/

namespace StoneLink.Frame.Multipart

/-- The number of the last part. -/
def lastPart : UInt8 := 0xFF

/-- The largest number of parts. -/
def maxParts : Nat := 255

/-- The part size used when none is given. -/
def defaultChunkSize : Nat := 19

/-- The chunks of a message, `size` bytes each but the last, at least one. -/
def chunks (size : Nat) (data : Bytes) (n : Nat) : List Bytes :=
  (List.range n).map fun i => (data.drop (i * size)).take size

/-- The number of parts, `(len + size - 1) / size`, counted in 64-bit signed integers: for a size
near the largest one the sum wraps around to a negative number. -/
def countParts (len : Nat) (chunkSize : Int) : Int :=
  let size := Int64.ofInt chunkSize
  ((Int64.ofNat len + size - 1) / size).toInt

/-- The text of the breakdown when the count of parts comes out negative. -/
def negativeCountText : String := "runtime error: makeslice: cap out of range"

/-- The numbered parts of a message. -/
def split (data : Bytes) (chunkSize : Int) : Except Fault (List Bytes) :=
  if chunkSize < 1 then .error (.because .invalidChunkSize)
  else
    let counted := countParts data.length chunkSize
    let n := if counted = 0 then 1 else counted
    if n > maxParts then .error (.because .tooManyParts)
    -- the list of parts is made with room for `n` of them, which cannot be negative
    else if n < 0 then .error (.crash negativeCountText)
    else
      let size := chunkSize.toNat
      .ok ((chunks size data n.toNat).zipIdx.map fun (c, i) =>
        (if i + 1 = n.toNat then lastPart else i.toUInt8) :: c)

/-- The state of a receiver. -/
structure Reassembler where
  /-- The number the next regular part must have. -/
  expected : UInt8 := 0
  /-- What has been collected. -/
  buffer : Bytes := []
  /-- How many times parts out of order threw the collection away, as a 64-bit count that
  wraps around. -/
  resets : UInt64 := 0
  deriving DecidableEq

namespace Reassembler

/-- Takes one notification; returns the new state and the message it completes, if any. -/
def feed (r : Reassembler) (data : Bytes) : Reassembler × Option Bytes :=
  match data with
  | [] => (r, none)
  | part :: chunk =>
    if part != lastPart && part != r.expected then
      ({ r with expected := 0, buffer := [], resets := r.resets + 1 }, none)
    else if part == lastPart then
      ({ r with expected := 0, buffer := [] }, some (r.buffer ++ chunk))
    else ({ r with expected := r.expected + 1, buffer := r.buffer ++ chunk }, none)

/-- Throws away what was collected, without counting a reset. -/
def reset (r : Reassembler) : Reassembler := { r with expected := 0, buffer := [] }

end Reassembler

end StoneLink.Frame.Multipart
