import StoneLink.Yaml.Token

/-!
# The decoded part of a text

The characters of a text are not checked all at once. The reader reads the text's UTF-8 bytes
in blocks of 512, each time it is asked for more characters than it has decoded and not yet
handed out, and only then decodes them and checks that every character of the block is one a
text may hold. A character whose bytes straddle the end of a block waits for the next block,
which starts with its bytes. So a text whose
first problem is far from its start can fail for a reason found earlier, and a text whose reading
stops early (at the end of the first document, say) never fails for what comes after.

Each such refill first moves the characters not yet handed out to the front of the buffer; the
character at the front is the one the scanner inspects when it looks for a byte order mark.
Once every byte is decoded, each further refill adds one terminating zero.

A block with a character a text may not hold fails the refill, but the characters before that
one are decoded all the same and can still be handed out; every later refill fails at once.

The record here keeps only counts: how many characters are decoded, how many bytes and blocks
were read, whether the end was met, and which character stands at the front of the buffer.
-/

namespace StoneLink.Yaml

/-- How much of a text the reader has decoded. -/
structure Buffer where
  /-- For each character, the number of bytes of the text up to its end. -/
  ends : Array Nat
  /-- The number of bytes of the text, a byte order mark skipped at its start included. -/
  size : Nat
  /-- The first character a text may not hold, or the number of characters. -/
  firstBad : Nat
  /-- The characters decoded so far, the terminating zeros included. -/
  decoded : Nat := 0
  /-- The terminating zeros added so far. -/
  zeros : Nat := 0
  /-- The blocks read so far. -/
  reads : Nat := 0
  /-- The bytes read so far. -/
  consumed : Nat := 0
  /-- Whether a read found no more bytes. -/
  atEnd : Bool := false
  /-- The character at the front of the buffer. -/
  front : Nat := 0
  /-- Whether a read met a character a text may not hold; no read gets past it. -/
  failed : Bool := false
  deriving Inhabited

namespace Buffer

/-- The size of a block of bytes. -/
def blockSize : Nat := 512

/-- The buffer of a text before anything is read; `skipped` bytes of a byte order mark were
taken off the text's start. -/
def ofChars (chars : Array Char) (skipped : Nat) : Buffer :=
  let ends := (chars.toList.foldl (fun (acc : Array Nat × Nat) c =>
    let e := acc.2 + c.utf8Size
    (acc.1.push e, e)) (#[], skipped)).1
  { ends, size := ends.back?.getD skipped
    firstBad := (chars.toList.findIdx? (!Chars.isAllowed ·)).getD chars.size }

/-- The number of characters, counted on from the `k`-th, whose bytes end within the first
`limit` bytes. -/
def within (ends : Array Nat) (limit k : Nat) : Nat :=
  if h : k < ends.size then
    if ends[k] ≤ limit then within ends limit (k + 1) else k
  else k
termination_by ends.size - k

/-- One round of a refill: a block is read, or the end is met, and what it holds is decoded. A
block that holds a character a text may not hold is decoded up to that character, and the
buffer is marked failed. -/
def readBlock (b : Buffer) : Buffer :=
  if b.failed then b
  else if b.atEnd then { b with zeros := b.zeros + 1, decoded := b.decoded + 1 }
  else if b.consumed < b.size then
    let reads := b.reads + 1
    let chars := b.decoded - b.zeros
    -- the block starts with the bytes of a character the last block held only in part
    let start := if chars = 0 then 0 else b.ends.getD (chars - 1) 0
    let consumed := min b.size (start + blockSize)
    let count := within b.ends consumed chars
    if b.firstBad < count then
      { b with reads, consumed, decoded := b.firstBad + b.zeros, failed := true }
    -- a text of fewer than three bytes is read to its end at once, to look for a byte order mark
    else if reads = 1 && b.size < 3 then
      { b with reads, consumed, atEnd := true, zeros := b.zeros + 1
               decoded := count + b.zeros + 1 }
    else { b with reads, consumed, decoded := count + b.zeros }
  else { b with atEnd := true, zeros := b.zeros + 1, decoded := b.decoded + 1 }

/-- Refills until `n` characters from `index` on are decoded, moving the character at `index` to
the front; at most `fuel` rounds. Gives the buffer and whether the refill succeeded: it fails
when a block holds a character a text may not hold. -/
def fill (index n : Nat) : Nat → Buffer → Buffer × Bool
  | 0, b => (b, true)
  | fuel + 1, b =>
    if index + n ≤ b.decoded then (b, true)
    else
      let b' := b.readBlock
      if b'.failed then (b', false)
      else if b'.atEnd then (b', true)
      else fill index n fuel b'

/-- Makes sure that `n` characters from `index` on are decoded, as the reader does when the
scanner asks for them. When fewer are, the characters from `index` on move to the front and
blocks are read until enough are decoded or the end is met. Gives the buffer and whether the
refill succeeded. -/
def cache (b : Buffer) (index n : Nat) : Buffer × Bool :=
  if index + n ≤ b.decoded then (b, true)
  -- every round but the last reads at least one byte, so one round per byte is enough
  else fill index n (b.size + 2) { b with front := index }

end Buffer

end StoneLink.Yaml
