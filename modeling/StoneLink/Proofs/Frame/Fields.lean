import StoneLink.Frame.Fields
import StoneLink.Proofs.Bits

/-!
# Fields read back as they were written

A payload is written field by field and read back with the matching reads. This module names the
six kinds of field a writer appends (`Field`) and the six reads of a reader (`ReadOp`), and ties
the two together:

* a writer appends a field's encoding, or refuses the field and stays as it was
  (`Writer.buf_foldl_append`);
* a read of a field's kind, at a reader whose unread bytes start with the field's encoding,
  returns the field's value and moves exactly past the encoding (`Reader.read_readOp`), so a run of
  such reads returns every accepted field and uses the bytes up (`fields_round_trip`);
* no read moves the offset past the end of the data, and a failed read moves it only when a
  length-prefixed field found its length byte but not its bytes (`Reader.offset_read_of_error`).

Reads are described through the unread bytes `Reader.unread`, in the form that composes: a read
at `encoding ++ rest` leaves `rest`.
-/

namespace StoneLink.Frame

/-- A field a writer appends, with the value it writes. -/
inductive Field where
  /-- One byte. -/
  | u8 (v : UInt8)
  /-- A 16-bit integer, low byte first. -/
  | u16 (v : UInt16)
  /-- A 32-bit integer, low byte first. -/
  | u32 (v : UInt32)
  /-- Bytes as they are. -/
  | bytes (b : Bytes)
  /-- Bytes zero padded to a width. -/
  | fixed (b : Bytes) (width : Int)
  /-- Bytes behind a one-byte length. -/
  | lengthPrefixed (b : Bytes)

/-- What a read returns. -/
inductive FieldValue where
  /-- One byte. -/
  | u8 (v : UInt8)
  /-- A 16-bit integer. -/
  | u16 (v : UInt16)
  /-- A 32-bit integer. -/
  | u32 (v : UInt32)
  /-- Bytes. -/
  | bytes (b : Bytes)
  deriving DecidableEq

/-- The reads of a reader; a byte count may be negative. -/
inductive ReadOp where
  /-- One byte. -/
  | u8
  /-- A 16-bit integer. -/
  | u16
  /-- A 32-bit integer. -/
  | u32
  /-- A given number of bytes. -/
  | bytes (n : Int)
  /-- A length byte and that many bytes. -/
  | lengthPrefixed
  /-- Everything that is left. -/
  | rest
  deriving DecidableEq

namespace Field

/-- Whether a writer takes the field: a fixed field must fit its width, and a length-prefixed
one must have at most 255 bytes. -/
def fits : Field → Bool
  | .fixed b width => decide ((b.length : Int) ≤ width)
  | .lengthPrefixed b => decide (b.length ≤ 255)
  | _ => true

/-- The bytes a field appends when it is taken. -/
def encoding : Field → Bytes
  | .u8 v => [v]
  | .u16 v => Bytes.ofUInt16 v
  | .u32 v => Bytes.ofUInt32 v
  | .bytes b => b
  | .fixed b width => Bytes.padTo width.toNat b
  | .lengthPrefixed b => b.length.toUInt8 :: b

/-- The read that matches a field: bytes read by their own length, a fixed field by its width. -/
def readOp : Field → ReadOp
  | .u8 _ => .u8
  | .u16 _ => .u16
  | .u32 _ => .u32
  | .bytes b => .bytes b.length
  | .fixed _ width => .bytes width
  | .lengthPrefixed _ => .lengthPrefixed

/-- The value the matching read gives back; a fixed field comes back zero padded. -/
def value : Field → FieldValue
  | .u8 v => .u8 v
  | .u16 v => .u16 v
  | .u32 v => .u32 v
  | .bytes b => .bytes b
  | .fixed b width => .bytes (Bytes.padTo width.toNat b)
  | .lengthPrefixed b => .bytes b

end Field

namespace Writer

/-- Appends a field, or refuses it. -/
def write (w : Writer) : Field → Except Fault Writer
  | .u8 v => .ok (w.putU8 v)
  | .u16 v => .ok (w.putU16 v)
  | .u32 v => .ok (w.putU32 v)
  | .bytes b => .ok (w.put b)
  | .fixed b width => w.putFixed b width
  | .lengthPrefixed b => w.putLengthPrefixed b

/-- Appends a field the way a caller that goes on after a refusal does: a refused field leaves
the writer as it was. -/
def append (w : Writer) (f : Field) : Writer :=
  match w.write f with
  | .ok w' => w'
  | .error _ => w

/-- A writer appends the encoding of a field it takes and refuses every other. -/
theorem write_eq (w : Writer) (f : Field) :
    w.write f =
      if f.fits then .ok ⟨w.buf ++ f.encoding⟩ else .error (.because .fieldTooLong) := by
  cases f with
  | fixed b width =>
    simp only [write, putFixed, Field.fits, Field.encoding, put, decide_eq_true_eq]
    by_cases h : width < b.length
    · rw [if_pos h, if_neg (by omega)]
    · rw [if_neg h, if_pos (by omega)]
  | lengthPrefixed b =>
    simp only [write, putLengthPrefixed, Field.fits, Field.encoding, putU8, put,
      decide_eq_true_eq, List.append_assoc, List.singleton_append]
    by_cases h : b.length ≤ 255
    · rw [if_neg (by omega), if_pos h]
    · rw [if_pos (by omega), if_neg h]
  | _ => rfl

theorem buf_append (w : Writer) (f : Field) :
    (w.append f).buf = if f.fits then w.buf ++ f.encoding else w.buf := by
  by_cases hf : f.fits <;> simp [append, write_eq, hf]

theorem append_of_not_fits {f : Field} (hf : f.fits = false) (w : Writer) : w.append f = w := by
  simp only [append, write_eq, hf, Bool.false_eq_true, if_false]

/-- A run of writes leaves the encodings of the fields that were taken, in order. -/
theorem buf_foldl_append (fs : List Field) (w : Writer) :
    (fs.foldl append w).buf = w.buf ++ (fs.filter Field.fits).flatMap Field.encoding := by
  induction fs generalizing w with
  | nil => simp
  | cons f fs ih =>
    rw [List.foldl_cons, ih, buf_append]
    by_cases hf : f.fits <;> simp [hf]

end Writer

namespace Reader

/-- Performs one read. -/
def read (r : Reader) : ReadOp → Except Fault FieldValue × Reader
  | .u8 => let (v, r) := r.u8; (v.map .u8, r)
  | .u16 => let (v, r) := r.u16; (v.map .u16, r)
  | .u32 => let (v, r) := r.u32; (v.map .u32, r)
  | .bytes n => let (v, r) := r.bytes n; (v.map .bytes, r)
  | .lengthPrefixed => let (v, r) := r.lengthPrefixed; (v.map .bytes, r)
  | .rest => let (v, r) := r.rest; (.ok (.bytes v), r)

/-- Performs reads one after another, going on after a failure: the outcome of each read, and
the reader after the last. -/
def readAll (r : Reader) : List ReadOp → List (Except Fault FieldValue) × Reader
  | [] => ([], r)
  | op :: ops =>
    let (v, r) := r.read op
    let (vs, r) := r.readAll ops
    (v :: vs, r)

/-- The reader moved `n` bytes on. -/
def advance (r : Reader) (n : Nat) : Reader := { r with offset := r.offset + n }

@[simp] theorem data_advance (r : Reader) (n : Nat) : (r.advance n).data = r.data := rfl

@[simp] theorem offset_advance (r : Reader) (n : Nat) : (r.advance n).offset = r.offset + n := rfl

@[simp] theorem unread_advance (r : Reader) (n : Nat) : (r.advance n).unread = r.unread.drop n := by
  simp [advance, unread, List.drop_drop, Nat.add_comm]

theorem remaining_eq_length_unread (r : Reader) : r.remaining = r.unread.length := by
  simp [remaining, unread]

theorem take_of_le {r : Reader} {n : Nat} (h : n ≤ r.remaining) :
    r.take n = (.ok (r.unread.take n), r.advance n) := by
  simp only [take, if_neg (Nat.not_lt.mpr h)]
  rfl

theorem take_of_lt {r : Reader} {n : Nat} (h : r.remaining < n) :
    r.take n = (.error (.because .truncated), r) := by
  simp only [take, if_pos h]

/-- A read at the front of `b ++ rest` of exactly `b.length` bytes gives `b`. -/
theorem take_of_unread {r : Reader} {b rest : Bytes} (h : r.unread = b ++ rest) :
    r.take b.length = (.ok b, r.advance b.length) := by
  rw [take_of_le (by rw [remaining_eq_length_unread, h]; simp), h, List.take_left]

theorem unread_of_unread {r : Reader} {b rest : Bytes} (h : r.unread = b ++ rest) :
    (r.advance b.length).unread = rest := by
  rw [unread_advance, h, List.drop_left]

/-- A one-byte read takes the first unread byte, or fails without moving. -/
theorem u8_eq (r : Reader) :
    r.u8 = if 1 ≤ r.remaining then (.ok (r.unread.getD 0 0), r.advance 1)
      else (.error (.because .truncated), r) := by
  by_cases h : 1 ≤ r.remaining
  · rw [if_pos h, u8, take_of_le h]
    cases hu : r.unread with
    | nil => simp [remaining_eq_length_unread, hu] at h
    | cons b bs => rfl
  · rw [if_neg h, u8, take_of_lt (by omega)]
    rfl

/-- A length-prefixed read takes its length byte whenever there is one, then reads that many
bytes. -/
theorem lengthPrefixed_eq (r : Reader) :
    r.lengthPrefixed = if 1 ≤ r.remaining then (r.advance 1).take (r.unread.getD 0 0).toNat
      else (.error (.because .truncated), r) := by
  by_cases h : 1 ≤ r.remaining
  · simp only [lengthPrefixed, u8_eq, if_pos h]
  · simp only [lengthPrefixed, u8_eq, if_neg h]

/-! ## Each read takes back the field of its kind -/

/-- A read of a field's kind at the field's encoding returns the field's value and moves past
the encoding. -/
theorem read_readOp {f : Field} (hf : f.fits) {r : Reader} {rest : Bytes}
    (h : r.unread = f.encoding ++ rest) :
    r.read f.readOp = (.ok f.value, r.advance f.encoding.length) := by
  cases f with
  | u8 v =>
    have ht := take_of_unread h
    simp only [Field.encoding, List.length_singleton] at ht
    simp only [read, Field.readOp, u8, ht, Except.map, Field.value, Field.encoding,
      List.length_singleton, List.getD_cons_zero]
  | u16 v =>
    have ht := take_of_unread h
    simp only [Field.encoding, Bytes.length_ofUInt16] at ht
    have hv : Bytes.toUInt16 (Bytes.ofUInt16 v) = v := by
      simpa using Bytes.toUInt16_ofUInt16_append v []
    simp only [read, Field.readOp, u16, ht, Except.map, hv, Field.value, Field.encoding,
      Bytes.length_ofUInt16]
  | u32 v =>
    have ht := take_of_unread h
    simp only [Field.encoding, Bytes.length_ofUInt32] at ht
    have hv : Bytes.toUInt32 (Bytes.ofUInt32 v) = v := by
      simpa using Bytes.toUInt32_ofUInt32_append v []
    simp only [read, Field.readOp, u32, ht, Except.map, hv, Field.value, Field.encoding,
      Bytes.length_ofUInt32]
  | bytes b =>
    have ht := take_of_unread h
    simp only [read, Field.readOp, bytes, Int.natCast_nonneg, not_lt.mpr, if_false,
      Int.toNat_natCast, Field.encoding] at ht ⊢
    simp [ht, Except.map, Field.value]
  | fixed b width =>
    -- a fixed field that fits is read by its width, which is the length of its encoding
    have hw : (b.length : Int) ≤ width := by simpa [Field.fits] using hf
    have hlen : (Field.fixed b width).encoding.length = width.toNat := by
      simp only [Field.encoding, Bytes.length_padTo]
      omega
    have ht := take_of_unread h
    rw [hlen] at ht
    simp only [read, Field.readOp, bytes, if_neg (show ¬ width < 0 by omega), ht, Except.map,
      Field.value, hlen]
    rfl
  | lengthPrefixed b =>
    -- the length byte comes first and is read back as the length, then the bytes
    have hb : b.length ≤ 255 := by simpa [Field.fits] using hf
    have h' : r.unread = [b.length.toUInt8] ++ (b ++ rest) := by simpa [Field.encoding] using h
    have hr : 1 ≤ r.remaining := by simp [remaining_eq_length_unread, h']
    have hn : (b.length.toUInt8).toNat = b.length := by
      simp only [Nat.toUInt8_eq, UInt8.toNat_ofNat']
      omega
    have ht := take_of_unread (unread_of_unread h')
    simp only [List.length_singleton] at ht
    simp only [read, Field.readOp, lengthPrefixed_eq, if_pos hr, h', List.singleton_append,
      List.getD_cons_zero, hn, ht, Except.map, Field.value, Field.encoding, List.length_cons]
    simp [advance, Nat.add_assoc, Nat.add_comm 1]

/-- Reading the fields' kinds in order at their encodings returns their values, one by one. -/
theorem readAll_readOp {fs : List Field} (hf : ∀ f ∈ fs, f.fits) {r : Reader} {rest : Bytes}
    (h : r.unread = fs.flatMap Field.encoding ++ rest) :
    r.readAll (fs.map Field.readOp) =
      (fs.map fun f => .ok f.value, r.advance (fs.flatMap Field.encoding).length) := by
  induction fs generalizing r with
  | nil => simp [readAll, advance]
  | cons f fs ih =>
    have hf' : f.fits := hf f List.mem_cons_self
    have h1 : r.unread = f.encoding ++ (fs.flatMap Field.encoding ++ rest) := by
      simpa using h
    have hnext := ih (fun g hg => hf g (List.mem_cons_of_mem f hg)) (unread_of_unread h1)
    simp only [List.map_cons, readAll, read_readOp hf' h1, hnext, List.flatMap_cons,
      List.length_append]
    simp [advance, Nat.add_assoc]

/-! ## Offsets stay within the data -/

theorem take_data (r : Reader) (n : Nat) : (r.take n).2.data = r.data := by
  unfold take
  split <;> rfl

theorem offset_take_le {r : Reader} (h : r.offset ≤ r.data.length) (n : Nat) :
    (r.take n).2.offset ≤ r.data.length := by
  unfold take remaining
  split
  · exact h
  · simp only
    omega

/-- A read that fails to take its bytes stays where it was. -/
theorem take_of_error {r : Reader} {n : Nat} {e : Fault} (h : (r.take n).1 = .error e) :
    (r.take n).2 = r := by
  unfold take at h ⊢
  split
  · rfl
  · rw [if_neg ‹_›] at h
    cases h

theorem map_eq_error {α β : Type} {f : α → β} {x : Except Fault α} {e : Fault}
    (h : x.map f = .error e) : x = .error e := by
  cases x with
  | error e' => simpa [Except.map] using h
  | ok a => simp [Except.map] at h

theorem read_data (r : Reader) (op : ReadOp) : (r.read op).2.data = r.data := by
  cases op with
  | lengthPrefixed =>
    simp only [read, lengthPrefixed_eq]
    split
    · exact take_data _ _
    · rfl
  | rest => rfl
  | bytes n =>
    simp only [read, bytes]
    split
    · rfl
    · exact take_data r _
  | _ => exact take_data r _

/-- One read keeps the offset within the data. -/
theorem offset_read_le {r : Reader} (h : r.offset ≤ r.data.length) (op : ReadOp) :
    (r.read op).2.offset ≤ r.data.length := by
  cases op with
  | lengthPrefixed =>
    simp only [read, lengthPrefixed_eq]
    split
    · rename_i hr
      -- the length byte is there, so the reader after it is still within the data
      have h1 : (r.advance 1).offset ≤ (r.advance 1).data.length := by
        simp only [offset_advance, data_advance]
        simp only [remaining] at hr
        omega
      exact offset_take_le h1 _
    · exact h
  | rest =>
    simp only [read, rest]
    omega
  | bytes n =>
    simp only [read, bytes]
    split
    · exact h
    · exact offset_take_le h _
  | _ => exact offset_take_le h _

/-- Any run of reads keeps the data and the offset within it. -/
theorem readAll_within {r : Reader} (h : r.offset ≤ r.data.length) (ops : List ReadOp) :
    (r.readAll ops).2.data = r.data ∧ (r.readAll ops).2.offset ≤ r.data.length := by
  induction ops generalizing r with
  | nil => exact ⟨rfl, h⟩
  | cons op ops ih =>
    have hd := read_data r op
    obtain ⟨hd', ho⟩ := ih (r := (r.read op).2) (by rw [hd]; exact offset_read_le h op)
    simp only [readAll]
    exact ⟨hd'.trans hd, hd ▸ ho⟩

/-! ## Failed reads -/

/-- A read that fails leaves the reader where it was, except a length-prefixed read, which has
taken its length byte if there was one. -/
theorem offset_read_of_error {r : Reader} {op : ReadOp} {e : Fault} (h : (r.read op).1 = .error e) :
    (r.read op).2.offset =
      if op = .lengthPrefixed then r.offset + min 1 r.remaining else r.offset := by
  cases op with
  | lengthPrefixed =>
    simp only [read, lengthPrefixed_eq, if_true] at h ⊢
    split
    · rename_i hr
      split at h
      · rw [take_of_error (map_eq_error h), offset_advance]
        omega
      · contradiction
    · simp only
      omega
  | rest => simp [read] at h
  | bytes n =>
    simp only [read, bytes, reduceCtorEq, if_false] at h ⊢
    split
    · rfl
    · rename_i hn
      rw [if_neg hn] at h
      rw [take_of_error (map_eq_error h)]
  | u8 =>
    simp only [read, u8, reduceCtorEq, if_false] at h ⊢
    rw [take_of_error (map_eq_error (map_eq_error h))]
  | u16 =>
    simp only [read, u16, reduceCtorEq, if_false] at h ⊢
    rw [take_of_error (map_eq_error (map_eq_error h))]
  | u32 =>
    simp only [read, u32, reduceCtorEq, if_false] at h ⊢
    rw [take_of_error (map_eq_error (map_eq_error h))]

end Reader

/-- **What a writer writes, a reader reads back.** A refused fixed or length-prefixed field
leaves the writer as it was. After any run of writes, the matching reads of the fields that were
taken return their values, a fixed field zero padded to its width, and leave nothing unread.
Whatever reads are made on whatever bytes, the offset stays within the data, and a failed read
moves it only by the length byte of a length-prefixed field. -/
theorem fields_round_trip :
    (∀ (w : Writer) (b : Bytes) (width : Int),
      (w.putFixed b width = .error (.because .fieldTooLong) ↔ width < b.length) ∧
        (width < b.length → w.append (.fixed b width) = w)) ∧
    (∀ (w : Writer) (b : Bytes),
      (w.putLengthPrefixed b = .error (.because .fieldTooLong) ↔ 255 < b.length) ∧
        (255 < b.length → w.append (.lengthPrefixed b) = w)) ∧
    (∀ fs : List Field,
      let taken := fs.filter Field.fits
      let r := ({ data := (fs.foldl Writer.append {}).buf } : Reader).readAll
        (taken.map Field.readOp)
      r.1 = taken.map (fun f => .ok f.value) ∧ r.2.remaining = 0) ∧
    (∀ (d : Bytes) (ops : List ReadOp),
      let r := (({ data := d } : Reader).readAll ops).2
      r.data = d ∧ r.offset ≤ d.length ∧ r.offset + r.remaining = d.length) ∧
    (∀ (r : Reader) (op : ReadOp) (e : Fault), (r.read op).1 = .error e →
      (r.read op).2.offset =
        if op = .lengthPrefixed then r.offset + min 1 r.remaining else r.offset) := by
  refine ⟨fun w b width => ?_, fun w b => ?_, fun fs => ?_, fun d ops => ?_,
    fun r op e h => Reader.offset_read_of_error h⟩
  · have hfits : (Field.fixed b width).fits = false ↔ width < b.length := by
      simp [Field.fits]
    refine ⟨?_, fun h => Writer.append_of_not_fits (hfits.mpr h) w⟩
    rw [← hfits]
    change w.write (.fixed b width) = _ ↔ _
    rw [Writer.write_eq]
    cases (Field.fixed b width).fits <;> simp
  · have hfits : (Field.lengthPrefixed b).fits = false ↔ 255 < b.length := by
      simp [Field.fits]
    refine ⟨?_, fun h => Writer.append_of_not_fits (hfits.mpr h) w⟩
    rw [← hfits]
    change w.write (.lengthPrefixed b) = _ ↔ _
    rw [Writer.write_eq]
    cases (Field.lengthPrefixed b).fits <;> simp
  · -- the buffer is the encodings of the taken fields, nothing after them
    have hbuf := Writer.buf_foldl_append fs {}
    simp only [List.nil_append] at hbuf
    have hunread : ({ data := (fs.foldl Writer.append {}).buf } : Reader).unread =
        (fs.filter Field.fits).flatMap Field.encoding ++ [] := by
      simp [Reader.unread, hbuf]
    have hall := Reader.readAll_readOp (fun f hf => (List.mem_filter.mp hf).2) hunread
    simp only [hall, true_and]
    simp [Reader.remaining, hbuf]
  · obtain ⟨hd, ho⟩ := Reader.readAll_within (r := { data := d }) (Nat.zero_le _) ops
    refine ⟨hd, ho, ?_⟩
    simp only [Reader.remaining, hd] at ho ⊢
    omega

/-- A length byte of 2 with one byte after it: the read takes the length byte and fails, and a
fixed field wider than its width leaves the writer empty. -/
theorem fields_round_trip_short_field :
    (({ data := [2, 0xAA] } : Reader).read .lengthPrefixed).1 = .error (.because .truncated) ∧
      (({ data := [2, 0xAA] } : Reader).read .lengthPrefixed).2.offset = 1 ∧
      ({} : Writer).append (.fixed [1, 2, 3] 2) = {} := by
  have hread := fields_round_trip.2.2.2.2 { data := [2, 0xAA] } .lengthPrefixed
    (.because .truncated) rfl
  have hfixed := (fields_round_trip.1 {} [1, 2, 3] 2).2 (by decide)
  exact ⟨rfl, by simpa [Reader.remaining] using hread, hfixed⟩

end StoneLink.Frame
