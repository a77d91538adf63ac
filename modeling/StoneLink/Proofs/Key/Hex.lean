import StoneLink.Key.Basic
import StoneLink.Proofs.Bits

/-!
# Keys written in hexadecimal read back

A key is written as 32 lowercase hexadecimal digits. Every digit is an ASCII character, so the
UTF-8 bytes of the text are the digits' codes; no digit is white space, so trimming leaves the
text as it is; and two digits read back as the byte they were written from. Reading a written
key therefore gives the key back.
-/

namespace StoneLink

/-- The loop that lists a byte array's bytes, from place `i` on, after the reversed `r`. -/
theorem ByteArray.toList_loop (bs : ByteArray) (i : Nat) (r : List UInt8) :
    ByteArray.toList.loop bs i r = r.reverse ++ bs.data.toList.drop i := by
  fun_induction ByteArray.toList.loop bs i r with
  | case1 i r hi ih =>
    -- one more byte moves from the data to the front of the reversed list
    have hlen : i < bs.data.toList.length := by simpa using hi
    rw [ih, List.drop_eq_getElem_cons hlen]
    simp [ByteArray.get!, hi]
  | case2 i r hi =>
    have hlen : bs.data.toList.length ≤ i := by simpa using Nat.le_of_not_lt hi
    rw [List.drop_eq_nil_of_le hlen, List.append_nil]

theorem ByteArray.toList_eq_data (bs : ByteArray) : bs.toList = bs.data.toList := by
  simp [ByteArray.toList, ByteArray.toList_loop]

/-- The UTF-8 bytes of a text of ASCII characters are the characters' codes. -/
theorem toUTF8_ofList_of_ascii {l : List Char} (h : ∀ c ∈ l, c.toNat < 128) :
    (String.ofList l).toUTF8.toList = l.map Char.toUInt8 := by
  rw [String.toUTF8_eq_toByteArray, String.toByteArray_ofList, ByteArray.toList_eq_data]
  induction l with
  | nil => rfl
  | cons c l ih =>
    have hc : c.utf8Size = 1 := by
      rw [Char.utf8Size_eq_one_iff, UInt32.le_iff_toNat_le]
      exact Nat.le_of_lt_succ (h c List.mem_cons_self)
    rw [List.utf8Encode_cons, ByteArray.data_append, Array.toList_append,
      ih fun d hd => h d (List.mem_cons_of_mem c hd), List.utf8Encode_singleton,
      String.utf8EncodeChar_eq_singleton hc]
    rfl

namespace Hex

/-- Each digit is an ASCII character that is not white space, and its code reads back as the
digit's value. -/
theorem digit_spec : ∀ v : Fin 16, (digit v).toNat < 128 ∧ Text.isSpace (digit v) = false ∧
    value? (digit v).toUInt8 = some (v : Nat).toUInt8 := by
  decide

theorem mem_pair {b : UInt8} {c : Char} (h : c ∈ pair b) :
    c.toNat < 128 ∧ Text.isSpace c = false := by
  have hlt := b.toNat_lt
  have hhi := digit_spec ⟨b.toNat / 16, by omega⟩
  have hlo := digit_spec ⟨b.toNat % 16, by omega⟩
  simp only [pair, List.mem_cons, List.not_mem_nil, or_false] at h
  rcases h with rfl | rfl
  · exact ⟨hhi.1, hhi.2.1⟩
  · exact ⟨hlo.1, hlo.2.1⟩

/-- The two digits of a byte, as codes, read back as the byte, whatever follows them. -/
theorem decodeBytes_pair (b : UInt8) (rest : List UInt8) :
    decodeBytes ((pair b).map Char.toUInt8 ++ rest) = (decodeBytes rest).map (b :: ·) := by
  have hlt := b.toNat_lt
  have hhi := (digit_spec ⟨b.toNat / 16, by omega⟩).2.2
  have hlo := (digit_spec ⟨b.toNat % 16, by omega⟩).2.2
  -- the high digit's value times sixteen plus the low digit's value is the byte
  have hb : (b.toNat / 16).toUInt8 * 16 + (b.toNat % 16).toUInt8 = b := by
    apply UInt8.toNat_inj.mp
    simp only [UInt8.toNat_add, UInt8.toNat_mul, Nat.toUInt8, UInt8.toNat_ofNat',
      UInt8.reduceToNat]
    omega
  simp only [pair, List.map_cons, List.map_nil, List.cons_append, List.nil_append, decodeBytes,
    hhi, hlo, hb]

/-- Hexadecimal text reads back as the bytes it was written from. -/
theorem decode_encode (b : Bytes) : decode (encode b) = .ok b := by
  rw [decode, encode, toUTF8_ofList_of_ascii fun c hc => ?_]
  · induction b with
    | nil => rfl
    | cons x b ih =>
      rw [List.flatMap_cons, List.map_append, decodeBytes_pair, ih]
      rfl
  · obtain ⟨x, -, hx⟩ := List.mem_flatMap.mp hc
    exact (mem_pair hx).1

/-- Hexadecimal text has no white space to trim. -/
theorem trim_encode (b : Bytes) : Text.trim (encode b) = encode b := by
  have hspace : ∀ c ∈ b.flatMap pair, Text.isSpace c = false := fun c hc => by
    obtain ⟨x, -, hx⟩ := List.mem_flatMap.mp hc
    exact (mem_pair hx).2
  -- a list with no white space in it loses nothing from either end
  have hdrop (l : List Char) (h : ∀ c ∈ l, Text.isSpace c = false) :
      l.dropWhile Text.isSpace = l := by
    cases l with
    | nil => rfl
    | cons c l => exact List.dropWhile_cons_of_neg (by simp [h c List.mem_cons_self])
  rw [Text.trim, encode, String.toList_ofList, hdrop _ hspace,
    hdrop _ fun c hc => hspace c (List.mem_reverse.mp hc), List.reverse_reverse]

end Hex

namespace Key

/-- A key's text reads back as the key. -/
theorem parse_toHex (k : Key) : parse k.toHex = .ok k := by
  simp only [parse, toHex, Hex.trim_encode, Hex.decode_encode, ofBytes, ofBytes?_bytes]

/-- A key's text is never empty: it has two digits for each of the sixteen bytes. -/
theorem toHex_ne_empty (k : Key) : k.toHex ≠ "" := by
  intro h
  have hl := congrArg String.toList h
  rw [toHex, Hex.encode, String.toList_ofList] at hl
  obtain ⟨b, rest, hb⟩ := List.exists_cons_of_length_pos (show 0 < k.bytes.length by
    rw [k.length_eq]
    decide)
  rw [hb, List.flatMap_cons] at hl
  simp [Hex.pair] at hl

end Key

end StoneLink
