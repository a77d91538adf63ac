import StoneLink.Text.Utf8
import StoneLink.Text.Quote

/-!
# Byte texts

A byte text is a text kept as the bytes of its UTF-8 encoding, where the bytes need not be
well-formed: a settings value written as base64 data may hold any bytes at all. Byte texts are
equal when their bytes are, and ordered byte by byte. Shown as text, each byte that starts no
well-formed encoding reads as U+FFFD; in a quoted literal such a byte is written `\xNN`, and
every character that is well-formed is written as `quote` writes it.

For a byte text made from a text, all of this agrees with the text itself: the order of UTF-8
encodings is the order of code points, and `toString` gives the text back.
-/

namespace StoneLink

/-- A text as the bytes of its UTF-8 encoding, which need not be well-formed. -/
structure ByteText where
  /-- The bytes, first byte first. -/
  bytes : List UInt8
  deriving DecidableEq, Repr, Inhabited

namespace ByteText

/-- The byte text of a text: its UTF-8 encoding. -/
def ofString (s : String) : ByteText := ⟨s.toUTF8.data.toList⟩

/-- The text a byte text shows, with U+FFFD for each byte that starts no well-formed encoding. -/
def toString (t : ByteText) : String := Text.Utf8.decodeLossy t.bytes

/-- Whether a byte text has no bytes. -/
def isEmpty (t : ByteText) : Bool := t.bytes.isEmpty

/-- Byte texts are ordered byte by byte, a proper prefix first. -/
instance : LT ByteText := ⟨fun a b => a.bytes < b.bytes⟩

instance (a b : ByteText) : Decidable (a < b) := inferInstanceAs (Decidable (a.bytes < b.bytes))

/-- The characters of a quoted literal for some bytes: well-formed encodings as their characters
are written, and every other byte as `\xNN`. -/
def quotedChars : Nat → List UInt8 → List Char
  | 0, _ => []
  | _, [] => []
  | fuel + 1, b :: rest =>
    match Text.Utf8.decodeOne (b :: rest) with
    | some (c, n) => Quote.escape c ++ quotedChars fuel ((b :: rest).drop n)
    | none => '\\' :: 'x' :: Quote.hexDigits 2 b.toNat ++ quotedChars fuel rest

/-- A byte text as a double-quoted literal. -/
def quote (t : ByteText) : String :=
  String.ofList ('"' :: (quotedChars t.bytes.length t.bytes ++ ['"']))

@[simp] theorem bytes_ofString (s : String) : (ofString s).bytes = s.toUTF8.data.toList := rfl

theorem ofString_injective {s t : String} (h : ofString s = ofString t) : s = t := by
  have hb : s.toUTF8.data.toList = t.toUTF8.data.toList := congrArg ByteText.bytes h
  have hd : s.toUTF8.data = t.toUTF8.data := Array.toList_inj.mp hb
  rw [String.toUTF8_eq_toByteArray, String.toUTF8_eq_toByteArray] at hd
  exact String.toByteArray_inj.mp (ByteArray.ext hd)

end ByteText

end StoneLink
