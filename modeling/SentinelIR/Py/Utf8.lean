/-
# UTF-8

`str.encode` and `bytes.decode`. Python's strings hold lone surrogates, which have no
bytes; on all other texts the encoding is Lean's own, so no two of them share their bytes
and decoding takes the encoding back.
-/

import SentinelIR.Common.Errors

namespace SentinelIR.Py

open SentinelIR.Common

/-! ## Characters -/

/-- The character of a code point that is no surrogate. -/
def character (c : CodePoint) : Char := Char.ofNat c.val

theorem isSurrogate_eq_false_iff {c : CodePoint} :
    isSurrogate c = false ↔ c.val < 0xd800 ∨ 0xdfff < c.val := by
  simp only [isSurrogate, Bool.and_eq_false_iff, decide_eq_false_iff_not, not_le]

theorem codePoint_character {c : CodePoint} (plain : isSurrogate c = false) :
    codePoint (character c) = c := by
  have valid : c.val.isValidChar := by
    have bound := c.isLt
    rw [isSurrogate_eq_false_iff] at plain
    rw [Nat.isValidChar]
    omega
  apply Fin.ext
  rw [character, Char.ofNat, dif_pos valid]
  rfl

theorem character_codePoint (c : Char) : character (codePoint c) = c := Char.ofNat_toNat c

theorem isSurrogate_codePoint (c : Char) : isSurrogate (codePoint c) = false := by
  have valid : c.toNat.isValidChar := c.valid
  rw [Nat.isValidChar] at valid
  rw [isSurrogate_eq_false_iff]
  change c.toNat < 0xd800 ∨ 0xdfff < c.toNat
  omega

theorem encodable_lit (text : String) : Encodable (lit text) := by
  intro c held
  obtain ⟨char, -, rfl⟩ := List.mem_map.mp held
  exact isSurrogate_codePoint char

/-! ## Bytes -/

/-- The bytes of an encodable text. -/
def utf8 (s : Str) : ByteArray := (String.ofList (s.map character)).toByteArray

/-- No two texts have the same bytes. -/
theorem utf8_inj {s t : Str} (hs : Encodable s) (ht : Encodable t) : utf8 s = utf8 t ↔ s = t := by
  constructor
  · intro same
    have chars : s.map character = t.map character :=
      String.ofList_injective (String.toByteArray_inj.mp same)
    have back : ∀ text : Str, Encodable text → (text.map character).map codePoint = text := by
      intro text encodable
      rw [List.map_map]
      apply (List.map_congr_left fun c held => codePoint_character (encodable c held)).trans
      exact List.map_id text
    rw [← back s hs, chars, back t ht]
  · exact congrArg utf8

theorem utf8_lit (text : String) : utf8 (lit text) = text.toByteArray := by
  have back : (lit text).map character = text.toList := by
    rw [lit, List.map_map]
    exact (List.map_congr_left fun c _ => character_codePoint c).trans (List.map_id _)
  rw [utf8, back, String.ofList_toList]

/-- `s.encode("utf-8")`. -/
def encodeUtf8 (s : Str) : Except Exc ByteArray :=
  if Encodable s then .ok (utf8 s) else .error .unicodeEncodeError

/-- `bytes.decode("utf-8")`. -/
def decodeUtf8 (bytes : ByteArray) : Except Exc Str :=
  match String.fromUTF8? bytes with
  | some text => .ok (lit text)
  | none => .error (.other "UnicodeDecodeError")

theorem encodeUtf8_lit (text : String) : encodeUtf8 (lit text) = .ok text.toByteArray := by
  rw [encodeUtf8, if_pos (encodable_lit text), utf8_lit]

/-- A decoded text encodes to the bytes it came from. -/
theorem encodeUtf8_of_decoded {bytes : ByteArray} {s : Str} (decoded : decodeUtf8 bytes = .ok s) :
    encodeUtf8 s = .ok bytes := by
  rw [decodeUtf8, String.fromUTF8?] at decoded
  split at decoded
  · next text found =>
      obtain rfl := Except.ok.inj decoded
      rw [encodeUtf8_lit]
      split at found
      · rw [← Option.some.inj found]
        rfl
      · cases found
  · cases decoded

theorem decodeUtf8_toByteArray (text : String) : decodeUtf8 text.toByteArray = .ok (lit text) := by
  rw [decodeUtf8, String.fromUTF8?, dif_pos text.isValidUTF8]
  rfl

end SentinelIR.Py
