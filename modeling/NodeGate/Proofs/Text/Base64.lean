import Mathlib.Data.List.Basic
import NodeGate.Text.Base64

/-!
# Decoding what was encoded

Every group of six bits has a character of its own, none of which is the padding, and four
groups hold the bits of three bytes. Decoding an encoding therefore gives the bytes back,
three at a time, and with them the text.
-/

namespace NodeGate.Text.Base64

/-- Each group is read back from its character. -/
theorem group?_symbol {group : Nat} (small : group < 64) : group? (symbol group) = some group := by
  revert group
  decide

/-- No group has the padding for its character. -/
theorem symbol_ne_padding {group : Nat} (small : group < 64) : symbol group ≠ '=' := by
  revert group
  decide

/-- A byte is its six high bits in one group and its two low bits on top of the next. -/
theorem first_byte (byte : UInt8) (low : Nat) (small : low < 16) :
    UInt8.ofNat (byte.toNat / 4 * 4 + (byte.toNat % 4 * 16 + low) / 16) = byte := by
  have whole : byte.toNat / 4 * 4 + (byte.toNat % 4 * 16 + low) / 16 = byte.toNat := by omega
  rw [whole, UInt8.ofNat_toNat]

/-- A byte is its four high bits at the end of one group and its four low bits on top of the
next. -/
theorem second_byte (byte : UInt8) (high low : Nat) (small : low < 4) :
    UInt8.ofNat ((high * 16 + byte.toNat / 16) % 16 * 16 + (byte.toNat % 16 * 4 + low) / 4) =
      byte := by
  have below := byte.toNat_lt
  have whole : (high * 16 + byte.toNat / 16) % 16 * 16 + (byte.toNat % 16 * 4 + low) / 4 =
      byte.toNat := by omega
  rw [whole, UInt8.ofNat_toNat]

/-- A byte is its two high bits at the end of one group and its six low bits in the next. -/
theorem third_byte (byte : UInt8) (high : Nat) :
    UInt8.ofNat ((high * 4 + byte.toNat / 64) % 4 * 64 + byte.toNat % 64) = byte := by
  have below := byte.toNat_lt
  have whole : (high * 4 + byte.toNat / 64) % 4 * 64 + byte.toNat % 64 = byte.toNat := by omega
  rw [whole, UInt8.ofNat_toNat]

/-- Bytes are decoded from their encoding. -/
theorem decode_encode (bytes : List UInt8) : decode (encode bytes) = some bytes := by
  induction bytes using encode.induct with
  | case1 => rfl
  | case2 a =>
      have a_small := a.toNat_lt
      have first : a.toNat / 4 < 64 := by omega
      have second : a.toNat % 4 * 16 < 64 := by omega
      have unused : a.toNat % 4 * 16 % 16 = 0 := by omega
      rw [encode, decode]
      simp only [group?_symbol first, group?_symbol second, Option.bind_eq_bind,
        Option.bind_some, if_pos unused]
      exact congrArg (some [·]) (first_byte a 0 (by decide))
  | case3 a b =>
      have a_small := a.toNat_lt
      have b_small := b.toNat_lt
      have first : a.toNat / 4 < 64 := by omega
      have second : a.toNat % 4 * 16 + b.toNat / 16 < 64 := by omega
      have third : b.toNat % 16 * 4 < 64 := by omega
      have unused : b.toNat % 16 * 4 % 4 = 0 := by omega
      rw [encode, decode.eq_3 _ _ _ (symbol_ne_padding third)]
      simp only [group?_symbol first, group?_symbol second, group?_symbol third,
        Option.bind_eq_bind, Option.bind_some, if_pos unused]
      rw [first_byte a _ (by omega)]
      exact congrArg (some [a, ·]) (second_byte b (a.toNat % 4) 0 (by decide))
  | case4 a b c rest ih =>
      have a_small := a.toNat_lt
      have b_small := b.toNat_lt
      have c_small := c.toNat_lt
      have first : a.toNat / 4 < 64 := by omega
      have second : a.toNat % 4 * 16 + b.toNat / 16 < 64 := by omega
      have third : b.toNat % 16 * 4 + c.toNat / 64 < 64 := by omega
      have fourth : c.toNat % 64 < 64 := by omega
      have unpadded := symbol_ne_padding fourth
      rw [encode, decode.eq_4 _ _ _ _ _ (fun _ padded _ => unpadded padded)
        (fun padded _ => unpadded padded)]
      simp only [group?_symbol first, group?_symbol second, group?_symbol third,
        group?_symbol fourth, ih, Option.bind_eq_bind, Option.bind_some]
      rw [first_byte a _ (by omega), second_byte b _ _ (by omega), third_byte]

/-- The bytes that are left from a position on are put behind those found before. -/
theorem toList_loop (bytes : ByteArray) (position : Nat) (found : List UInt8) :
    ByteArray.toList.loop bytes position found =
      found.reverse ++ bytes.data.toList.drop position := by
  fun_induction ByteArray.toList.loop bytes position found with
  | case1 position found inside ih =>
      have within : position < bytes.data.toList.length := by simpa using inside
      rw [ih, List.drop_eq_getElem_cons within]
      have same : bytes.get! position = bytes.data.toList[position] := by
        simp [ByteArray.get!, inside]
      simp [same]
  | case2 position found outside =>
      have beyond : bytes.data.toList.length ≤ position := by simpa using outside
      rw [List.drop_eq_nil_of_le beyond, List.append_nil]

/-- A text is decoded from its encoding. -/
theorem decodeText?_encodeText (text : String) : decodeText? (encodeText text) = some text := by
  have bytes : ByteArray.mk text.toUTF8.toList.toArray = text.toUTF8 := by
    rw [ByteArray.toList, toList_loop]
    rfl
  have valid : text.toUTF8.IsValidUTF8 := text.isValidUTF8
  simp only [decodeText?, encodeText, String.toList_ofList, decode_encode, Option.bind_eq_bind,
    Option.bind_some, bytes, String.fromUTF8?, dif_pos valid]
  rfl

end NodeGate.Text.Base64
