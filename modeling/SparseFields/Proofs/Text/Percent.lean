import SparseFields.Text.Case
import SparseFields.Text.Percent
import Mathlib.Data.List.Basic

/-!
# Characters of ASCII in bytes

A character of ASCII is one byte, and each decoder turns to the next byte after it.  So what is
decoded from a text can be said character by character, whatever follows.
-/

namespace SparseFields
namespace Text

theorem toNat_lt_of_isAscii {c : Char} (h : isAscii c = true) : c.toNat < 128 :=
  of_decide_eq_true h

theorem toNat_toUInt8 {c : Char} (h : isAscii c = true) : c.toUInt8.toNat = c.toNat :=
  UInt8.toNat_ofNat_of_lt' (Nat.lt_trans (toNat_lt_of_isAscii h) (by decide))

theorem encodeUtf8_cons_of_isAscii {c : Char} (h : isAscii c = true) (rest : List Char) :
    encodeUtf8 (c :: rest) = c.toUInt8 :: encodeUtf8 rest := by
  have hsize : c.utf8Size = 1 :=
    Char.utf8Size_eq_one_iff.mpr (Nat.le_of_lt_succ (toNat_lt_of_isAscii h))
  rw [encodeUtf8, List.flatMap_cons, String.utf8EncodeChar_eq_singleton hsize]
  rfl

theorem decodeFrom_toUInt8 {c : Char} (h : isAscii c = true) (rest : List UInt8) :
    decodeFrom none (c.toUInt8 :: rest) = some c :: decodeFrom none rest := by
  have hread : readByte none c.toUInt8.toNat = ([some c], none) := by
    rw [toNat_toUInt8 h, readByte, readLead, if_pos (toNat_lt_of_isAscii h), Char.ofNat_toNat]
  rw [decodeFrom, hread]
  rfl

/-! ## Percent-encoding -/

/-- The hexadecimal digits, in either case, with their values. -/
def hexDigits : List (Char × Nat) :=
  "0123456789abcdef".toList.zipIdx ++ "ABCDEF".toList.zipIdx 10

theorem hexDigits_spec : ∀ digit ∈ hexDigits,
    isAscii digit.1 = true ∧ digit.1 ≠ '+' ∧ hexByte? digit.1.toUInt8 = some digit.2 := by
  decide

theorem percentDecode_cons_of_ne {b : UInt8} (h : b ≠ 0x25) (rest : List UInt8) :
    percentDecode (b :: rest) = b :: percentDecode rest := by
  match rest with
  | [] => rfl
  | [_] => rfl
  | _ :: _ :: _ => rw [percentDecode, if_neg h]

theorem percentDecode_cons_hexPair {a b byte : UInt8} (h : hexPair? a b = some byte)
    (rest : List UInt8) : percentDecode (0x25 :: a :: b :: rest) = byte :: percentDecode rest := by
  rw [percentDecode, if_pos rfl, h]

theorem percentBytes_cons_of_ne {c : Char} (hascii : isAscii c = true) (h : c ≠ '%')
    (rest : List Char) : percentBytes (c :: rest) = c.toUInt8 :: percentBytes rest := by
  have hbyte : c.toUInt8 ≠ 0x25 := by
    intro heq
    apply h
    have hcode : c.toNat = 0x25 := by
      rw [← toNat_toUInt8 hascii, heq]
      rfl
    rw [← Char.ofNat_toNat c, hcode]
  rw [percentBytes, encodeUtf8_cons_of_isAscii hascii, percentDecode_cons_of_ne hbyte]
  rfl

theorem percentBytes_cons_digits {a b c : Char} {high low : Nat} (ha : (a, high) ∈ hexDigits)
    (hb : (b, low) ∈ hexDigits) (hcode : c.toNat = high * 16 + low) (rest : List Char) :
    percentBytes ('%' :: a :: b :: rest) = c.toUInt8 :: percentBytes rest := by
  obtain ⟨hasciiA, -, hvalueA⟩ := hexDigits_spec _ ha
  obtain ⟨hasciiB, -, hvalueB⟩ := hexDigits_spec _ hb
  have hpair : hexPair? a.toUInt8 b.toUInt8 = some c.toUInt8 := by
    have hbyte : c.toUInt8 = UInt8.ofNat c.toNat := rfl
    rw [hexPair?, hvalueA, hvalueB, hbyte, hcode]
  rw [percentBytes, encodeUtf8_cons_of_isAscii (by decide), encodeUtf8_cons_of_isAscii hasciiA,
    encodeUtf8_cons_of_isAscii hasciiB]
  exact percentDecode_cons_hexPair hpair _

end Text
end SparseFields
