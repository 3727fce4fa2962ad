import SparseFields.Text.Utf8

/-!
# The order of texts and the order of their bytes

Maps from texts are kept in the order of the characters of their keys.  UTF-8 is made so that this
is also the order of the bytes: where two characters differ, the first byte in which their encodings
differ is smaller for the smaller character.  A shorter encoding begins with a smaller byte, so no
encoding is a part of another one at its beginning.
-/

namespace SparseFields
namespace Text

/-- One step of a comparison of bytes, given by their values. -/
theorem ofNat_cons_lt {m n : Nat} {x y : List UInt8} (hle : m ≤ n) (hn : n < 256)
    (h : m = n → x < y) : UInt8.ofNat m :: x < UInt8.ofNat n :: y := by
  rw [List.cons_lt_cons_iff]
  rcases Nat.lt_or_eq_of_le hle with hlt | heq
  · left
    exact (UInt8.ofNat_lt_iff_lt (Nat.lt_trans hlt hn) hn).mpr hlt
  · right
    exact ⟨congrArg _ heq, h heq⟩

/-- The encodings of two characters compare as the characters do, whatever follows them. -/
theorem utf8EncodeChar_append_lt {c d : Char} (h : c < d) (x y : List UInt8) :
    String.utf8EncodeChar c ++ x < String.utf8EncodeChar d ++ y := by
  have hlt : c.val.toNat < d.val.toNat := h
  have hmax : d.val.toNat < 0x110000 := by
    rcases d.valid with hd | hd
    · exact Nat.lt_trans hd (by decide)
    · exact hd.2
  unfold String.utf8EncodeChar
  dsimp only
  -- One case for each length of either encoding; `c` has no longer one than `d`.
  repeat' split
  all_goals
    simp only [List.cons_append, List.nil_append]
    repeat
      first
      | omega
      | refine ofNat_cons_lt (by omega) (by omega) fun _ => ?_

theorem encodeUtf8_lt {a b : List Char} (h : a < b) : encodeUtf8 a < encodeUtf8 b := by
  induction h with
  | @nil d b =>
      have hne : String.utf8EncodeChar d ++ encodeUtf8 b ≠ [] :=
        List.append_ne_nil_of_left_ne_nil String.utf8EncodeChar_ne_nil _
      obtain ⟨byte, rest, heq⟩ := List.exists_cons_of_ne_nil hne
      have hcons : encodeUtf8 (d :: b) = byte :: rest := heq
      rw [hcons]
      exact List.nil_lt_cons byte rest
  | rel h => exact utf8EncodeChar_append_lt h _ _
  | cons _ ih => exact List.append_left_lt ih

/-- Texts are ordered as their bytes are. -/
theorem encodeUtf8_lt_iff {a b : String} :
    encodeUtf8 a.toList < encodeUtf8 b.toList ↔ a < b := by
  constructor
  · intro h
    apply Std.lt_of_le_of_ne
    · intro hlt
      exact List.lt_asymm h (encodeUtf8_lt hlt)
    · rintro rfl
      exact List.lt_irrefl _ h
  · exact encodeUtf8_lt

end Text
end SparseFields
