import SparseFields.Text.Utf8

/-!
# Percent-encoding

In a URI `%` and two hexadecimal digits stand for a byte.  A `%` without two such digits stands for
itself.
-/

namespace SparseFields
namespace Text

/-- The value of a byte as a hexadecimal digit. -/
def hexByte? (b : UInt8) : Option Nat :=
  let n := b.toNat
  if 0x30 ≤ n ∧ n ≤ 0x39 then some (n - 0x30)
  else if 0x41 ≤ n ∧ n ≤ 0x46 then some (n - 0x41 + 10)
  else if 0x61 ≤ n ∧ n ≤ 0x66 then some (n - 0x61 + 10)
  else none

/-- The byte of two hexadecimal digits. -/
def hexPair? (a b : UInt8) : Option UInt8 :=
  match hexByte? a, hexByte? b with
  | some high, some low => some (UInt8.ofNat (high * 16 + low))
  | _, _ => none

/-- The bytes that percent-encoded bytes stand for. -/
def percentDecode : List UInt8 → List UInt8
  | [] => []
  | [c] => [c]
  | [c, d] => [c, d]
  | c :: a :: b :: rest =>
      match if c = 0x25 then hexPair? a b else none with
      | some byte => byte :: percentDecode rest
      | none => c :: percentDecode (a :: b :: rest)

/-- The bytes that the percent-encoded text stands for. -/
def percentBytes (cs : List Char) : List UInt8 :=
  percentDecode (encodeUtf8 cs)

end Text
end SparseFields
