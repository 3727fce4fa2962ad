/-!
# Widths

The largest numbers that fit a given number of bits.
-/

namespace SparseFields

/-- The largest number without a sign of a width in bits. -/
def maxUnsigned (bits : Nat) : Nat :=
  Nat.pow 2 bits - 1

/-- The largest number with a sign of a width in bits; the least one is further from zero by one. -/
def maxSigned (bits : Nat) : Nat :=
  Nat.pow 2 (bits - 1) - 1

end SparseFields
