import SparseFields.Number.Shortest

/-!
# Numbers

A number is an integer or a double, and the two never compare equal.
-/

namespace SparseFields

/-- An integer or a double. -/
inductive Number
  | int (value : Int)
  | double (value : Double)
deriving DecidableEq

namespace Number

instance : Inhabited Number := ⟨.int 0⟩

/-- The decimal digits of an integer, after a minus sign if it is negative. -/
def intText (i : Int) : String :=
  (if i < 0 then "-" else "") ++ String.ofList (Digits.ofNat i.natAbs)

/-- Doubles from `0.00001` up to below `10 ^ 16` are written without an exponent, the others with
one, and a fraction is always visible in the former.  A tie goes to the even digit. -/
def layout : Double.Layout :=
  { tie := .toEven
    positional := fun point => -5 < point && point ≤ 16
    wholeEnding := ".0" }

/-- The text of a number. -/
def text : Number → String
  | .int i => intText i
  | .double d => d.text layout

/-- Equality of values within each kind of number; the two zeros among the doubles are equal. -/
def sameValue : Number → Number → Bool
  | .int i, .int j => i == j
  | .double x, .double y => x.sameValue y
  | _, _ => false

end Number
end SparseFields
