/-!
# Finite binary64 numbers

A double is a sign and a magnitude `mantissa · 2 ^ exponent` in the normal form of the format, so
that equal doubles are equal as structures; the two zeros differ in their sign.  Infinities and
NaN are not needed and do not occur.  Every operation is the exact one followed by one rounding to
the nearest double, a tie going to the even mantissa.
-/

namespace SparseFields

/-- Magnitudes of the format: at most 53 bits, and 53 of them unless the exponent is the least. -/
def Double.Normal (mantissa : Nat) (exponent : Int) : Prop :=
  mantissa < Nat.pow 2 53 ∧ -1074 ≤ exponent ∧ exponent ≤ 971 ∧
    (Nat.pow 2 52 ≤ mantissa ∨ exponent = -1074)

instance (mantissa : Nat) (exponent : Int) : Decidable (Double.Normal mantissa exponent) :=
  inferInstanceAs (Decidable (_ ∧ _))

/-- A finite double. -/
structure Double where
  negative : Bool
  mantissa : Nat
  exponent : Int
  normal : Double.Normal mantissa exponent
deriving DecidableEq

namespace Double

/-- The zero of a sign. -/
def zero (negative : Bool) : Double :=
  ⟨negative, 0, -1074, by decide⟩

instance : Inhabited Double := ⟨zero false⟩

/-- Whether the magnitude is zero. -/
def isZero (x : Double) : Bool :=
  x.mantissa == 0

/-- The same magnitude with the other sign. -/
def neg (x : Double) : Double :=
  { x with negative := !x.negative }

/-- Equality of values: the sign of a zero does not count. -/
def sameValue (x y : Double) : Bool :=
  (x.isZero && y.isZero) || decide (x = y)

/-- The fraction `num / den` divided by `2 ^ exponent`, as a fraction. -/
def scaled (num den : Nat) (exponent : Int) : Nat × Nat :=
  if 0 ≤ exponent then (num, den * Nat.pow 2 exponent.toNat)
  else (num * Nat.pow 2 (-exponent).toNat, den)

/-- Where a number goes that is as far from the integer below as from the one above. -/
inductive Tie
  | toEven
  | up
deriving DecidableEq, Repr

/-- Whether a tie above `below` goes up. -/
def Tie.goesUp : Tie → (below : Nat) → Bool
  | .toEven, below => below % 2 == 1
  | .up, _ => true

/-- The integer nearest to `num / den`. -/
def nearest (tie : Tie) (num den : Nat) : Nat :=
  let below := num / den
  let twice := 2 * (num % den)
  if den < twice ∨ (twice = den ∧ tie.goesUp below) then below + 1 else below

/-- The exponent with which `num / den` has a mantissa of 53 bits, if the format has it, and the
least exponent otherwise. -/
def exponentOf (num den : Nat) : Int :=
  let guess : Int := (num.log2 : Int) - den.log2 - 52
  let s := scaled num den guess
  max (if s.1 / s.2 < Nat.pow 2 52 then guess - 1 else guess) (-1074)

/-- The magnitude with this mantissa and exponent; a mantissa of `2 ^ 53` carries over. -/
def ofParts? (negative : Bool) (mantissa : Nat) (exponent : Int) : Option Double :=
  let parts :=
    if mantissa = Nat.pow 2 53 then (Nat.pow 2 52, exponent + 1) else (mantissa, exponent)
  if h : Normal parts.1 parts.2 then some ⟨negative, parts.1, parts.2, h⟩ else none

/-- The double nearest to `num / den`, or none when that is beyond the largest one. -/
def ofRatio? (negative : Bool) (num den : Nat) : Option Double :=
  if num = 0 then some (zero negative)
  else
    let exponent := exponentOf num den
    let s := scaled num den exponent
    ofParts? negative (nearest .toEven s.1 s.2) exponent

/-- The double nearest to `num / den · 2 ^ exponent`. -/
def ofScaledRatio? (negative : Bool) (num den : Nat) (exponent : Int) : Option Double :=
  let s := scaled num den (-exponent)
  ofRatio? negative s.1 s.2

/-- The rounded product. -/
def mul? (x y : Double) : Option Double :=
  ofScaledRatio? (x.negative != y.negative) (x.mantissa * y.mantissa) 1 (x.exponent + y.exponent)

/-- The rounded quotient; there is none by zero. -/
def div? (x y : Double) : Option Double :=
  if y.isZero then none
  else ofScaledRatio? (x.negative != y.negative) x.mantissa y.mantissa (x.exponent - y.exponent)

/-- The magnitude as a fraction. -/
def magnitude (x : Double) : Nat × Nat :=
  scaled x.mantissa 1 (-x.exponent)

/-- The integer nearest to the magnitude; a tie goes away from zero. -/
def roundHalfUp (x : Double) : Nat :=
  nearest .up x.magnitude.1 x.magnitude.2

end Double
end SparseFields
