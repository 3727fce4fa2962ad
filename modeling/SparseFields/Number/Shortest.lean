import SparseFields.Number.Double

/-!
# The shortest decimal text of a double

A double is written with the fewest decimal digits that lie in the interval of reals rounding to
it, and among those with the digits nearest to the double.  Which of two equally near ones is taken
and how the digits are laid out is a separate record, since two outputs of the library differ in
it.
-/

namespace SparseFields

/-- Decimal digits `d₁d₂…` with the place of the point: the value is `0.d₁d₂… · 10 ^ point`. -/
structure Digits where
  digits : List Char
  point : Int
deriving DecidableEq, Repr

namespace Digits

/-- The decimal digits of a number, without leading zeros. -/
def ofNat (n : Nat) : List Char :=
  Nat.toDigits 10 n

/-- The value of a decimal digit. -/
def digitValue (c : Char) : Nat :=
  c.toNat - '0'.toNat

/-- The number that decimal digits write. -/
def toNat (cs : List Char) : Nat :=
  cs.foldl (fun n c => 10 * n + digitValue c) 0

/-- The number that a text writes, if it holds decimal digits only, and at least one. -/
def toNat? (cs : List Char) : Option Nat :=
  if !cs.isEmpty && cs.all Char.isDigit then some (toNat cs) else none

/-- The digits of `n · 10 ^ scale`, without trailing zeros. -/
def ofScaled (n : Nat) (scale : Int) : Digits :=
  let digits := ofNat n
  ⟨(digits.reverse.dropWhile (· == '0')).reverse, digits.length + scale⟩

end Digits

namespace Double

/-- An interval of positive reals: its two ends as fractions, and whether they belong to it. -/
structure Interval where
  low : Nat × Nat
  high : Nat × Nat
  closed : Bool

/-- The interval of the reals that round to the magnitude of a double.  Below a power of two the
neighbour is half as far, except at the least exponent. -/
def interval (x : Double) : Interval :=
  let half := x.mantissa = Nat.pow 2 52 ∧ x.exponent ≠ -1074
  { low := scaled (4 * x.mantissa - (if half then 1 else 2)) 4 (-x.exponent)
    high := scaled (4 * x.mantissa + 2) 4 (-x.exponent)
    closed := x.mantissa % 2 = 0 }

/-- Whether the fraction `a` is less than `b`, or equal to it where `orEqual` allows. -/
def below (orEqual : Bool) (a b : Nat × Nat) : Bool :=
  a.1 * b.2 < b.1 * a.2 || (orEqual && a.1 * b.2 == b.1 * a.2)

/-- Whether an interval holds a fraction. -/
def Interval.holds (i : Interval) (v : Nat × Nat) : Bool :=
  below i.closed i.low v && below i.closed v i.high

/-- The number of digits before the point of a positive fraction; for a fraction below one, the
number of zeros after the point, negated. -/
def pointOf (v : Nat × Nat) : Int :=
  if v.2 ≤ v.1 then (Digits.ofNat (v.1 / v.2)).length
  else
    let steps := (v.2 - 1) / v.1
    1 - (Digits.ofNat steps).length

/-- The multiple of `10 ^ scale` on a decimal grid next to `v` that an interval holds: the nearer
one if it holds both neighbours. -/
def gridHit? (tie : Tie) (i : Interval) (v : Nat × Nat) (scale : Int) : Option Nat :=
  let tens : Nat × Nat := (Nat.pow 10 scale.toNat, Nat.pow 10 (-scale).toNat)
  let num := v.1 * tens.2
  let den := v.2 * tens.1
  let floor := num / den
  let point (n : Nat) : Nat × Nat := (n * tens.1, tens.2)
  match i.holds (point floor) && floor != 0, i.holds (point (floor + 1)) with
  | true, true => some (nearest tie num den)
  | true, false => some floor
  | false, true => some (floor + 1)
  | false, false => none

/-- The first hit on the grids with `count`, `count + 1`, … digits, at most `grids` of them. -/
def searchGrids (tie : Tie) (i : Interval) (v : Nat × Nat) (point : Int) :
    (grids count : Nat) → Option Digits
  | 0, _ => none
  | grids + 1, count =>
      let scale := point - count
      match gridHit? tie i v scale with
      | some n => some (Digits.ofScaled n scale)
      | none => searchGrids tie i v point grids (count + 1)

/-- The exact digits of a magnitude: a fraction over a power of two ends after as many places as
that power has factors. -/
def exactDigits (x : Double) : Digits :=
  let places := (-x.exponent).toNat
  let v := x.magnitude
  Digits.ofScaled (v.1 * Nat.pow 10 places / v.2) (-places)

/-- The shortest digits that round to the magnitude of a double.  Seventeen digits always do. -/
def shortest (tie : Tie) (x : Double) : Digits :=
  let v := x.magnitude
  (searchGrids tie x.interval v (pointOf v) 17 1).getD x.exactDigits

/-- How a double is written: which of two equally near texts is taken, with which places of the
point there is no exponent, and what follows a number without a fraction. -/
structure Layout where
  tie : Tie
  positional : Int → Bool
  wholeEnding : String

/-- Digits with a point and no exponent. -/
def positionalText (ending : String) (d : Digits) : String :=
  if d.point ≤ 0 then
    "0." ++ String.ofList (List.replicate (-d.point).toNat '0' ++ d.digits)
  else if (d.digits.length : Int) ≤ d.point then
    String.ofList (d.digits ++ List.replicate (d.point - d.digits.length).toNat '0') ++ ending
  else
    String.ofList (d.digits.take d.point.toNat) ++ "." ++
      String.ofList (d.digits.drop d.point.toNat)

/-- Digits with one place before the point and an exponent, whose sign is always written. -/
def exponentText (d : Digits) : String :=
  let fraction := String.ofList (d.digits.drop 1)
  let exponent := d.point - 1
  String.ofList (d.digits.take 1) ++ (if fraction = "" then "" else "." ++ fraction) ++ "e" ++
    (if exponent < 0 then "-" else "+") ++ toString exponent.natAbs

/-- The shortest text of a double in a layout. -/
def text (layout : Layout) (x : Double) : String :=
  (if x.negative then "-" else "") ++
    if x.isZero then "0" ++ layout.wholeEnding
    else
      let d := x.shortest layout.tie
      if layout.positional d.point then positionalText layout.wholeEnding d else exponentText d

end Double
end SparseFields
