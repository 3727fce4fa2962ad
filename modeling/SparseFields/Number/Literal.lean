import SparseFields.Number.Basic
import SparseFields.Number.Width

/-!
# Decimal literals

A literal is an optional minus sign, digits without a superfluous leading zero, and optionally a
fraction and an exponent.  A literal of digits alone is an integer if it fits 64 bits, unsigned, or
signed after a minus sign; minus zero and everything else is a double.

A double is found in two roundings.  The leading digits that fit 64 bits make a significand, which
is rounded to a double and then multiplied or divided by the double nearest to a power of ten.  For
at most fifteen digits and a small exponent the first step is exact, and so the result is the double
nearest to the literal.
-/

namespace SparseFields

/-- A decimal literal: its digits before the point, the digits after it, and the exponent. -/
structure Literal where
  negative : Bool
  whole : List Char
  fraction : Option (List Char)
  exponent : Option (Bool × List Char)
deriving DecidableEq, Repr

namespace Literal

/-- The largest significand. -/
def maxSignificand : Nat := maxUnsigned 64

/-- The largest power of ten that is applied in one step. -/
def maxStep : Nat := 308

/-- Splits a text after its leading digits, of which there must be one. -/
def digits? (cs : List Char) : Option (List Char × List Char) :=
  if cs.takeWhile Char.isDigit = [] then none
  else some (cs.takeWhile Char.isDigit, cs.dropWhile Char.isDigit)

/-- The digits before the point: a zero stands alone. -/
def whole? (cs : List Char) : Option (List Char × List Char) :=
  match digits? cs with
  | some ('0' :: _ :: _, _) => none
  | other => other

/-- The fraction, if a point follows. -/
def fraction? : List Char → Option (Option (List Char) × List Char)
  | '.' :: cs => (digits? cs).map fun (ds, rest) => (some ds, rest)
  | cs => some (none, cs)

/-- The sign of an exponent, a plus being optional. -/
def exponentSign : List Char → Bool × List Char
  | '-' :: cs => (true, cs)
  | '+' :: cs => (false, cs)
  | cs => (false, cs)

/-- The exponent, if an `e` follows. -/
def exponent? : List Char → Option (Option (Bool × List Char) × List Char)
  | [] => some (none, [])
  | c :: cs =>
      if c = 'e' ∨ c = 'E' then
        let signed := exponentSign cs
        (digits? signed.2).map fun (ds, rest) => (some (signed.1, ds), rest)
      else some (none, c :: cs)

/-- Reads a literal without its sign from the front of a text. -/
def readUnsigned? (negative : Bool) (cs : List Char) : Option (Literal × List Char) := do
  let (whole, cs) ← whole? cs
  let (fraction, cs) ← fraction? cs
  let (exponent, cs) ← exponent? cs
  return (⟨negative, whole, fraction, exponent⟩, cs)

/-- Reads a literal from the front of a text, and what follows it. -/
def read? : List Char → Option (Literal × List Char)
  | '-' :: cs => readUnsigned? true cs
  | cs => readUnsigned? false cs

/-- Appends digits to a significand while it fits, and returns the digits that are left. -/
def accumulate (significand : Nat) : List Char → Nat × List Char
  | [] => (significand, [])
  | c :: cs =>
      let next := 10 * significand + Digits.digitValue c
      if next ≤ maxSignificand then accumulate next cs else (significand, c :: cs)

/-- The double nearest to a power of ten, for the powers of one step. -/
def tenPower (n : Nat) : Double :=
  (Double.ofRatio? false (Nat.pow 10 n) 1).getD (Double.zero false)

/-- Divides by the largest step a number of times, and stops at zero. -/
def shrink? : (steps : Nat) → Double → Option Double
  | 0, x => some x
  | steps + 1, x => if x.isZero then some x else (x.div? (tenPower maxStep)).bind (shrink? steps)

/-- Applies a power of ten to a double.  One beyond a single step is an overflow unless the double
is zero; one below is divided off in steps of the largest size. -/
def applyExponent? (x : Double) (exponent : Int) : Option Double :=
  let size := exponent.natAbs
  if 0 ≤ exponent then
    if size ≤ maxStep then x.mul? (tenPower size) else if x.isZero then some x else none
  else
    let steps := (size - maxStep + (maxStep - 1)) / maxStep
    (shrink? steps x).bind fun y => y.div? (tenPower (size - steps * maxStep))

/-- The double of a literal, or none beyond the largest one. -/
def double? (l : Literal) : Option Double := do
  let (significand, dropped) := accumulate 0 l.whole
  let fraction := l.fraction.getD []
  let (significand, unread) := accumulate significand fraction
  let shift : Int := (dropped.length : Int) - ((fraction.length - unread.length : Nat) : Int)
  let exponent : Int :=
    match l.exponent with
    | none => 0
    | some (true, ds) => -(Digits.toNat ds : Int)
    | some (false, ds) => Digits.toNat ds
  let start ← Double.ofRatio? false significand 1
  let magnitude ← applyExponent? start (shift + exponent)
  return if l.negative then magnitude.neg else magnitude

/-- The integer of a literal, if it is one that fits 64 bits. -/
def int? (l : Literal) : Option Int :=
  let n := Digits.toNat l.whole
  if l.fraction.isSome || l.exponent.isSome then none
  else if l.negative then if 0 < n ∧ n ≤ maxSigned 64 + 1 then some (-(n : Int)) else none
  else if n ≤ maxSignificand then some n
  else none

/-- The number of a literal, or none beyond the largest double. -/
def value? (l : Literal) : Option Number :=
  match l.int? with
  | some i => some (.int i)
  | none => l.double?.map .double

theorem length_digits? {cs ds rest : List Char} (h : digits? cs = some (ds, rest)) :
    rest.length < cs.length := by
  have hsplit := congrArg List.length
    (List.takeWhile_append_dropWhile (p := Char.isDigit) (l := cs))
  rw [List.length_append] at hsplit
  rw [digits?] at h
  split at h
  · simp at h
  · next hne =>
    have hpos := List.length_pos_iff.2 hne
    obtain ⟨-, rfl⟩ := Prod.mk.inj (Option.some.inj h)
    omega

theorem length_whole? {cs ds rest : List Char} (h : whole? cs = some (ds, rest)) :
    rest.length < cs.length := by
  rw [whole?] at h
  split at h
  · simp at h
  · exact length_digits? h

theorem length_fraction? {cs rest : List Char} {ds : Option (List Char)}
    (h : fraction? cs = some (ds, rest)) : rest.length ≤ cs.length := by
  rw [fraction?.eq_def] at h
  split at h
  · obtain ⟨⟨ds', tail⟩, hread, heq⟩ := Option.map_eq_some_iff.1 h
    obtain ⟨-, rfl⟩ := Prod.mk.inj heq
    exact Nat.le_succ_of_le (Nat.le_of_lt (length_digits? hread))
  · obtain ⟨-, rfl⟩ := Prod.mk.inj (Option.some.inj h)
    exact Nat.le_refl _

theorem length_exponentSign (cs : List Char) : (exponentSign cs).2.length ≤ cs.length := by
  rw [exponentSign.eq_def]
  split <;> simp

theorem length_exponent? {cs rest : List Char} {e : Option (Bool × List Char)}
    (h : exponent? cs = some (e, rest)) : rest.length ≤ cs.length := by
  rw [exponent?.eq_def] at h
  split at h
  · obtain ⟨-, rfl⟩ := Prod.mk.inj (Option.some.inj h)
    exact Nat.le_refl _
  · next c tail =>
    split at h
    · obtain ⟨⟨ds, tail'⟩, hread, heq⟩ := Option.map_eq_some_iff.1 h
      obtain ⟨-, rfl⟩ := Prod.mk.inj heq
      have := length_digits? hread
      have := length_exponentSign tail
      simp only [List.length_cons]
      omega
    · obtain ⟨-, rfl⟩ := Prod.mk.inj (Option.some.inj h)
      exact Nat.le_refl _

theorem length_readUnsigned? {negative : Bool} {cs rest : List Char} {l : Literal}
    (h : readUnsigned? negative cs = some (l, rest)) : rest.length < cs.length := by
  simp only [readUnsigned?, bind, Option.bind_eq_some_iff, pure] at h
  obtain ⟨⟨ds, afterWhole⟩, hwhole, ⟨fraction, afterFraction⟩, hfraction,
    ⟨exponent, afterExponent⟩, hexponent, heq⟩ := h
  obtain ⟨-, rfl⟩ := Prod.mk.inj (Option.some.inj heq)
  calc
    _ ≤ afterFraction.length := length_exponent? hexponent
    _ ≤ afterWhole.length := length_fraction? hfraction
    _ < cs.length := length_whole? hwhole

/-- Reading a literal leaves less text. -/
theorem length_read? {cs rest : List Char} {l : Literal} (h : read? cs = some (l, rest)) :
    rest.length < cs.length := by
  rw [read?.eq_def] at h
  split at h
  · exact Nat.lt_succ_of_lt (length_readUnsigned? h)
  · exact length_readUnsigned? h

end Literal
end SparseFields
