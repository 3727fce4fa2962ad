import SparseFields.Number.Literal
import Mathlib.Algebra.Order.Field.Rat
import Mathlib.Data.List.TakeWhile

/-!
# Literals and their texts

A literal is written as its sign, the digits before the point, the fraction and the exponent, whose
sign is always there.  Digits end where the next part begins, so the parts are read back from the
text, and with them the value.
-/

namespace SparseFields

/-- Two texts that are cut at the first character without a property are cut at the same place. -/
theorem append_inj_of_boundary {p : Char → Bool} {a b r s : List Char}
    (ha : ∀ c ∈ a, p c = true) (hb : ∀ c ∈ b, p c = true)
    (hr : ∀ c ∈ r.head?, p c = false) (hs : ∀ c ∈ s.head?, p c = false)
    (h : a ++ r = b ++ s) : a = b ∧ r = s := by
  have hcut : ∀ {a r : List Char}, (∀ c ∈ a, p c = true) → (∀ c ∈ r.head?, p c = false) →
      (a ++ r).takeWhile p = a := by
    intro a r ha hr
    rw [List.takeWhile_append_of_pos ha]
    cases r with
    | nil => simp
    | cons c r => simp [hr c rfl]
  have hab : a = b := by
    rw [← hcut ha hr, h, hcut hb hs]
  subst hab
  exact ⟨rfl, List.append_cancel_left h⟩

namespace Digits

theorem toNat_eq_ofDigitChars (cs : List Char) : toNat cs = Nat.ofDigitChars 10 cs 0 :=
  Nat.ofDigitChars_eq_foldl.symm

theorem toNat_ofNat (n : Nat) : toNat (ofNat n) = n := by
  rw [toNat_eq_ofDigitChars, ofNat, Nat.ofDigitChars_ten_toDigits]

theorem isDigit_of_mem_ofNat {n : Nat} {c : Char} (h : c ∈ ofNat n) : c.isDigit = true :=
  Nat.isDigit_of_mem_toDigits (by decide) (by decide) h

theorem toNat_append_zeros (cs : List Char) (n : Nat) :
    toNat (cs ++ List.replicate n '0') = 10 ^ n * toNat cs := by
  rw [toNat_eq_ofDigitChars, Nat.ofDigitChars_append, Nat.ofDigitChars_replicate_zero,
    ← toNat_eq_ofDigitChars]

theorem toNat_zeros_append (n : Nat) (cs : List Char) :
    toNat (List.replicate n '0' ++ cs) = toNat cs := by
  rw [toNat_eq_ofDigitChars, Nat.ofDigitChars_append, Nat.ofDigitChars_replicate_zero,
    Nat.mul_zero, ← toNat_eq_ofDigitChars]

end Digits

namespace Literal

/-- The text of a fraction, if there is one. -/
def writeFraction : Option (List Char) → List Char
  | none => []
  | some digits => '.' :: digits

/-- The text of an exponent, if there is one. -/
def writeExponent : Option (Bool × List Char) → List Char
  | none => []
  | some (negative, digits) => 'e' :: (if negative then '-' else '+') :: digits

/-- The text of a literal after its sign. -/
def writeUnsigned (l : Literal) : List Char :=
  l.whole ++ (writeFraction l.fraction ++ writeExponent l.exponent)

/-- The text of a literal. -/
def write (l : Literal) : List Char :=
  (if l.negative then ['-'] else []) ++ l.writeUnsigned

/-- What stands for digits are decimal digits. -/
structure HasDigits (l : Literal) : Prop where
  whole : ∀ c ∈ l.whole, c.isDigit = true
  fraction : ∀ digits ∈ l.fraction, ∀ c ∈ digits, c.isDigit = true
  exponent : ∀ e ∈ l.exponent, ∀ c ∈ e.2, c.isDigit = true

/-- A character that numbers are written with. -/
def IsNumeric (c : Char) : Prop :=
  c.isDigit = true ∨ c ∈ ['-', '+', '.', 'e']

instance (c : Char) : Decidable (IsNumeric c) :=
  inferInstanceAs (Decidable (_ ∨ _))

/-- The exponent, where none counts as zero. -/
def exponentValue : Option (Bool × List Char) → Int
  | none => 0
  | some (negative, digits) => if negative then -(Digits.toNat digits) else Digits.toNat digits

/-- The magnitude that a literal stands for. -/
def magnitude (l : Literal) : ℚ :=
  Digits.toNat (l.whole ++ l.fraction.getD []) *
    10 ^ (exponentValue l.exponent - (l.fraction.getD []).length)

variable {l l' : Literal}

theorem writeExponent_injective : Function.Injective writeExponent := by
  intro e e' h
  match e, e' with
  | none, none => rfl
  | none, some _ => cases h
  | some _, none => cases h
  | some (negative, digits), some (negative', digits') =>
      simp only [writeExponent, List.cons.injEq, true_and] at h
      obtain ⟨hsign, rfl⟩ := h
      have hnegative : negative = negative' := by
        revert hsign
        cases negative <;> cases negative' <;> decide
      rw [hnegative]

theorem head?_writeExponent (e : Option (Bool × List Char)) :
    ∀ c ∈ (writeExponent e).head?, c = 'e' := by
  cases e with
  | none => nofun
  | some e =>
      rintro c ⟨⟩
      rfl

theorem head?_afterWhole (fraction : Option (List Char)) (e : Option (Bool × List Char)) :
    ∀ c ∈ (writeFraction fraction ++ writeExponent e).head?, c = '.' ∨ c = 'e' := by
  cases fraction with
  | none => exact fun c hc => .inr (head?_writeExponent e c hc)
  | some digits =>
      rintro c ⟨⟩
      exact .inl rfl

theorem afterWhole_inj {fraction fraction' : Option (List Char)}
    {e e' : Option (Bool × List Char)} (h : ∀ digits ∈ fraction, ∀ c ∈ digits, c.isDigit = true)
    (h' : ∀ digits ∈ fraction', ∀ c ∈ digits, c.isDigit = true)
    (heq : writeFraction fraction ++ writeExponent e =
      writeFraction fraction' ++ writeExponent e') : fraction = fraction' ∧ e = e' := by
  have hend : ∀ e, ∀ c ∈ (writeExponent e).head?, c.isDigit = false := by
    intro e c hc
    rw [head?_writeExponent e c hc]
    rfl
  -- A fraction on one side only would begin with the `e` of the other side.
  have hnone : ∀ (digits : List Char) (e e' : Option (Bool × List Char)),
      '.' :: digits ++ writeExponent e ≠ writeExponent e' := by
    intro digits e e' heq
    have hpoint := head?_writeExponent e' '.' (heq ▸ rfl)
    exact absurd hpoint (by decide)
  match fraction, fraction' with
  | none, none => exact ⟨rfl, writeExponent_injective heq⟩
  | some digits, none => exact absurd heq (hnone digits e e')
  | none, some digits => exact absurd heq.symm (hnone digits e' e)
  | some digits, some digits' =>
      have htail : digits ++ writeExponent e = digits' ++ writeExponent e' := (List.cons.inj heq).2
      obtain ⟨rfl, hexponent⟩ :=
        append_inj_of_boundary (h digits rfl) (h' digits' rfl) (hend e) (hend e') htail
      exact ⟨rfl, writeExponent_injective hexponent⟩

theorem HasDigits.head?_writeUnsigned (h : l.HasDigits) :
    ∀ c ∈ l.writeUnsigned.head?, c ≠ '-' := by
  rintro c hc rfl
  rw [writeUnsigned] at hc
  cases hwhole : l.whole with
  | nil =>
      rw [hwhole, List.nil_append] at hc
      rcases head?_afterWhole _ _ _ hc with h | h <;> exact absurd h (by decide)
  | cons d rest =>
      rw [hwhole] at hc
      have hdigit := h.whole d (hwhole ▸ List.mem_cons_self)
      obtain rfl : d = '-' := Option.some.inj hc
      exact absurd hdigit (by decide)

/-- The text of a literal determines its sign and what follows it. -/
theorem sign_inj (h : l.HasDigits) (h' : l'.HasDigits) (heq : l.write = l'.write) :
    l.negative = l'.negative ∧ l.writeUnsigned = l'.writeUnsigned := by
  rw [write, write] at heq
  have hsign : ∀ {l l' : Literal}, l.HasDigits → ['-'] ++ l'.writeUnsigned ≠ l.writeUnsigned := by
    intro l l' h heq
    exact h.head?_writeUnsigned '-' (heq ▸ rfl) rfl
  cases hl : l.negative with
  | true =>
      cases hl' : l'.negative with
      | true =>
          rw [hl, hl'] at heq
          exact ⟨rfl, List.append_cancel_left heq⟩
      | false =>
          rw [hl, hl'] at heq
          exact absurd heq (hsign h')
  | false =>
      cases hl' : l'.negative with
      | true =>
          rw [hl, hl'] at heq
          exact absurd heq.symm (hsign h)
      | false =>
          rw [hl, hl'] at heq
          exact ⟨rfl, List.append_cancel_left heq⟩

/-- Literals with the same text are the same. -/
theorem write_inj (h : l.HasDigits) (h' : l'.HasDigits) (heq : l.write = l'.write) : l = l' := by
  obtain ⟨hnegative, hunsigned⟩ := sign_inj h h' heq
  have hend : ∀ l : Literal,
      ∀ c ∈ (writeFraction l.fraction ++ writeExponent l.exponent).head?, c.isDigit = false := by
    intro l c hc
    rcases head?_afterWhole _ _ c hc with rfl | rfl <;> rfl
  obtain ⟨hwhole, hafter⟩ :=
    append_inj_of_boundary h.whole h'.whole (hend l) (hend l') hunsigned
  obtain ⟨hfraction, hexponent⟩ := afterWhole_inj h.fraction h'.fraction hafter
  obtain ⟨negative, whole, fraction, exponent⟩ := l
  cases hnegative
  cases hwhole
  cases hfraction
  cases hexponent
  rfl

theorem isNumeric_of_mem_writeFraction {fraction : Option (List Char)}
    (h : ∀ digits ∈ fraction, ∀ c ∈ digits, c.isDigit = true) :
    ∀ c ∈ writeFraction fraction, IsNumeric c := by
  cases fraction with
  | none => nofun
  | some digits =>
      refine List.forall_mem_cons.mpr ⟨.inr (by decide), ?_⟩
      exact fun c hc => .inl (h digits rfl c hc)

theorem isNumeric_of_mem_writeExponent {e : Option (Bool × List Char)}
    (h : ∀ signed ∈ e, ∀ c ∈ signed.2, c.isDigit = true) :
    ∀ c ∈ writeExponent e, IsNumeric c := by
  cases e with
  | none => nofun
  | some signed =>
      refine List.forall_mem_cons.mpr ⟨.inr (by decide), List.forall_mem_cons.mpr ⟨?_, ?_⟩⟩
      · split <;> exact .inr (by decide)
      · exact fun c hc => .inl (h signed rfl c hc)

/-- A literal is written with the characters of numbers. -/
theorem HasDigits.isNumeric (h : l.HasDigits) : ∀ c ∈ l.write, IsNumeric c := by
  rw [write, writeUnsigned]
  refine List.forall_mem_append.mpr ⟨?_, List.forall_mem_append.mpr ⟨?_, ?_⟩⟩
  · split
    · exact List.forall_mem_singleton.mpr (.inr (by decide))
    · nofun
  · exact fun c hc => .inl (h.whole c hc)
  · exact List.forall_mem_append.mpr
      ⟨isNumeric_of_mem_writeFraction h.fraction, isNumeric_of_mem_writeExponent h.exponent⟩

end Literal
end SparseFields
