import SparseFields.Number.Basic
import SparseFields.Proofs.Number.Rounding

/-!
# Texts of numbers

A number is written as a literal: an integer as its digits alone, and a double always with a
fraction or an exponent, in such a way that the literal stands for a number that rounds to the
double.  So different numbers have different texts; the two zeros differ in their sign.
-/

namespace SparseFields

namespace Digits

/-- The literal of digits that are written without an exponent. -/
def positionalLiteral (negative : Bool) (d : Digits) : Literal :=
  if d.point ≤ 0 then
    ⟨negative, ['0'], some (List.replicate (-d.point).toNat '0' ++ d.digits), none⟩
  else if (d.digits.length : Int) ≤ d.point then
    ⟨negative, d.digits ++ List.replicate (d.point - d.digits.length).toNat '0', some ['0'], none⟩
  else
    ⟨negative, d.digits.take d.point.toNat, some (d.digits.drop d.point.toNat), none⟩

/-- The literal of digits that are written with an exponent. -/
def exponentLiteral (negative : Bool) (d : Digits) : Literal :=
  ⟨negative, d.digits.take 1, if d.digits.drop 1 = [] then none else some (d.digits.drop 1),
    some (decide (d.point - 1 < 0), ofNat (d.point - 1).natAbs)⟩

variable {d : Digits} {negative : Bool}

theorem negative_positionalLiteral : (d.positionalLiteral negative).negative = negative := by
  rw [positionalLiteral]
  split
  · rfl
  · split <;> rfl

theorem isSome_fraction_positionalLiteral :
    (d.positionalLiteral negative).fraction.isSome = true := by
  rw [positionalLiteral]
  split
  · rfl
  · split <;> rfl

theorem toList_positionalText (d : Digits) (negative : Bool) :
    (Double.positionalText ".0" d).toList = (d.positionalLiteral negative).writeUnsigned := by
  rw [Double.positionalText, positionalLiteral]
  split
  · simp [Literal.writeUnsigned, Literal.writeFraction, Literal.writeExponent]
  · split
    · simp [Literal.writeUnsigned, Literal.writeFraction, Literal.writeExponent]
    · simp [Literal.writeUnsigned, Literal.writeFraction, Literal.writeExponent]

theorem toList_exponentText (d : Digits) (negative : Bool) :
    (Double.exponentText d).toList = (d.exponentLiteral negative).writeUnsigned := by
  have hfraction : (if String.ofList (d.digits.drop 1) = "" then ""
        else "." ++ String.ofList (d.digits.drop 1)).toList =
      Literal.writeFraction (if d.digits.drop 1 = [] then none else some (d.digits.drop 1)) := by
    have hempty : String.ofList (d.digits.drop 1) = "" ↔ d.digits.drop 1 = [] := by
      rw [← String.toList_inj, String.toList_ofList]
      rfl
    by_cases h : d.digits.drop 1 = []
    · rw [if_pos (hempty.mpr h), if_pos h]
      rfl
    · rw [if_neg (mt hempty.mp h), if_neg h, String.toList_append]
      exact congrArg ('.' :: ·) String.toList_ofList
  have hsign : (if d.point - 1 < 0 then "-" else "+").toList =
      [if decide (d.point - 1 < 0) = true then '-' else '+'] := by
    by_cases h : d.point - 1 < 0
    · rw [if_pos h, if_pos (decide_eq_true h)]
      rfl
    · rw [if_neg h, if_neg (by rwa [decide_eq_true_eq])]
      rfl
  rw [Double.exponentText, Literal.writeUnsigned]
  simp only [String.toList_append, String.toList_ofList, hfraction, hsign,
    Nat.toString_eq_ofList_toDigits, List.append_assoc]
  rfl

theorem hasDigits_positionalLiteral (h : ∀ c ∈ d.digits, c.isDigit = true) :
    (d.positionalLiteral negative).HasDigits := by
  have hzeros : ∀ n, ∀ c ∈ List.replicate n '0', c.isDigit = true := by
    intro n c hc
    rw [(List.mem_replicate.mp hc).2]
    rfl
  have hzero : ∀ c ∈ ['0'], c.isDigit = true := hzeros 1
  have happend : ∀ {as bs : List Char}, (∀ c ∈ as, c.isDigit = true) →
      (∀ c ∈ bs, c.isDigit = true) → ∀ c ∈ as ++ bs, c.isDigit = true :=
    fun has hbs c hc => (List.mem_append.mp hc).elim (has c) (hbs c)
  rw [positionalLiteral]
  split
  · exact ⟨hzero, fun _ hds => Option.some.inj hds ▸ happend (hzeros _) h, nofun⟩
  · split
    · exact ⟨happend h (hzeros _), fun _ hds => Option.some.inj hds ▸ hzero, nofun⟩
    · refine ⟨fun c hc => h c (List.mem_of_mem_take hc), fun _ hds => ?_, nofun⟩
      exact Option.some.inj hds ▸ fun c hc => h c (List.mem_of_mem_drop hc)

theorem hasDigits_exponentLiteral (h : ∀ c ∈ d.digits, c.isDigit = true) :
    (d.exponentLiteral negative).HasDigits where
  whole c hc := h c (List.mem_of_mem_take hc)
  fraction digits hdigits c hc := by
    rw [exponentLiteral] at hdigits
    split at hdigits
    · cases hdigits
    · cases hdigits
      exact h c (List.mem_of_mem_drop hc)
  exponent e he c hc := by
    cases he
    exact isDigit_of_mem_ofNat hc

theorem magnitude_positionalLiteral (d : Digits) (negative : Bool) :
    (d.positionalLiteral negative).magnitude = d.value := by
  rw [positionalLiteral, value]
  split
  · next h =>
    obtain ⟨k, hk⟩ : ∃ k : Nat, d.point = -k := ⟨(-d.point).toNat, by omega⟩
    have hnumber : toNat (['0'] ++ (List.replicate k '0' ++ d.digits)) = toNat d.digits := by
      rw [← List.replicate_one, toNat_zeros_append, toNat_zeros_append]
    have hscale : (0 : Int) - (List.replicate k '0' ++ d.digits).length =
        d.point - d.digits.length := by
      rw [hk, List.length_append, List.length_replicate]
      push_cast
      ring
    rw [hk] at hscale ⊢
    rw [neg_neg, Int.toNat_natCast, Literal.magnitude, Option.getD_some, hnumber, ← hscale]
    rfl
  · split
    · next h =>
      obtain ⟨k, hk⟩ : ∃ k : Nat, d.point - d.digits.length = k :=
        ⟨(d.point - d.digits.length).toNat, by omega⟩
      have hnumber : toNat (d.digits ++ List.replicate k '0' ++ ['0']) =
          10 ^ (k + 1) * toNat d.digits := by
        rw [List.append_assoc, ← List.replicate_succ', toNat_append_zeros]
      rw [hk, Int.toNat_natCast, Literal.magnitude, Option.getD_some, hnumber, zpow_natCast]
      have hscale : Literal.exponentValue none - (['0'].length : Int) = -1 := rfl
      rw [hscale, zpow_neg_one]
      push_cast
      rw [pow_succ]
      field_simp
    · next hpoint hlength =>
      have hscale : (0 : Int) - (d.digits.drop d.point.toNat).length =
          d.point - d.digits.length := by
        rw [List.length_drop]
        omega
      rw [Literal.magnitude, Option.getD_some, List.take_append_drop, ← hscale]
      rfl

theorem magnitude_exponentLiteral (d : Digits) (negative : Bool) :
    (d.exponentLiteral negative).magnitude = d.value := by
  have hfraction : (if d.digits.drop 1 = [] then none else some (d.digits.drop 1)).getD [] =
      d.digits.drop 1 := by
    split
    · next h => exact h.symm
    · rfl
  have hexponent : Literal.exponentValue
      (some (decide (d.point - 1 < 0), ofNat (d.point - 1).natAbs)) = d.point - 1 := by
    rw [Literal.exponentValue, toNat_ofNat]
    split
    · next h =>
      rw [decide_eq_true_eq] at h
      omega
    · next h =>
      rw [decide_eq_true_eq] at h
      omega
  rw [exponentLiteral, value, Literal.magnitude, hfraction, hexponent, List.take_append_drop]
  cases hdigits : d.digits with
  | nil => rw [show toNat [] = 0 from rfl, Nat.cast_zero, zero_mul, zero_mul]
  | cons c rest =>
      have hscale : d.point - 1 - ((c :: rest).drop 1).length = d.point - (c :: rest).length := by
        rw [List.length_drop, List.length_cons]
        omega
      rw [hscale]

end Digits

namespace Double

/-- The literal that a double is written as. -/
def literal (x : Double) : Literal :=
  if x.isZero then ⟨x.negative, ['0'], some ['0'], none⟩
  else if Number.layout.positional (x.shortest .toEven).point then
    (x.shortest .toEven).positionalLiteral x.negative
  else (x.shortest .toEven).exponentLiteral x.negative

variable {x y : Double}

theorem negative_literal (x : Double) : x.literal.negative = x.negative := by
  rw [literal]
  split
  · rfl
  · split
    · exact Digits.negative_positionalLiteral
    · rfl

/-- A double is always written with a fraction or an exponent. -/
theorem isSome_literal (x : Double) :
    x.literal.fraction.isSome = true ∨ x.literal.exponent.isSome = true := by
  rw [literal]
  split
  · exact .inl rfl
  · split
    · exact .inl Digits.isSome_fraction_positionalLiteral
    · exact .inr rfl

theorem hasDigits_literal (x : Double) : x.literal.HasDigits := by
  have hdigits := x.isDigit_of_mem_shortest .toEven
  rw [literal]
  split
  · have hzero : ∀ c ∈ ['0'], c.isDigit = true := List.forall_mem_singleton.mpr rfl
    exact ⟨hzero, fun _ hdigits => Option.some.inj hdigits ▸ hzero, nofun⟩
  · split
    · exact Digits.hasDigits_positionalLiteral hdigits
    · exact Digits.hasDigits_exponentLiteral hdigits

/-- The literal of a double stands for a number that rounds to it. -/
theorem rounds_literal (x : Double) : x.Rounds x.literal.magnitude := by
  rw [literal]
  split
  · next hzero =>
    have hmantissa : x.mantissa = 0 := beq_iff_eq.mp hzero
    have hrounds := x.rounds_magnitude
    rw [hmantissa, Nat.cast_zero, zero_mul] at hrounds
    simpa [Literal.magnitude, Digits.toNat, Digits.digitValue] using hrounds
  · split
    · rw [Digits.magnitude_positionalLiteral]
      exact x.rounds_shortest .toEven
    · rw [Digits.magnitude_exponentLiteral]
      exact x.rounds_shortest .toEven

theorem toList_text (x : Double) : (x.text Number.layout).toList = x.literal.write := by
  have hsign : (if x.negative then "-" else "").toList = if x.negative then ['-'] else [] := by
    split <;> rfl
  have htie : Number.layout.tie = .toEven := rfl
  have hending : Number.layout.wholeEnding = ".0" := rfl
  rw [text, String.toList_append, hsign, Literal.write, negative_literal, literal, htie, hending]
  congr 1
  split
  · rfl
  · dsimp only
    split
    · exact Digits.toList_positionalText _ _
    · exact Digits.toList_exponentText _ _

theorem eq_of_literal_eq (h : x.literal = y.literal) : x = y := by
  have hnegative : x.negative = y.negative := by
    rw [← negative_literal, h, negative_literal]
  obtain ⟨hmantissa, hexponent⟩ := Rounds.unique x.rounds_literal (h ▸ y.rounds_literal)
  obtain ⟨negative, mantissa, exponent, normal⟩ := x
  cases hnegative
  cases hmantissa
  cases hexponent
  rfl

end Double

namespace Number

/-- The literal that a number is written as. -/
def literal : Number → Literal
  | .int i => ⟨decide (i < 0), Digits.ofNat i.natAbs, none, none⟩
  | .double x => x.literal

theorem hasDigits_literal (n : Number) : n.literal.HasDigits := by
  cases n with
  | int i => exact ⟨fun _ => Digits.isDigit_of_mem_ofNat, nofun, nofun⟩
  | double x => exact x.hasDigits_literal

theorem toList_text (n : Number) : n.text.toList = n.literal.write := by
  cases n with
  | int i =>
      have hsign : (if i < 0 then "-" else "").toList =
          if decide (i < 0) = true then ['-'] else [] := by
        simp only [decide_eq_true_eq]
        split <;> rfl
      rw [text, intText, String.toList_append, String.toList_ofList, hsign, literal, Literal.write,
        Literal.writeUnsigned, Literal.writeFraction, Literal.writeExponent, List.append_nil,
        List.append_nil]
  | double x => exact x.toList_text

/-- A number is written with the characters of numbers. -/
theorem isNumeric_of_mem_text (n : Number) : ∀ c ∈ n.text.toList, Literal.IsNumeric c := by
  rw [toList_text]
  exact n.hasDigits_literal.isNumeric

theorem toList_text_ne_nil (n : Number) : n.text.toList ≠ [] := by
  rw [toList_text]
  cases n with
  | int i => simp [literal, Literal.write, Literal.writeUnsigned, Digits.ofNat]
  | double x =>
      rcases x.isSome_literal with h | h
      · obtain ⟨digits, hdigits⟩ := Option.isSome_iff_exists.mp h
        simp [literal, Literal.write, Literal.writeUnsigned, hdigits, Literal.writeFraction]
      · obtain ⟨e, he⟩ := Option.isSome_iff_exists.mp h
        simp [literal, Literal.write, Literal.writeUnsigned, he, Literal.writeExponent]

theorem literal_injective : Function.Injective literal := by
  intro n n' h
  -- Only the literal of an integer has neither a fraction nor an exponent.
  have hkind : ∀ (i : Int) (x : Double), (Number.int i).literal ≠ (Number.double x).literal := by
    intro i x h
    have hsome := x.isSome_literal
    rw [← show (Number.int i).literal = x.literal from h] at hsome
    rcases hsome with hsome | hsome <;> cases hsome
  match n, n' with
  | .int i, .int j =>
      obtain ⟨hsign, hdigits, -, -⟩ := Literal.mk.inj h
      have habs : i.natAbs = j.natAbs := by
        rw [← Digits.toNat_ofNat i.natAbs, hdigits, Digits.toNat_ofNat]
      rw [decide_eq_decide] at hsign
      have heq : i = j := by omega
      rw [heq]
  | .int i, .double x => exact absurd h (hkind i x)
  | .double x, .int i => exact absurd h.symm (hkind i x)
  | .double x, .double y => exact congrArg Number.double (Double.eq_of_literal_eq h)

/-- Different numbers have different texts. -/
theorem text_injective : Function.Injective text := by
  intro n n' h
  have hwrite : n.literal.write = n'.literal.write := by
    rw [← toList_text, h, toList_text]
  exact literal_injective (Literal.write_inj n.hasDigits_literal n'.hasDigits_literal hwrite)

end Number
end SparseFields
