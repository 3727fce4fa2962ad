import SparseFields.Proofs.Number.Literal
import Mathlib.Algebra.Order.Field.Power
import Mathlib.Tactic.FieldSimp
import Mathlib.Tactic.Linarith
import Mathlib.Tactic.NormNum
import Mathlib.Tactic.Positivity
import Mathlib.Tactic.Ring

/-!
# Rounding intervals

The numbers that round to the magnitude of a double lie between two half-way points, which belong
to them where the mantissa is even.  A number rounds to one magnitude only.  The shortest digits of
a double stand for a number that rounds to it: a search for them tests just that, and the exact
digits, which are taken when it fails, stand for the magnitude itself.
-/

namespace SparseFields

namespace Digits

/-- The number that digits with a point stand for. -/
def value (d : Digits) : ℚ :=
  toNat d.digits * 10 ^ (d.point - d.digits.length)

theorem ofNat_eq_trimmed_append (n : Nat) :
    ∃ zeros, ofNat n =
      ((ofNat n).reverse.dropWhile (· == '0')).reverse ++ List.replicate zeros '0' := by
  refine ⟨((ofNat n).reverse.takeWhile (· == '0')).length, ?_⟩
  have hzeros : ∀ c ∈ (ofNat n).reverse.takeWhile (· == '0'), c = '0' := by
    intro c hc
    have hzero := List.mem_takeWhile_imp (p := (· == '0')) hc
    exact beq_iff_eq.mp hzero
  have hsplit := congrArg List.reverse
    (List.takeWhile_append_dropWhile (p := (· == '0')) (l := (ofNat n).reverse))
  rw [List.reverse_append, List.reverse_reverse, List.eq_replicate_of_mem hzeros,
    List.reverse_replicate] at hsplit
  exact hsplit.symm

/-- Trailing zeros do not count. -/
theorem value_ofScaled (n : Nat) (scale : Int) : (ofScaled n scale).value = n * 10 ^ scale := by
  obtain ⟨zeros, hzeros⟩ := ofNat_eq_trimmed_append n
  rw [value, ofScaled]
  dsimp only
  generalize ((ofNat n).reverse.dropWhile (· == '0')).reverse = trimmed at hzeros ⊢
  have hnumber : n = 10 ^ zeros * toNat trimmed := by
    rw [← toNat_append_zeros, ← hzeros, toNat_ofNat]
  have hlength : (ofNat n).length = trimmed.length + zeros := by
    rw [hzeros, List.length_append, List.length_replicate]
  have hscale : ((ofNat n).length + scale : Int) - trimmed.length = zeros + scale := by
    rw [hlength]
    push_cast
    ring
  rw [hscale, zpow_add₀ (by norm_num), zpow_natCast]
  conv_rhs => rw [hnumber]
  push_cast
  ring

theorem isDigit_of_mem_ofScaled {n : Nat} {scale : Int} :
    ∀ c ∈ (ofScaled n scale).digits, c.isDigit = true := by
  intro c hc
  have hmem := (List.dropWhile_sublist _).subset (List.mem_reverse.mp hc)
  exact isDigit_of_mem_ofNat (List.mem_reverse.mp hmem)

end Digits

namespace Double

/-- The number that a fraction stands for. -/
def ratio (v : Nat × Nat) : ℚ :=
  v.1 / v.2

theorem ratio_scaled (num den : Nat) (exponent : Int) :
    ratio (scaled num den exponent) = num / den / 2 ^ exponent := by
  rw [scaled]
  split
  · next h =>
    obtain ⟨k, rfl⟩ := Int.eq_ofNat_of_zero_le h
    simp only [ratio, Nat.pow_eq, Int.toNat_natCast, zpow_natCast]
    push_cast
    rw [div_div]
  · next h =>
    obtain ⟨k, rfl⟩ : ∃ k : Nat, exponent = -k := ⟨(-exponent).toNat, by omega⟩
    simp only [ratio, Nat.pow_eq, neg_neg, Int.toNat_natCast, zpow_neg, zpow_natCast,
      div_inv_eq_mul]
    push_cast
    rw [div_mul_eq_mul_div]

theorem scaled_snd_pos {den : Nat} (h : 0 < den) (num : Nat) (exponent : Int) :
    0 < (scaled num den exponent).2 := by
  rw [scaled]
  split
  · exact Nat.mul_pos h (Nat.pow_pos (by decide))
  · exact h

theorem below_iff {orEqual : Bool} {a b : Nat × Nat} (ha : 0 < a.2) (hb : 0 < b.2) :
    below orEqual a b = true ↔ ratio a < ratio b ∨ orEqual = true ∧ ratio a = ratio b := by
  have ha' : (0 : ℚ) < a.2 := by exact_mod_cast ha
  have hb' : (0 : ℚ) < b.2 := by exact_mod_cast hb
  rw [below, Bool.or_eq_true, Bool.and_eq_true, decide_eq_true_eq, beq_iff_eq, ratio, ratio,
    div_lt_div_iff₀ ha' hb', div_eq_div_iff ha'.ne' hb'.ne']
  norm_cast

/-! ## The half-way points -/

/-- How far the lower half-way point is from the mantissa, in quarters. -/
def stepBelow (x : Double) : Nat :=
  if x.mantissa = Nat.pow 2 52 ∧ x.exponent ≠ -1074 then 1 else 2

/-- The half-way point to the next magnitude below. -/
def lowEnd (x : Double) : ℚ :=
  (4 * x.mantissa - x.stepBelow : Nat) / 4 * 2 ^ x.exponent

/-- The half-way point to the next magnitude above. -/
def highEnd (x : Double) : ℚ :=
  (4 * x.mantissa + 2 : Nat) / 4 * 2 ^ x.exponent

/-- A number rounds to the magnitude of a double. -/
structure Rounds (x : Double) (q : ℚ) : Prop where
  low : x.lowEnd < q ∨ x.mantissa % 2 = 0 ∧ x.lowEnd = q
  high : q < x.highEnd ∨ x.mantissa % 2 = 0 ∧ q = x.highEnd

theorem holds_interval_iff {x : Double} {v : Nat × Nat} (hv : 0 < v.2) :
    x.interval.holds v = true ↔ x.Rounds (ratio v) := by
  have hlow : ratio x.interval.low = x.lowEnd := by
    rw [interval]
    dsimp only
    rw [ratio_scaled, lowEnd, stepBelow, zpow_neg, div_inv_eq_mul]
    norm_num
  have hhigh : ratio x.interval.high = x.highEnd := by
    rw [interval]
    dsimp only
    rw [ratio_scaled, highEnd, zpow_neg, div_inv_eq_mul]
    norm_num
  have hclosed : x.interval.closed = true ↔ x.mantissa % 2 = 0 := by
    rw [interval, decide_eq_true_eq]
  have hlowPos : 0 < x.interval.low.2 := scaled_snd_pos (by decide) _ _
  have hhighPos : 0 < x.interval.high.2 := scaled_snd_pos (by decide) _ _
  rw [Interval.holds, Bool.and_eq_true, below_iff hlowPos hv, below_iff hv hhighPos, hlow, hhigh,
    hclosed]
  exact ⟨fun h => ⟨h.1, h.2⟩, fun h => ⟨h.low, h.high⟩⟩

/-- The magnitude of one double comes before that of another. -/
def Precedes (x y : Double) : Prop :=
  x.exponent < y.exponent ∨ x.exponent = y.exponent ∧ x.mantissa < y.mantissa

variable {x y : Double} {q : ℚ}

/-- The half-way point above a magnitude is at most the one below a greater magnitude, and where
they are the same one of the two mantissas is odd. -/
theorem Precedes.quarters (h : x.Precedes y) :
    ∃ k : Nat, 4 * x.mantissa + 2 ≤ k ∧ (k / 4 * 2 ^ x.exponent : ℚ) ≤ y.lowEnd ∧
      (4 * x.mantissa + 2 = k → ¬(x.mantissa % 2 = 0 ∧ y.mantissa % 2 = 0)) := by
  have hx := x.normal
  have hy := y.normal
  rw [Normal, Nat.pow_eq, Nat.pow_eq] at hx hy
  rcases h with hexponent | ⟨hexponent, hmantissa⟩
  -- With a greater exponent the mantissa is at least `2 ^ 52`, and counts twice or more.
  · refine ⟨2 * (4 * y.mantissa - y.stepBelow), ?_, ?_, ?_⟩
    · rw [stepBelow, Nat.pow_eq]
      split <;> omega
    · have hpow : (2 : ℚ) ^ (x.exponent + 1) ≤ 2 ^ y.exponent :=
        zpow_le_zpow_right₀ (by norm_num) (by omega)
      rw [zpow_add_one₀ (by norm_num)] at hpow
      rw [lowEnd]
      push_cast
      calc
        _ = ((4 * y.mantissa - y.stepBelow : Nat) : ℚ) / 4 * (2 ^ x.exponent * 2) := by ring
        _ ≤ _ := mul_le_mul_of_nonneg_left hpow (by positivity)
    · rw [stepBelow, Nat.pow_eq]
      split <;> omega
  · refine ⟨4 * y.mantissa - y.stepBelow, ?_, ?_, ?_⟩
    · rw [stepBelow]
      split <;> omega
    · rw [hexponent, lowEnd]
    · rw [stepBelow]
      split <;> omega

theorem Rounds.lowEnd_le (h : x.Rounds q) : x.lowEnd ≤ q := by
  rcases h.low with h | ⟨-, h⟩
  · exact h.le
  · exact h.le

theorem Rounds.le_highEnd (h : x.Rounds q) : q ≤ x.highEnd := by
  rcases h.high with h | ⟨-, h⟩
  · exact h.le
  · exact h.le

theorem Rounds.even_of_lowEnd_eq (h : x.Rounds q) (heq : x.lowEnd = q) : x.mantissa % 2 = 0 := by
  rcases h.low with h | ⟨heven, -⟩
  · exact absurd heq h.ne
  · exact heven

theorem Rounds.even_of_eq_highEnd (h : x.Rounds q) (heq : q = x.highEnd) : x.mantissa % 2 = 0 := by
  rcases h.high with h | ⟨heven, -⟩
  · exact absurd heq h.ne
  · exact heven

/-- No number rounds to two different magnitudes. -/
theorem Precedes.not_rounds (h : x.Precedes y) (hx : x.Rounds q) (hy : y.Rounds q) : False := by
  obtain ⟨k, hk, hlow, hodd⟩ := h.quarters
  have hpow : (0 : ℚ) < 2 ^ x.exponent := by positivity
  have hends : x.highEnd ≤ k / 4 * 2 ^ x.exponent := by
    have hk' : ((4 * x.mantissa + 2 : Nat) : ℚ) ≤ k := by exact_mod_cast hk
    exact mul_le_mul_of_nonneg_right (by linarith) hpow.le
  -- The number lies between two half-way points of which the first is not below the second.
  have hhigh := hx.le_highEnd
  have hqlow := hy.lowEnd_le
  have hxq : q = x.highEnd := le_antisymm hhigh (hends.trans (hlow.trans hqlow))
  have hyq : y.lowEnd = q := le_antisymm hqlow (hhigh.trans (hends.trans hlow))
  have hquarters : 4 * x.mantissa + 2 = k := by
    have hsame : x.highEnd = k / 4 * 2 ^ x.exponent :=
      le_antisymm hends (hlow.trans (hqlow.trans hhigh))
    have hdiv := mul_right_cancel₀ hpow.ne' hsame
    have hcast : ((4 * x.mantissa + 2 : Nat) : ℚ) = k := by linarith
    exact_mod_cast hcast
  exact hodd hquarters ⟨hx.even_of_eq_highEnd hxq, hy.even_of_lowEnd_eq hyq⟩

/-- A number rounds to one magnitude only. -/
theorem Rounds.unique (hx : x.Rounds q) (hy : y.Rounds q) :
    x.mantissa = y.mantissa ∧ x.exponent = y.exponent := by
  rcases lt_trichotomy x.exponent y.exponent with h | hexponent | h
  · exact (Precedes.not_rounds (.inl h) hx hy).elim
  · rcases lt_trichotomy x.mantissa y.mantissa with h | hmantissa | h
    · exact (Precedes.not_rounds (.inr ⟨hexponent, h⟩) hx hy).elim
    · exact ⟨hmantissa, hexponent⟩
    · exact (Precedes.not_rounds (.inr ⟨hexponent.symm, h⟩) hy hx).elim
  · exact (Precedes.not_rounds (.inl h) hy hx).elim

/-- The magnitude of a double rounds to it. -/
theorem rounds_magnitude (x : Double) : x.Rounds (x.mantissa * 2 ^ x.exponent) := by
  have hpow : (0 : ℚ) < 2 ^ x.exponent := by positivity
  constructor
  · rcases Nat.eq_zero_or_pos x.mantissa with hzero | hpos
    · right
      simp [lowEnd, hzero]
    · left
      have hstep : 0 < x.stepBelow := by
        rw [stepBelow]
        split <;> decide
      have hless : (4 * x.mantissa - x.stepBelow : Nat) < 4 * x.mantissa := by omega
      have hless' : ((4 * x.mantissa - x.stepBelow : Nat) : ℚ) < 4 * x.mantissa := by
        exact_mod_cast hless
      exact mul_lt_mul_of_pos_right (by linarith) hpow
  · left
    apply mul_lt_mul_of_pos_right _ hpow
    push_cast
    linarith

/-! ## Shortest digits -/

theorem nearest_eq_or (tie : Tie) (num den : Nat) :
    nearest tie num den = num / den ∨ nearest tie num den = num / den + 1 := by
  rw [nearest]
  split
  · exact .inr rfl
  · exact .inl rfl

/-- A hit on a grid is in the interval. -/
theorem holds_of_gridHit? {tie : Tie} {i : Interval} {v : Nat × Nat} {scale : Int} {n : Nat}
    (h : gridHit? tie i v scale = some n) :
    i.holds (n * Nat.pow 10 scale.toNat, Nat.pow 10 (-scale).toNat) = true := by
  rw [gridHit?] at h
  dsimp only at h
  split at h
  · next hfloor hceil =>
    rw [Bool.and_eq_true] at hfloor
    obtain rfl := Option.some.inj h
    rcases nearest_eq_or tie (v.1 * Nat.pow 10 (-scale).toNat) (v.2 * Nat.pow 10 scale.toNat)
      with heq | heq
    · rw [heq]
      exact hfloor.1
    · rw [heq]
      exact hceil
  · next hfloor _ =>
    rw [Bool.and_eq_true] at hfloor
    obtain rfl := Option.some.inj h
    exact hfloor.1
  · next _ hceil =>
    obtain rfl := Option.some.inj h
    exact hceil
  · cases h

theorem ratio_grid (n : Nat) (scale : Int) :
    ratio (n * Nat.pow 10 scale.toNat, Nat.pow 10 (-scale).toNat) = n * 10 ^ scale := by
  rcases le_total 0 scale with h | h
  · obtain ⟨k, rfl⟩ := Int.eq_ofNat_of_zero_le h
    simp [ratio]
  · obtain ⟨k, rfl⟩ : ∃ k : Nat, scale = -k := ⟨(-scale).toNat, by omega⟩
    simp [ratio, div_eq_mul_inv]

/-- Digits that a search finds are those of a number in the interval. -/
theorem searchGrids_eq_some {tie : Tie} {i : Interval} {v : Nat × Nat} {point : Int}
    {grids count : Nat} {d : Digits} (h : searchGrids tie i v point grids count = some d) :
    ∃ n scale, d = Digits.ofScaled n scale ∧
      i.holds (n * Nat.pow 10 scale.toNat, Nat.pow 10 (-scale).toNat) = true := by
  induction grids generalizing count with
  | zero => cases h
  | succ grids ih =>
      rw [searchGrids] at h
      split at h
      · next n hhit => exact ⟨n, point - count, (Option.some.inj h).symm, holds_of_gridHit? hhit⟩
      · exact ih h

theorem exactDigits_eq_ofScaled (x : Double) :
    ∃ n scale, x.exactDigits = Digits.ofScaled n scale ∧
      (n * 10 ^ scale : ℚ) = x.mantissa * 2 ^ x.exponent := by
  refine ⟨_, _, rfl, ?_⟩
  rw [magnitude, scaled]
  split
  · next h =>
    obtain ⟨k, hk⟩ := Int.eq_ofNat_of_zero_le h
    have hpow : Nat.pow 10 k = Nat.pow 5 k * Nat.pow 2 k := by
      rw [Nat.pow_eq, Nat.pow_eq, Nat.pow_eq, ← Nat.mul_pow]
    have hexact : x.mantissa * Nat.pow 10 k / (1 * Nat.pow 2 k) = x.mantissa * Nat.pow 5 k := by
      rw [hpow, Nat.one_mul, ← Nat.mul_assoc]
      exact Nat.mul_div_cancel _ (Nat.pow_pos (by decide))
    have hexponent : x.exponent = -k := by omega
    have hten : (10 : ℚ) ^ k = 5 ^ k * 2 ^ k := by
      rw [← mul_pow]
      norm_num
    dsimp only
    rw [hk, Int.toNat_natCast, hexact, hexponent, zpow_neg, zpow_neg, zpow_natCast, zpow_natCast,
      hten]
    rw [Nat.pow_eq]
    push_cast
    field_simp
  · next h =>
    obtain ⟨k, hk⟩ : ∃ k : Nat, x.exponent = k := ⟨x.exponent.toNat, by omega⟩
    have hzero : (-(k : Int)).toNat = 0 := by omega
    dsimp only
    rw [hk, neg_neg, Int.toNat_natCast, hzero]
    simp

/-- The shortest digits of a double stand for a number that rounds to it. -/
theorem shortest_eq_ofScaled (tie : Tie) (x : Double) :
    ∃ n scale, x.shortest tie = Digits.ofScaled n scale ∧ x.Rounds (n * 10 ^ scale) := by
  rw [shortest]
  cases hsearch : searchGrids tie x.interval x.magnitude (pointOf x.magnitude) 17 1 with
  | some d =>
      obtain ⟨n, scale, rfl, hholds⟩ := searchGrids_eq_some hsearch
      rw [holds_interval_iff (Nat.pow_pos (by decide)), ratio_grid] at hholds
      exact ⟨n, scale, rfl, hholds⟩
  | none =>
      obtain ⟨n, scale, hdigits, hvalue⟩ := exactDigits_eq_ofScaled x
      refine ⟨n, scale, hdigits, ?_⟩
      rw [hvalue]
      exact x.rounds_magnitude

theorem rounds_shortest (tie : Tie) (x : Double) : x.Rounds (x.shortest tie).value := by
  obtain ⟨n, scale, hdigits, hrounds⟩ := x.shortest_eq_ofScaled tie
  rw [hdigits, Digits.value_ofScaled]
  exact hrounds

theorem isDigit_of_mem_shortest (tie : Tie) (x : Double) :
    ∀ c ∈ (x.shortest tie).digits, c.isDigit = true := by
  obtain ⟨n, scale, hdigits, -⟩ := x.shortest_eq_ofScaled tie
  rw [hdigits]
  exact Digits.isDigit_of_mem_ofScaled

end Double
end SparseFields
