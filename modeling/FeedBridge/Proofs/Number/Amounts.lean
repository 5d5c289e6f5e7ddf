import FeedBridge.Number.Decimal
import FeedBridge.Proofs.Number.Whole
import Mathlib.Algebra.Order.Field.Power
import Mathlib.Algebra.Order.Field.Rat
import Mathlib.Data.Nat.Cast.Order.Field
import Mathlib.Tactic.FieldSimp
import Mathlib.Tactic.Linarith
import Mathlib.Tactic.NormNum
import Mathlib.Tactic.Positivity
import Mathlib.Tactic.Ring

namespace FeedBridge

theorem cast_twoTo (n : Nat) : (twoTo n : ℚ) = 2 ^ n := Nat.cast_pow 2 n

theorem roundHalfEven_mul_le (num den : Nat) : roundHalfEven num den * den ≤ 2 * num := by
  have whole := Nat.div_add_mod num den
  rw [Nat.mul_comm] at whole
  unfold roundHalfEven
  dsimp only
  -- A quotient is only rounded up if it is not zero or its remainder is more than half.
  split_ifs with low high even
  · omega
  · rw [Nat.add_mul]
    omega
  · omega
  · have some : 1 ≤ num / den := by
      by_contra none
      simp [Nat.lt_one_iff.mp (Nat.lt_of_not_le none)] at even
    have once : den ≤ num / den * den := Nat.le_mul_of_pos_left den some
    rw [Nat.add_mul]
    omega

theorem roundHalfUp_mul_le (num : Nat) {den : Nat} (positive : 0 < den) :
    roundHalfUp num den * den ≤ num + den := by
  have quotient := Nat.div_mul_le_self (2 * num + den) (2 * den)
  unfold roundHalfUp
  rw [Nat.mul_left_comm] at quotient
  omega

namespace Binary64

def value (x : Binary64) : ℚ := x.mantissa * 2 ^ x.exponent

theorem value_nonneg (x : Binary64) : 0 ≤ x.value := by
  unfold value
  positivity

theorem ratio_pos (x : Binary64) : 0 < x.ratio.2 := by
  unfold ratio
  split_ifs
  · exact Nat.one_pos
  · exact twoTo_pos _

theorem ratio_div (x : Binary64) : (x.ratio.1 : ℚ) / x.ratio.2 = x.value := by
  unfold ratio value
  split_ifs with whole
  · lift x.exponent to Nat using whole with e
    simp [cast_twoTo]
  · obtain ⟨k, exponent⟩ : ∃ k : Nat, x.exponent = -(k : Int) := ⟨(-x.exponent).toNat, by omega⟩
    simp [exponent, cast_twoTo, div_eq_mul_inv]

theorem inUnits_div (num den : Nat) (e : Int) :
    ((inUnits num den e).1 : ℚ) / (inUnits num den e).2 * 2 ^ e = num / den := by
  unfold inUnits
  split_ifs with whole
  · lift e to Nat using whole
    have power : (2 : ℚ) ^ e ≠ 0 := by positivity
    rw [Int.toNat_natCast, Nat.cast_mul, cast_twoTo, zpow_natCast]
    field_simp
  · obtain ⟨k, rfl⟩ : ∃ k : Nat, e = -(k : Int) := ⟨(-e).toNat, by omega⟩
    have power : (2 : ℚ) ^ k ≠ 0 := by positivity
    rw [neg_neg, Int.toNat_natCast, Nat.cast_mul, cast_twoTo, zpow_neg, zpow_natCast]
    field_simp

theorem inUnits_pos {num den : Nat} (positive : 0 < den) (e : Int) : 0 < (inUnits num den e).2 := by
  unfold inUnits
  split_ifs
  · exact Nat.mul_pos positive (twoTo_pos _)
  · exact positive

theorem gridExponent_le {num den places : Nat} (some : num ≠ 0) (small : num ≤ den * twoTo places)
    (few : places ≤ 1000) : gridExponent num den < 950 := by
  have bits : num.log2 < den.log2 + 1 + places := by
    apply log2_lt_of_lt some
    rw [twoTo_add]
    exact Nat.lt_of_le_of_lt small (Nat.mul_lt_mul_of_pos_right (lt_twoTo_log2 den) (twoTo_pos _))
  have first : max minExponent ((num.log2 : Int) - den.log2 - 53) < 949 := by
    rw [minExponent]
    omega
  unfold gridExponent
  dsimp only
  split_ifs <;> omega

theorem exists_ofRatio {num den places : Nat} (positive : 0 < den)
    (small : (num : ℚ) / den ≤ 2 ^ places) (few : places ≤ 1000) :
    ∃ x, ofRatio num den = some x ∧ x.value ≤ 2 * (num / den) := by
  have below : num ≤ den * twoTo places := by
    have cast : (0 : ℚ) < den := by exact_mod_cast positive
    rw [div_le_iff₀ cast, mul_comm, ← cast_twoTo] at small
    exact_mod_cast small
  unfold ofRatio
  split_ifs with zero
  · exact ⟨_, rfl, by simp [value, Binary64.zero, zero]⟩
  · have grid := gridExponent_le zero below few
    generalize gridExponent num den = e at grid
    have units := inUnits_div num den e
    have divides : 0 < (inUnits num den e).2 := inUnits_pos positive e
    obtain ⟨⟨n, d⟩, pair⟩ : ∃ pair, inUnits num den e = pair := ⟨_, rfl⟩
    rw [pair] at units divides
    have power : (0 : ℚ) < 2 ^ e := by positivity
    -- The mantissa is at most twice the quotient in units of the grid.
    have rounded : (roundHalfEven n d : ℚ) * 2 ^ e ≤ 2 * (num / den) := by
      have bound : (roundHalfEven n d : ℚ) ≤ 2 * (n / d) := by
        have cast : (0 : ℚ) < d := by exact_mod_cast divides
        rw [← mul_div_assoc, le_div_iff₀ cast]
        exact_mod_cast roundHalfEven_mul_le n d
      rw [← units, ← mul_assoc]
      exact mul_le_mul_of_nonneg_right bound power.le
    simp only [pair]
    by_cases fits : roundHalfEven n d < twoTo 53
    · rw [if_pos fits]
      dsimp only
      rw [if_pos (by rw [maxExponent]; omega)]
      exact ⟨_, rfl, rounded⟩
    · rw [if_neg fits]
      dsimp only
      rw [if_pos (by rw [maxExponent]; omega)]
      refine ⟨_, rfl, le_trans ?_ rounded⟩
      have carry : (2 : ℚ) ^ 53 ≤ roundHalfEven n d := by
        rw [← cast_twoTo]
        exact_mod_cast Nat.le_of_not_lt fits
      calc (twoTo 52 : ℚ) * 2 ^ (e + 1) = 2 ^ 53 * 2 ^ e := by
            rw [cast_twoTo, zpow_add₀ two_ne_zero]
            ring
        _ ≤ roundHalfEven n d * 2 ^ e := mul_le_mul_of_nonneg_right carry power.le

theorem value_ofNat {n : Nat} (small : n ≤ 2 ^ 53) : ∃ x, ofNat n = some x ∧ x.value = n := by
  by_cases none : n = 0
  · subst none
    exact ⟨zero false, by decide +kernel, by simp [value, zero]⟩
  by_cases last : n = 2 ^ 53
  · subst last
    exact ⟨⟨false, twoTo 52, 1⟩, by decide +kernel, by rw [value, cast_twoTo]; norm_num⟩
  · have below : n < twoTo 53 := Nat.lt_of_le_of_ne small last
    have low : n.log2 < 53 := log2_lt_of_lt none below
    refine ⟨_, ofNat_of_lt none below, ?_⟩
    have exponent : (n.log2 : Int) - 52 = -((52 - n.log2 : Nat) : Int) := by omega
    have power : (2 : ℚ) ^ (52 - n.log2) ≠ 0 := by positivity
    rw [value, exponent, Nat.cast_mul, cast_twoTo, zpow_neg, zpow_natCast]
    field_simp

def AtMost (x : Binary64) (places : Nat) : Prop := x.value ≤ 2 ^ places

variable {x y : Binary64} {places more : Nat}

theorem AtMost.mono (hx : x.AtMost places) (wider : places ≤ more) : x.AtMost more :=
  hx.trans (pow_le_pow_right₀ (by norm_num) wider)

theorem atMost_of_ratio {num den : Nat} (positive : 0 < den)
    (small : (num : ℚ) / den ≤ 2 ^ places) (few : places ≤ 1000) :
    ∃ x, ofRatio num den = some x ∧ x.AtMost (places + 1) := by
  obtain ⟨x, found, bound⟩ := exists_ofRatio positive small few
  refine ⟨x, found, bound.trans ?_⟩
  rw [pow_succ, mul_comm]
  exact mul_le_mul_of_nonneg_right small (by norm_num)

theorem exists_ofNat {n : Nat} (small : n ≤ twoTo places) (few : places ≤ 1000) :
    ∃ x, ofNat n = some x ∧ x.AtMost (places + 1) := by
  refine atMost_of_ratio Nat.one_pos ?_ few
  rw [Nat.cast_one, div_one, ← cast_twoTo]
  exact_mod_cast small

theorem AtMost.times (hx : x.AtMost places) (hy : y.AtMost more) (few : places + more ≤ 1000) :
    ∃ z, x.times y = some z ∧ z.AtMost (places + more + 1) := by
  refine atMost_of_ratio (Nat.mul_pos x.ratio_pos y.ratio_pos) ?_ few
  rw [Nat.cast_mul, Nat.cast_mul, mul_div_mul_comm, ratio_div, ratio_div, pow_add]
  exact mul_le_mul hx hy y.value_nonneg (by positivity)

theorem AtMost.plus (hx : x.AtMost places) (hy : y.AtMost places) (few : places + 1 ≤ 1000) :
    ∃ z, x.plus y = some z ∧ z.AtMost (places + 2) := by
  refine atMost_of_ratio (Nat.mul_pos x.ratio_pos y.ratio_pos) ?_ few
  have left : (x.ratio.2 : ℚ) ≠ 0 := by exact_mod_cast x.ratio_pos.ne'
  have right : (y.ratio.2 : ℚ) ≠ 0 := by exact_mod_cast y.ratio_pos.ne'
  have sum : ((x.ratio.1 * y.ratio.2 + y.ratio.1 * x.ratio.2 : Nat) : ℚ) /
      (x.ratio.2 * y.ratio.2 : Nat) = x.value + y.value := by
    rw [← ratio_div x, ← ratio_div y]
    push_cast
    field_simp
  rw [sum, pow_succ, mul_two]
  exact add_le_add hx hy

theorem AtMost.dividedBy (hx : x.AtMost places) (hy : y.ratio.2 ≤ y.ratio.1) (few : places ≤ 1000) :
    ∃ z, x.dividedBy y = some z ∧ z.AtMost (places + 1) := by
  have positive : 0 < y.ratio.1 := Nat.lt_of_lt_of_le y.ratio_pos hy
  refine atMost_of_ratio (Nat.mul_pos x.ratio_pos positive) ?_ few
  rw [Nat.cast_mul, Nat.cast_mul, mul_div_mul_comm, ratio_div]
  have least : (y.ratio.2 : ℚ) / y.ratio.1 ≤ 1 := by
    rw [div_le_one (by exact_mod_cast positive)]
    exact_mod_cast hy
  calc x.value * ((y.ratio.2 : ℚ) / y.ratio.1) ≤ x.value * 1 :=
        mul_le_mul_of_nonneg_left least x.value_nonneg
    _ ≤ 2 ^ places := by rw [mul_one]; exact hx

end Binary64

namespace Decimal

open Binary64

def value (d : Decimal) : ℚ := (if d.negative then -1 else 1) * (d.mantissa / 10 ^ d.scale)

theorem isPositive_iff (d : Decimal) : d.isPositive = true ↔ 0 < d.value := by
  have power : (0 : ℚ) < 10 ^ d.scale := by positivity
  unfold isPositive value
  cases d.negative with
  | true =>
      have below : (-1 : ℚ) * (d.mantissa / 10 ^ d.scale) ≤ 0 := by
        rw [neg_one_mul, neg_nonpos]
        positivity
      simpa using below
  | false => simp [div_pos_iff_of_pos_right power, Nat.pos_iff_ne_zero]

theorem exists_nearestInteger {x : Binary64} {places : Nat} (bound : x.AtMost places)
    (few : places + 1 ≤ 1000) : ∃ y, nearestInteger? x = some y ∧ y.AtMost (places + 2) := by
  have positive : (0 : ℚ) < x.ratio.2 := by exact_mod_cast x.ratio_pos
  have rounded : (roundHalfUp x.ratio.1 x.ratio.2 : ℚ) ≤ x.value + 1 := by
    rw [← ratio_div x, div_add_one positive.ne', le_div_iff₀ positive]
    exact_mod_cast roundHalfUp_mul_le x.ratio.1 x.ratio_pos
  refine exists_ofNat ?_ few
  have one : (1 : ℚ) ≤ 2 ^ places := one_le_pow₀ (by norm_num)
  have total : (roundHalfUp x.ratio.1 x.ratio.2 : ℚ) ≤ (twoTo (places + 1) : ℚ) := by
    rw [cast_twoTo, pow_succ, mul_two]
    exact rounded.trans (add_le_add bound one)
  exact_mod_cast total

theorem powers_of_ten : ∀ scale ≤ maxScale,
    (∃ unit, Binary64.ofNat (tenTo scale) = some unit ∧ unit.ratio.2 ≤ unit.ratio.1) ∧
      ∃ factor, scaleFactor? scale = some factor ∧ factor.ratio.2 ≤ factor.ratio.1 ∧
        factor.ratio.1 ≤ factor.ratio.2 * twoTo 100 := by
  decide +kernel

theorem exists_magnitude {d : Decimal} (fits : d.WellFormed) : ∃ x, d.magnitude? = some x := by
  obtain ⟨small, few⟩ := fits
  obtain ⟨⟨unit, units, above⟩, factor, factors, least, most⟩ := powers_of_ten d.scale few
  have low : d.mantissa ≤ twoTo 96 := Nat.le_of_lt small
  obtain ⟨whole, wholes, wholeBound⟩ :=
    exists_ofNat ((Nat.div_le_self d.mantissa (tenTo d.scale)).trans low) (by omega)
  unfold magnitude?
  simp only [wholes, Option.bind_eq_bind, Option.bind_some]
  split_ifs with exact
  · exact ⟨_, rfl⟩
  · obtain ⟨part, parts, partBound⟩ :=
      exists_ofNat ((Nat.mod_le d.mantissa (tenTo d.scale)).trans low) (by omega)
    obtain ⟨fraction, fractions, fractionBound⟩ := partBound.dividedBy above (by omega)
    have wide : whole.AtMost 98 := wholeBound.mono (by omega)
    obtain ⟨sum, sums, sumBound⟩ := wide.plus fractionBound (by omega)
    have factorBound : factor.AtMost 100 := by
      have positive : (0 : ℚ) < factor.ratio.2 := by exact_mod_cast factor.ratio_pos
      rw [AtMost, ← ratio_div, div_le_iff₀ positive, mul_comm, ← cast_twoTo]
      exact_mod_cast most
    obtain ⟨product, products, productBound⟩ := sumBound.times factorBound (by omega)
    obtain ⟨nearest, nearests, nearestBound⟩ := exists_nearestInteger productBound (by omega)
    obtain ⟨last, lasts, -⟩ := nearestBound.dividedBy least (by omega)
    exact ⟨last, by simp [parts, units, fractions, factors, sums, products, nearests, lasts]⟩

theorem mantissa_of_whole {d : Decimal} {n : Nat} (whole : |d.value| = n) :
    d.mantissa = n * tenTo d.scale := by
  have power : (0 : ℚ) < 10 ^ d.scale := by positivity
  have size : |d.value| = d.mantissa / 10 ^ d.scale := by
    have nonneg : (0 : ℚ) ≤ d.mantissa / 10 ^ d.scale := by positivity
    rw [value, abs_mul, abs_of_nonneg nonneg]
    cases d.negative <;> simp
  rw [size, div_eq_iff power.ne'] at whole
  exact_mod_cast whole

theorem magnitude_of_whole {d : Decimal} {n : Nat} (whole : |d.value| = n) (small : n ≤ 2 ^ 53) :
    ∃ x, d.magnitude? = some x ∧ x.value = n := by
  obtain ⟨x, found, same⟩ := value_ofNat small
  have unit : 0 < tenTo d.scale := Nat.pow_pos (by decide)
  refine ⟨x, ?_, same⟩
  rw [magnitude?, mantissa_of_whole whole]
  simp [Nat.mul_div_cancel _ unit, found]

example : toFloat ⟨true, 150, 2⟩ = ⟨true, 3 * 2 ^ 51, -52⟩ := by decide +kernel

end Decimal

end FeedBridge
