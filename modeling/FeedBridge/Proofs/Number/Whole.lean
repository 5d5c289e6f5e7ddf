import FeedBridge.Metrics
import Mathlib.Data.Nat.Log
import Mathlib.Tactic.SplitIfs

namespace FeedBridge

theorem twoTo_add (m n : Nat) : twoTo (m + n) = twoTo m * twoTo n := Nat.pow_add 2 m n

theorem twoTo_pos (n : Nat) : 0 < twoTo n := Nat.two_pow_pos n

theorem twoTo_log2_le {n : Nat} (positive : n ≠ 0) : twoTo n.log2 ≤ n := Nat.log2_self_le positive

theorem lt_twoTo_log2 (n : Nat) : n < twoTo (n.log2 + 1) := Nat.lt_log2_self

theorem log2_lt_of_lt {n places : Nat} (positive : n ≠ 0) (small : n < twoTo places) :
    n.log2 < places := (Nat.log2_lt positive).mpr small

theorem roundHalfEven_one (n : Nat) : roundHalfEven n 1 = n := by
  simp [roundHalfEven, Nat.mod_one]

namespace Binary64

theorem gridExponent_of_lt {n : Nat} (positive : n ≠ 0) (small : n < twoTo 53) :
    gridExponent n 1 = (n.log2 : Int) - 52 := by
  have low : n.log2 < 53 := log2_lt_of_lt positive small
  have scaled : twoTo 53 ≤ n * twoTo (53 - n.log2) := by
    calc twoTo 53 = twoTo (n.log2 + (53 - n.log2)) := by congr 1; omega
      _ = twoTo n.log2 * twoTo (53 - n.log2) := twoTo_add _ _
      _ ≤ n * twoTo (53 - n.log2) := Nat.mul_le_mul_right _ (twoTo_log2_le positive)
  have first : max minExponent ((n.log2 : Int) - ((1 : Nat).log2 : Nat) - 53) =
      (n.log2 : Int) - 53 := by
    have one : (1 : Nat).log2 = 0 := by decide
    rw [one, minExponent]
    omega
  have units : inUnits n 1 ((n.log2 : Int) - 53) = (n * twoTo (53 - n.log2), 1) := by
    have exponent : (-((n.log2 : Int) - 53)).toNat = 53 - n.log2 := by omega
    rw [inUnits, if_neg (by omega), exponent]
  unfold gridExponent
  simp only [first, units, Nat.div_one]
  rw [if_neg (Nat.not_lt.mpr scaled)]
  omega

theorem ofNat_of_lt {n : Nat} (positive : n ≠ 0) (small : n < twoTo 53) :
    ofNat n = some ⟨false, n * twoTo (52 - n.log2), (n.log2 : Int) - 52⟩ := by
  have low : n.log2 < 53 := log2_lt_of_lt positive small
  have mantissa : n * twoTo (52 - n.log2) < twoTo 53 := by
    calc n * twoTo (52 - n.log2) < twoTo (n.log2 + 1) * twoTo (52 - n.log2) :=
          Nat.mul_lt_mul_of_pos_right (lt_twoTo_log2 n) (twoTo_pos _)
      _ = twoTo (n.log2 + 1 + (52 - n.log2)) := (twoTo_add _ _).symm
      _ = twoTo 53 := by congr 1; omega
  have units : inUnits n 1 ((n.log2 : Int) - 52) = (n * twoTo (52 - n.log2), 1) := by
    unfold inUnits
    split_ifs with whole
    · have last : n.log2 = 52 := by omega
      simp [last, twoTo]
    · have exponent : (-((n.log2 : Int) - 52)).toNat = 52 - n.log2 := by omega
      rw [exponent]
  have fits : (n.log2 : Int) - 52 ≤ maxExponent := by
    rw [maxExponent]
    omega
  unfold ofNat ofRatio
  simp only [if_neg positive, gridExponent_of_lt positive small, units, roundHalfEven_one,
    if_pos mantissa, if_pos fits]

end Binary64

namespace Metrics

theorem gauge_of_le {n : Nat} (small : n ≤ twoTo 53) : gauge n = n := by
  by_cases zero : n = 0
  · subst zero
    decide +kernel
  by_cases last : n = twoTo 53
  · subst last
    decide +kernel
  have below : n < twoTo 53 := Nat.lt_of_le_of_ne small last
  have low : n.log2 < 53 := log2_lt_of_lt zero below
  unfold gauge
  rw [Binary64.ofNat_of_lt zero below]
  simp only [Binary64.ratio]
  split_ifs with whole
  · have top : n.log2 = 52 := by omega
    simp [top, twoTo]
  · have exponent : (-((n.log2 : Int) - 52)).toNat = 52 - n.log2 := by omega
    rw [exponent]
    exact Nat.mul_div_cancel _ (twoTo_pos _)

end Metrics

end FeedBridge
