import FeedBridge.Number.Power
import FeedBridge.Number.Rounding

namespace FeedBridge

/-- A finite double. The mantissa has at most 53 bits and, unless the exponent is the least
one, exactly 53. -/
structure Binary64 where
  negative : Bool
  mantissa : Nat
  exponent : Int
deriving DecidableEq

namespace Binary64

def minExponent : Int := -1074

def maxExponent : Int := 971

def zero (negative : Bool) : Binary64 := ⟨negative, 0, minExponent⟩

def inUnits (num den : Nat) (e : Int) : Nat × Nat :=
  if 0 ≤ e then (num, den * twoTo e.toNat) else (num * twoTo (-e).toNat, den)

/-- The exponent of the grid that holds the doubles around a positive quotient. -/
def gridExponent (num den : Nat) : Int :=
  let e := max minExponent ((num.log2 : Int) - den.log2 - 53)
  let (n, d) := inUnits num den e
  if n / d < twoTo 53 then e else e + 1

/-- The double nearest to a quotient, ties to even; `none` beyond the largest double. -/
def ofRatio (num den : Nat) : Option Binary64 :=
  if num = 0 then some (zero false)
  else
    let e := gridExponent num den
    let (n, d) := inUnits num den e
    let m := roundHalfEven n d
    let (m, e) := if m < twoTo 53 then (m, e) else (twoTo 52, e + 1)
    if e ≤ maxExponent then some ⟨false, m, e⟩ else none

def ratio (x : Binary64) : Nat × Nat :=
  if 0 ≤ x.exponent then (x.mantissa * twoTo x.exponent.toNat, 1)
  else (x.mantissa, twoTo (-x.exponent).toNat)

def ofNat (n : Nat) : Option Binary64 := ofRatio n 1

def withSign (x : Binary64) (negative : Bool) : Binary64 := { x with negative }

def times (x y : Binary64) : Option Binary64 :=
  ofRatio (x.ratio.1 * y.ratio.1) (x.ratio.2 * y.ratio.2)

def dividedBy (x y : Binary64) : Option Binary64 :=
  ofRatio (x.ratio.1 * y.ratio.2) (x.ratio.2 * y.ratio.1)

def plus (x y : Binary64) : Option Binary64 :=
  ofRatio (x.ratio.1 * y.ratio.2 + y.ratio.1 * x.ratio.2) (x.ratio.2 * y.ratio.2)

end Binary64

end FeedBridge
