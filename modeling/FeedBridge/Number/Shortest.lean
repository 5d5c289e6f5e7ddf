import FeedBridge.Number.Binary64

namespace FeedBridge

structure ShortDecimal where
  digits : Nat
  power : Int
deriving DecidableEq

namespace ShortDecimal

def leading (d : ShortDecimal) : Int := d.power + digitCount d.digits - 1

def stripZeros (digits : Nat) (power : Int) : ShortDecimal :=
  if _h : digits ≠ 0 ∧ digits % 10 = 0 then stripZeros (digits / 10) (power + 1)
  else ⟨digits, power⟩
termination_by digits

end ShortDecimal

namespace Binary64

def decimalExponent (num den : Nat) : Int :=
  if den ≤ num then (digitCount (num / den) : Int) - 1
  else
    let k := digitCount (den / num)
    if den ≤ num * tenTo (k - 1) then 1 - (k : Int) else -k

def neighbour? (low value high den : Nat) (closed : Bool) (power : Int) : Option Nat :=
  -- Measure everything in units of the grid.
  let (scale, den) :=
    if 0 ≤ power then (1, den * tenTo power.toNat) else (tenTo (-power).toNat, den)
  let (low, value, high) := (low * scale, value * scale, high * scale)
  let below := value / den
  let inside (c : Nat) : Bool :=
    if closed then low ≤ c * den && c * den ≤ high else low < c * den && c * den < high
  let above := below + 1
  let nearest :=
    let twice := 2 * (value % den)
    if twice < den then below
    else if den < twice then above
    else if below % 2 = 0 then below else above
  match inside below, inside above with
  | true, true => some nearest
  | true, false => some below
  | false, true => some above
  | false, false => none

def searchShortest (low value high den : Nat) (closed : Bool) (first : Int) : Nat → ShortDecimal
  | 0 => ⟨value / den, 0⟩
  | fewer + 1 =>
    let power := first - (17 - (fewer + 1) : Nat)
    match neighbour? low value high den closed power with
    | some digits => ShortDecimal.stripZeros digits power
    | none => searchShortest low value high den closed first fewer

/-- The shortest decimal that reads back as the magnitude of a non-zero double. -/
def shortest (x : Binary64) : ShortDecimal :=
  let m := x.mantissa
  -- The gap below the first double of a binade is half as wide.
  let below := if m = twoTo 52 ∧ minExponent < x.exponent then 1 else 2
  let e := x.exponent - 2
  let (unit, den) : Nat × Nat := if 0 ≤ e then (twoTo e.toNat, 1) else (1, twoTo (-e).toNat)
  let value := 4 * m * unit
  searchShortest ((4 * m - below) * unit) value ((4 * m + 2) * unit) den (m % 2 == 0)
    (decimalExponent value den) 17

end Binary64

end FeedBridge
