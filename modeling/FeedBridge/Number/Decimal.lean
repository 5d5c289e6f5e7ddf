import FeedBridge.Number.Binary64

/-!
# Decimal amounts

An amount is a signed integer mantissa of at most 96 bits over a power of ten of at most 28
places. Places are significant for the text, `1.50` is written with both, and not for the value.

An amount becomes a double in two parts, whole units and fraction, each rounded on its own; the
sum is then rounded again at the last place of the amount. The result is not always the double
nearest to the amount.
-/

namespace FeedBridge

structure Decimal where
  negative : Bool
  mantissa : Nat
  scale : Nat
deriving DecidableEq

namespace Decimal

def mantissaBound : Nat := twoTo 96

def maxScale : Nat := 28

def WellFormed (d : Decimal) : Prop := d.mantissa < mantissaBound ∧ d.scale ≤ maxScale

def ofNat (n : Nat) : Decimal := ⟨false, n, 0⟩

def isPositive (d : Decimal) : Bool := !d.negative && 0 < d.mantissa

def chars (d : Decimal) : List Char :=
  let digits := decimalDigits d.mantissa
  let digits := List.replicate (d.scale + 1 - digits.length) '0' ++ digits
  let whole := digits.length - d.scale
  (if d.negative then ['-'] else []) ++ digits.take whole ++
    if d.scale = 0 then [] else '.' :: digits.drop whole

def text (d : Decimal) : String := String.ofList d.chars

/-- Ten to a power, by repeated squaring with a rounding at every product: `power` holds the
square reached so far and `product` the factors taken. -/
def squaring (product power : Binary64) (n : Nat) : Option Binary64 :=
  if h : n = 0 then some product
  else do
    let product ← if n % 2 = 1 then product.times power else some product
    if n / 2 = 0 then some product
    else
      let power ← power.times power
      squaring product power (n / 2)
termination_by n

def scaleFactor? (scale : Nat) : Option Binary64 := do
  squaring (← Binary64.ofNat 1) (← Binary64.ofNat 10) scale

def nearestInteger? (x : Binary64) : Option Binary64 :=
  let (num, den) := x.ratio
  Binary64.ofNat (roundHalfUp num den)

def magnitude? (d : Decimal) : Option Binary64 := do
  let unit := tenTo d.scale
  let whole ← Binary64.ofNat (d.mantissa / unit)
  if d.mantissa % unit = 0 then return whole
  let fraction ← (← Binary64.ofNat (d.mantissa % unit)).dividedBy (← Binary64.ofNat unit)
  let factor ← scaleFactor? d.scale
  let sum ← whole.plus fraction
  (← nearestInteger? (← sum.times factor)).dividedBy factor

/-- The double that a decimal is sent as. No decimal of the allowed size is too large for one. -/
def toFloat (d : Decimal) : Binary64 :=
  match d.magnitude? with
  | some x => x.withSign d.negative
  | none => Binary64.zero false

end Decimal

end FeedBridge
