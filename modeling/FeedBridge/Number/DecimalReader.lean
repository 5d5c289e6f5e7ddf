import FeedBridge.Number.Decimal

namespace FeedBridge.Decimal

def wideFrom : Nat := (twoTo 64 - 1) / 10 - 255

structure Reading where
  negative : Bool
  point : Bool := false
  anyDigit : Bool := false
  wide : Bool := false
  mantissa : Nat := 0
  scale : Nat := 0

def Reading.finish? (r : Reading) : Option Decimal :=
  if r.anyDigit then some ⟨r.negative && r.mantissa != 0, r.mantissa, r.scale⟩ else none

def isTail (cs : List Char) : Bool := cs.all fun c => (digitValue? c).isSome || c = '_'

/-- Finish with dropped digits: `first` is the digit in the rounding position. A mantissa that
rounding makes too large gives up its last place. -/
def Reading.round? (r : Reading) (first : Nat) (rest : List Char) : Option Decimal :=
  if !isTail rest then none
  else if first < 5 then r.finish?
  else
    let up := r.mantissa + 1
    if up < mantissaBound then { r with mantissa := up }.finish?
    else if r.scale = 0 then none
    else { r with mantissa := (up + 4) / 10, scale := r.scale - 1 }.finish?

def Reading.push (r : Reading) (digit : Nat) : Reading :=
  { r with
    anyDigit := true
    mantissa := 10 * r.mantissa + digit
    scale := if r.point then r.scale + 1 else 0 }

def Reading.isFull (r : Reading) : Bool := r.point && maxScale ≤ r.scale

def Reading.run (r : Reading) : List Char → Option Decimal
  | [] => r.finish?
  | c :: rest =>
    match digitValue? c with
    | some digit =>
      if r.isFull && r.anyDigit then r.round? digit rest
      else if mantissaBound ≤ 10 * r.mantissa + digit then
        if r.point then r.round? digit rest else none
      else
        let r := r.push digit
        -- A mantissa turns wide with a digit that another character follows.
        run { r with wide := r.wide || (wideFrom ≤ r.mantissa && !r.isFull) } rest
    | none =>
      if c = '.' then if r.point then none else run { r with point := true } rest
      else if c = '_' && r.anyDigit then
        if r.isFull && !r.wide then r.round? 0 rest else run r rest
      else none

def ofPlain? : List Char → Option Decimal
  | '-' :: rest => Reading.run { negative := true } rest
  | '+' :: rest => Reading.run { negative := false } rest
  | cs => Reading.run { negative := false } cs

def stripPlaces (mantissa : Nat) : Nat → Nat × Nat
  | 0 => (mantissa, 0)
  | scale + 1 =>
    if mantissa % 10 = 0 then stripPlaces (mantissa / 10) scale else (mantissa, scale + 1)

/-- Give up as few places of a product as make it fit 96 bits, at most `places`; the last place
kept is rounded, ties to even. `given` places are given up already. -/
def fit? (product : Nat) (given : Nat) : Nat → Option (Nat × Nat)
  | 0 =>
    let rounded := roundHalfEven product (tenTo given)
    if rounded < mantissaBound then some (rounded, 0) else none
  | places + 1 =>
    let rounded := roundHalfEven product (tenTo given)
    if rounded < mantissaBound then some (rounded, places + 1)
    else fit? product (given + 1) places

def timesPowerOfTen? (d : Decimal) (power : Nat) : Option Decimal :=
  if d.mantissa = 0 then some ⟨false, 0, 0⟩
  else (fit? (d.mantissa * tenTo power) 0 d.scale).map fun (mantissa, scale) =>
    { d with mantissa, scale }

/-- Multiply by ten to an exponent above the scale, by `10 ^ 19` first if the exponent reaches
that far, and drop the zeros after the point. -/
def scaleUp? (d : Decimal) (exponent : Nat) : Option Decimal := do
  let d ← if 19 ≤ exponent then timesPowerOfTen? d 19 else some d
  let rest := if 19 ≤ exponent then exponent - 19 else exponent
  let d ← if rest = 0 then some d else timesPowerOfTen? d rest
  let (mantissa, scale) := stripPlaces d.mantissa d.scale
  return { d with mantissa, scale }

/-- Divide by ten to an exponent: the point moves, and places beyond the last possible one are
rounded away first, halves away from zero. -/
def scaleDown (d : Decimal) (exponent : Nat) : Decimal :=
  if d.scale + exponent ≤ maxScale then { d with scale := d.scale + exponent }
  else
    { d with
      mantissa := roundHalfUp d.mantissa (tenTo (d.scale + exponent - maxScale))
      scale := maxScale }

def exponent? (cs : List Char) : Option Nat := do
  let n ← natOfDigits? (match cs with | '+' :: rest => rest | cs => cs)
  if n ≤ maxScale then some n else none

def splitExponent? : List Char → Option (List Char × List Char)
  | [] => none
  | c :: rest =>
    if c = 'e' || c = 'E' then some ([], rest)
    else (splitExponent? rest).map fun (base, exponent) => (c :: base, exponent)

def ofExponentForm? (cs : List Char) : Option Decimal := do
  let (base, exponent) ← splitExponent? cs
  let d ← ofPlain? base
  match exponent with
  | '-' :: digits => return scaleDown d (← exponent? digits)
  | digits =>
    let n ← exponent? digits
    if n ≤ d.scale then return { d with scale := d.scale - n } else scaleUp? d n

def ofText? (s : String) : Option Decimal :=
  match ofPlain? s.toList with
  | some d => some d
  | none => ofExponentForm? s.toList

end FeedBridge.Decimal
