import FeedBridge.Json.Document

/-!
# Reading JSON values

A value is read from a document: the members are sorted, the last of equal keys counts, escapes
must be complete, containers nest at most 127 deep, and a number must not be larger than the
largest double.

A number without fraction and exponent is an integer if it fits 64 bits. Otherwise its digits
are collected into a significand as long as that stays below `2 ^ 64`, and the double nearest to
the significand is multiplied or divided by the double nearest to a power of ten, with one
rounding more for each step.
-/

namespace FeedBridge

namespace Numeral

def maxSignificand : Nat := twoTo 64 - 1

/-- Append digits to a significand while it fits; what follows the first digit that does not fit
is left over. -/
def collect (significand : Nat) : List Nat → Nat × List Nat
  | [] => (significand, [])
  | digit :: rest =>
    let next := 10 * significand + digit
    if next ≤ maxSignificand then collect next rest else (significand, digit :: rest)

/-- The significand and the power of ten that belongs to it, the exponent part left aside. Digits
left over before the point raise the power, the digits taken after the point lower it. -/
def significand (n : Numeral) : Nat × Int :=
  let (whole, leftOver) := collect 0 n.whole
  let (all, unread) := collect whole n.fraction
  (all, (leftOver.length : Int) - (n.fraction.length - unread.length : Nat))

def exponentPart (n : Numeral) : Int :=
  match n.exponent with
  | none => 0
  | some (negative, digits) => if negative then -ofDigits digits else ofDigits digits

def powerOfTen (power : Nat) : Option Binary64 := Binary64.ofNat (tenTo power)

def largestPower : Nat := 308

def divide (x : Binary64) (power : Nat) : Option Binary64 := (powerOfTen power).bind x.dividedBy

def divideRepeatedly : Nat → Binary64 → Option Binary64
  | 0, x => some x
  | times + 1, x =>
    if x.mantissa = 0 then some x else (divide x largestPower).bind (divideRepeatedly times)

/-- Divide a double by any power of ten: by the largest one while the power exceeds it, and then
by what is left. -/
def shrink (x : Binary64) (power : Nat) : Option Binary64 :=
  let times := (power - 1) / largestPower
  (divideRepeatedly times x).bind fun y => divide y (power - largestPower * times)

def grow (x : Binary64) (power : Nat) : Option Binary64 :=
  if power ≤ largestPower then (powerOfTen power).bind x.times
  else if x.mantissa = 0 then some x else none

def toFloat? (n : Numeral) : Option Binary64 := do
  let (significand, power) := n.significand
  let power := power + n.exponentPart
  let x ← Binary64.ofNat significand
  let x ← if 0 ≤ power then grow x power.toNat else shrink x (-power).toNat
  return x.withSign n.negative

def toNumber? (n : Numeral) : Option Json.Number :=
  let magnitude := ofDigits n.whole
  if !n.fraction.isEmpty || n.exponent.isSome then n.toFloat?.map .float
  else if !n.negative && magnitude ≤ maxSignificand then some (.int magnitude)
  else if n.negative && 0 < magnitude && magnitude ≤ twoTo 63 then some (.int (-magnitude))
  else n.toFloat?.map .float

end Numeral

namespace Document

mutual

def depth : Document → Nat
  | array items => itemsDepth items + 1
  | object members => membersDepth members + 1
  | _ => 0

def itemsDepth : List Document → Nat
  | [] => 0
  | item :: rest => max (depth item) (itemsDepth rest)

def membersDepth : List (List TextUnit × Document) → Nat
  | [] => 0
  | (_, value) :: rest => max (depth value) (membersDepth rest)

end

def stringOf? (units : List TextUnit) : Option String := (TextUnit.decode? units).map String.ofList

mutual

def value? : Document → Option Json
  | null => some .null
  | bool b => some (.bool b)
  | numeral n => n.toNumber?.map .number
  | text units => (stringOf? units).map .string
  | array items => (itemValues? items).map .array
  | object members => (memberValues? members).map Json.ofMembers

def itemValues? : List Document → Option (List Json)
  | [] => some []
  | item :: rest => do
    let value ← value? item
    let values ← itemValues? rest
    return value :: values

def memberValues? : List (List TextUnit × Document) → Option (List (String × Json))
  | [] => some []
  | (key, member) :: rest => do
    let key ← stringOf? key
    let value ← value? member
    let values ← memberValues? rest
    return (key, value) :: values

end

def maxDepth : Nat := 127

def toJson? (d : Document) : Option Json := if d.depth ≤ maxDepth then d.value? else none

end Document

def Json.parse? (s : String) : Option Json := (Document.parse? s).bind Document.toJson?

end FeedBridge
