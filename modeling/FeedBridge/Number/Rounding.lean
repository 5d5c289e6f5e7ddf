namespace FeedBridge

/-- The quotient rounded to the nearest integer, a tie going to the even neighbour. -/
def roundHalfEven (num den : Nat) : Nat :=
  let quotient := num / den
  let twice := 2 * (num % den)
  if twice < den then quotient
  else if den < twice then quotient + 1
  else if quotient % 2 = 0 then quotient else quotient + 1

def roundHalfUp (num den : Nat) : Nat :=
  (2 * num + den) / (2 * den)

def decimalDigits (n : Nat) : List Char := Nat.toDigits 10 n

def digitCount (n : Nat) : Nat := (decimalDigits n).length

def ofDigits (digits : List Nat) : Nat := digits.foldl (fun value digit => 10 * value + digit) 0

def digitValue? (c : Char) : Option Nat :=
  if '0' ≤ c ∧ c ≤ '9' then some (c.toNat - 48) else none

def natOfDigits? (cs : List Char) : Option Nat :=
  if cs.isEmpty then none else (cs.mapM digitValue?).map ofDigits

end FeedBridge
