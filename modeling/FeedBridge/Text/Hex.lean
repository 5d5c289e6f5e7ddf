namespace FeedBridge.Text.Hex

def value? (c : Char) : Option Nat :=
  if '0' ≤ c ∧ c ≤ '9' then some (c.toNat - 48)
  else if 'a' ≤ c ∧ c ≤ 'f' then some (c.toNat - 87)
  else if 'A' ≤ c ∧ c ≤ 'F' then some (c.toNat - 55)
  else none

def digit (n : Nat) : Char := Nat.digitChar n

def ofByte (b : UInt8) : List Char := [digit (b.toNat / 16), digit (b.toNat % 16)]

def ofBytes (bytes : List UInt8) : String := String.ofList (bytes.flatMap ofByte)

def bytes? : List Char → Option (List UInt8)
  | [] => some []
  | high :: low :: rest => do
    let byte := 16 * (← value? high) + (← value? low)
    return UInt8.ofNat byte :: (← bytes? rest)
  | [_] => none

end FeedBridge.Text.Hex
