namespace FeedBridge.Text

def replacement : Char := Char.ofNat 0xFFFD

def leadByte? (b : Nat) : Option (Nat × Nat × Nat × Nat) :=
  if 0xC2 ≤ b && b ≤ 0xDF then some (1, 0x80, 0xBF, b - 0xC0)
  else if b = 0xE0 then some (2, 0xA0, 0xBF, 0)
  else if b = 0xED then some (2, 0x80, 0x9F, 0xD)
  else if 0xE1 ≤ b && b ≤ 0xEF then some (2, 0x80, 0xBF, b - 0xE0)
  else if b = 0xF0 then some (3, 0x90, 0xBF, 0)
  else if 0xF1 ≤ b && b ≤ 0xF3 then some (3, 0x80, 0xBF, b - 0xF0)
  else if b = 0xF4 then some (3, 0x80, 0x8F, 4)
  else none

/-- A character under way: how many bytes it still wants, the bounds of the next one, and its
bits so far. -/
structure PartialChar where
  wanted : Nat
  low : Nat := 0x80
  high : Nat := 0xBF
  bits : Nat

def startChar (b : Nat) : List Char × Option PartialChar :=
  if b < 0x80 then ([Char.ofNat b], none)
  else match leadByte? b with
    | some (wanted, low, high, bits) => ([], some ⟨wanted, low, high, bits⟩)
    | none => ([replacement], none)

def feedByte (pending : Option PartialChar) (b : Nat) : List Char × Option PartialChar :=
  match pending with
  | none => startChar b
  | some p =>
    if p.low ≤ b && b ≤ p.high then
      let bits := 64 * p.bits + (b - 0x80)
      if p.wanted = 1 then ([Char.ofNat bits], none)
      else ([], some { wanted := p.wanted - 1, bits })
    else
      let (chars, pending) := startChar b
      (replacement :: chars, pending)

def decodeFrom (pending : Option PartialChar) : List UInt8 → List Char
  | [] => if pending.isSome then [replacement] else []
  | b :: rest =>
    let (chars, pending) := feedByte pending b.toNat
    chars ++ decodeFrom pending rest

def decodeLossy (bytes : List UInt8) : String := String.ofList (decodeFrom none bytes)

end FeedBridge.Text
