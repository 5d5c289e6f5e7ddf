import FeedBridge.Json.Basic
import FeedBridge.Text.Hex

namespace FeedBridge

inductive TextUnit
  | plain (char : Char)
  | escaped (unit : Nat)
deriving DecidableEq

/-- A number as written. The digits before the point are never empty, and they start with zero
only if that is all of them. -/
structure Numeral where
  negative : Bool
  whole : List Nat
  fraction : List Nat
  exponent : Option (Bool × List Nat)
deriving DecidableEq

inductive Document
  | null
  | bool (value : Bool)
  | numeral (value : Numeral)
  | text (units : List TextUnit)
  | array (items : List Document)
  | object (members : List (List TextUnit × Document))

instance : Inhabited Document := ⟨.null⟩

namespace TextUnit

def isLead (unit : Nat) : Bool := 0xD800 ≤ unit && unit < 0xDC00

def isTrail (unit : Nat) : Bool := 0xDC00 ≤ unit && unit < 0xE000

def joinPair (lead trail : Nat) : Char :=
  Char.ofNat (0x10000 + (lead - 0xD800) * 0x400 + (trail - 0xDC00))

/-- The characters that a string stands for; halves of a pair must stand together. -/
def decode? : List TextUnit → Option (List Char)
  | [] => some []
  | plain c :: rest => (decode? rest).map (c :: ·)
  | escaped lead :: escaped unit :: rest =>
    if isLead lead then
      if isTrail unit then (decode? rest).map (joinPair lead unit :: ·) else none
    else if isTrail lead then none
    else (decode? (escaped unit :: rest)).map (Char.ofNat lead :: ·)
  | escaped unit :: rest =>
    if isLead unit || isTrail unit then none
    else (decode? rest).map (Char.ofNat unit :: ·)

end TextUnit

namespace Document

def isSpace (c : Char) : Bool := c = ' ' || c = '\t' || c = '\n' || c = '\r'

def skipSpace (cs : List Char) : List Char := cs.dropWhile isSpace

def simpleEscape? (c : Char) : Option Char :=
  match c with
  | '"' => some '"'
  | '\\' => some '\\'
  | '/' => some '/'
  | 'b' => some '\x08'
  | 'f' => some '\x0c'
  | 'n' => some '\n'
  | 'r' => some '\r'
  | 't' => some '\t'
  | _ => none

def codeUnit? (a b c d : Char) : Option Nat := do
  let high := 16 * (← Text.Hex.value? a) + (← Text.Hex.value? b)
  let low := 16 * (← Text.Hex.value? c) + (← Text.Hex.value? d)
  return 256 * high + low

def readText : List Char → Option (List TextUnit × List Char)
  | [] => none
  | '"' :: rest => some ([], rest)
  | '\\' :: 'u' :: a :: b :: c :: d :: rest => do
    let unit ← codeUnit? a b c d
    let (units, rest) ← readText rest
    return (.escaped unit :: units, rest)
  | '\\' :: c :: rest => do
    let char ← simpleEscape? c
    let (units, rest) ← readText rest
    return (.plain char :: units, rest)
  | c :: rest =>
    if c = '\\' || c.toNat < 32 then none
    else do
      let (units, rest) ← readText rest
      return (.plain c :: units, rest)

def readDigits : List Char → List Nat × List Char
  | [] => ([], [])
  | c :: rest =>
    match digitValue? c with
    | some digit =>
      let (digits, rest) := readDigits rest
      (digit :: digits, rest)
    | none => ([], c :: rest)

def readFraction : List Char → Option (List Nat × List Char)
  | '.' :: rest =>
    let (digits, rest) := readDigits rest
    if digits.isEmpty then none else some (digits, rest)
  | rest => some ([], rest)

def readExponentDigits (negative : Bool) (cs : List Char) :
    Option (Option (Bool × List Nat) × List Char) :=
  let (digits, rest) := readDigits cs
  if digits.isEmpty then none else some (some (negative, digits), rest)

def readExponent : List Char → Option (Option (Bool × List Nat) × List Char)
  | [] => some (none, [])
  | c :: rest =>
    if c = 'e' || c = 'E' then
      match rest with
      | '+' :: rest => readExponentDigits false rest
      | '-' :: rest => readExponentDigits true rest
      | rest => readExponentDigits false rest
    else some (none, c :: rest)

def readUnsigned (negative : Bool) (cs : List Char) : Option (Document × List Char) := do
  let (whole, rest) := readDigits cs
  if whole.isEmpty || (whole.head? = some 0 && 1 < whole.length) then none
  let (fraction, rest) ← readFraction rest
  let (exponent, rest) ← readExponent rest
  return (numeral ⟨negative, whole, fraction, exponent⟩, rest)

def readNumeral : List Char → Option (Document × List Char)
  | '-' :: rest => readUnsigned true rest
  | rest => readUnsigned false rest

mutual

def readValue : Nat → List Char → Option (Document × List Char)
  | 0, _ => none
  | fuel + 1, cs =>
    match skipSpace cs with
    | 'n' :: 'u' :: 'l' :: 'l' :: rest => some (null, rest)
    | 't' :: 'r' :: 'u' :: 'e' :: rest => some (bool true, rest)
    | 'f' :: 'a' :: 'l' :: 's' :: 'e' :: rest => some (bool false, rest)
    | '"' :: rest => (readText rest).map fun (units, rest) => (text units, rest)
    | '[' :: rest =>
      match skipSpace rest with
      | ']' :: rest => some (array [], rest)
      | rest => (readItems fuel rest).map fun (items, rest) => (array items, rest)
    | '{' :: rest =>
      match skipSpace rest with
      | '}' :: rest => some (object [], rest)
      | rest => (readMembers fuel rest).map fun (members, rest) => (object members, rest)
    | rest => readNumeral rest

def readItems : Nat → List Char → Option (List Document × List Char)
  | 0, _ => none
  | fuel + 1, cs => do
    let (item, rest) ← readValue fuel cs
    match skipSpace rest with
    | ',' :: rest => (readItems fuel rest).map fun (items, rest) => (item :: items, rest)
    | ']' :: rest => some ([item], rest)
    | _ => none

def readMembers : Nat → List Char → Option (List (List TextUnit × Document) × List Char)
  | 0, _ => none
  | fuel + 1, cs =>
    match skipSpace cs with
    | '"' :: rest => do
      let (key, rest) ← readText rest
      match skipSpace rest with
      | ':' :: rest =>
        let (value, rest) ← readValue fuel rest
        match skipSpace rest with
        | ',' :: rest =>
          (readMembers fuel rest).map fun (members, rest) => ((key, value) :: members, rest)
        | '}' :: rest => some ([(key, value)], rest)
        | _ => none
      | _ => none
    | _ => none

end

def parse? (s : String) : Option Document := do
  let cs := s.toList
  let (document, rest) ← readValue (2 * cs.length + 2) cs
  if (skipSpace rest).isEmpty then some document else none

end Document

end FeedBridge
