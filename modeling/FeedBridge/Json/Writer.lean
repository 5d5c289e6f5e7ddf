import FeedBridge.Json.Basic
import FeedBridge.Number.Shortest
import FeedBridge.Text.Hex

namespace FeedBridge

namespace Json

def escapeChar (c : Char) : List Char :=
  if c = '"' then ['\\', '"']
  else if c = '\\' then ['\\', '\\']
  else if c = '\n' then ['\\', 'n']
  else if c = '\r' then ['\\', 'r']
  else if c = '\t' then ['\\', 't']
  else if c = '\x08' then ['\\', 'b']
  else if c = '\x0c' then ['\\', 'f']
  else if c.toNat < 32 then ['\\', 'u', '0', '0'] ++ Text.Hex.ofByte c.toUInt8
  else [c]

def quoteChars (s : String) : List Char :=
  '"' :: s.toList.flatMap escapeChar ++ ['"']

def plainChars (digits : List Char) (leading : Int) : List Char :=
  if 0 ≤ leading then
    let whole := leading.toNat + 1
    let fraction := digits.drop whole
    digits.take whole ++ List.replicate (whole - digits.length) '0' ++ '.' ::
      (if fraction.isEmpty then ['0'] else fraction)
  else '0' :: '.' :: List.replicate (-leading - 1).toNat '0' ++ digits

def scientificChars (digits : List Char) (leading : Int) : List Char :=
  let fraction := digits.drop 1
  digits.take 1 ++ (if fraction.isEmpty then [] else '.' :: fraction) ++ 'e' ::
    (if 0 ≤ leading then '+' else '-') :: decimalDigits leading.natAbs

def floatChars (x : Binary64) : List Char :=
  let sign := if x.negative then ['-'] else []
  if x.mantissa = 0 then sign ++ ['0', '.', '0']
  else
    let short := x.shortest
    let digits := decimalDigits short.digits
    let leading := short.leading
    sign ++ if -5 ≤ leading ∧ leading < 16 then plainChars digits leading
      else scientificChars digits leading

def intChars (n : Int) : List Char :=
  if n < 0 then '-' :: decimalDigits n.natAbs else decimalDigits n.natAbs

def Number.chars : Number → List Char
  | .int n => intChars n
  | .float x => floatChars x

mutual

def chars : Json → List Char
  | null => ['n', 'u', 'l', 'l']
  | bool true => ['t', 'r', 'u', 'e']
  | bool false => ['f', 'a', 'l', 's', 'e']
  | number n => n.chars
  | string s => quoteChars s
  | array items => '[' :: itemsChars items
  | object members => '{' :: membersChars members

def itemsChars : List Json → List Char
  | [] => [']']
  | [v] => chars v ++ [']']
  | v :: rest => chars v ++ ',' :: itemsChars rest

def membersChars : List (String × Json) → List Char
  | [] => ['}']
  | [(k, v)] => quoteChars k ++ ':' :: chars v ++ ['}']
  | (k, v) :: rest => quoteChars k ++ ':' :: chars v ++ ',' :: membersChars rest

end

def text (v : Json) : String := String.ofList v.chars

/-- The compact text of an object whose members keep the order given. -/
def recordText (members : List (String × Json)) : String :=
  String.ofList ('{' :: membersChars members)

def newLine (depth : Nat) : List Char := '\n' :: List.replicate (2 * depth) ' '

mutual

def prettyChars (depth : Nat) : Json → List Char
  | array (v :: rest) => '[' :: prettyItems depth (v :: rest)
  | object (m :: rest) => '{' :: prettyMembers depth (m :: rest)
  | null => chars null
  | bool b => chars (bool b)
  | number n => n.chars
  | string s => quoteChars s
  | array [] => ['[', ']']
  | object [] => ['{', '}']

def prettyItems (depth : Nat) : List Json → List Char
  | [] => newLine depth ++ [']']
  | [v] => newLine (depth + 1) ++ prettyChars (depth + 1) v ++ newLine depth ++ [']']
  | v :: rest =>
    newLine (depth + 1) ++ prettyChars (depth + 1) v ++ ',' :: prettyItems depth rest

def prettyMembers (depth : Nat) : List (String × Json) → List Char
  | [] => newLine depth ++ ['}']
  | [(k, v)] =>
    newLine (depth + 1) ++ quoteChars k ++ ':' :: ' ' :: prettyChars (depth + 1) v ++
      newLine depth ++ ['}']
  | (k, v) :: rest =>
    newLine (depth + 1) ++ quoteChars k ++ ':' :: ' ' :: prettyChars (depth + 1) v ++
      ',' :: prettyMembers depth rest

end

def prettyText (v : Json) : String := String.ofList (prettyChars 0 v)

end Json

end FeedBridge
