import FeedBridge.Number.Rounding
import FeedBridge.Text.Hex

namespace FeedBridge

inductive IpAddress
  | v4 (octets : List Nat)
  | v6 (groups : List Nat)
deriving DecidableEq

namespace IpAddress

def splitAt (mark : Char) : List Char → List (List Char)
  | [] => [[]]
  | c :: rest =>
    if c = mark then [] :: splitAt mark rest
    else match splitAt mark rest with
      | part :: parts => (c :: part) :: parts
      | [] => [[c]]

def octet? (cs : List Char) : Option Nat := do
  let n ← natOfDigits? cs
  if n < 256 && cs.length ≤ 3 && (cs.length = 1 || cs.head? != some '0') then some n else none

def octets? (cs : List Char) : Option (List Nat) := do
  let octets ← (splitAt '.' cs).mapM octet?
  if octets.length = 4 then some octets else none

def group? (cs : List Char) : Option Nat := do
  let digits ← cs.mapM Text.Hex.value?
  if 1 ≤ cs.length && cs.length ≤ 4 then some (digits.foldl (fun n digit => 16 * n + digit) 0)
  else none

def pairGroups : List Nat → List Nat
  | [a, b, c, d] => [256 * a + b, 256 * c + d]
  | _ => []

def groups? : List (List Char) → Option (List Nat)
  | [] => some []
  | [last] =>
    match group? last with
    | some g => some [g]
    | none => (octets? last).map pairGroups
  | part :: rest => do
    let g ← group? part
    let gs ← groups? rest
    return g :: gs

def groupsOf? (cs : List Char) : Option (List Nat) :=
  if cs.isEmpty then some [] else groups? (splitAt ':' cs)

def splitGap? : List Char → Option (List Char × List Char)
  | ':' :: ':' :: rest => some ([], rest)
  | c :: rest => (splitGap? rest).map fun (head, tail) => (c :: head, tail)
  | [] => none

/-- The eight groups of an address of version 6. Nothing but digits may precede two colons, and
these stand for at least one group. -/
def v6Groups? (cs : List Char) : Option (List Nat) :=
  match splitGap? cs with
  | none => do
    let groups ← groupsOf? cs
    if groups.length = 8 then some groups else none
  | some (head, tail) => do
    let front ← if head.isEmpty then some [] else (splitAt ':' head).mapM group?
    let back ← groupsOf? tail
    if front.length + back.length ≤ 7 then
      some (front ++ List.replicate (8 - front.length - back.length) 0 ++ back)
    else none

def ofChars? (cs : List Char) : Option IpAddress :=
  match octets? cs with
  | some octets => some (v4 octets)
  | none => (v6Groups? cs).map v6

def octetsChars (octets : List Nat) : List Char :=
  List.intercalate ['.'] (octets.map decimalDigits)

def groupsChars (groups : List Nat) : List Char :=
  List.intercalate [':'] (groups.map (Nat.toDigits 16))

def zeroRun (groups : List Nat) : Nat := (groups.takeWhile (· = 0)).length

def longestRun : List Nat → Nat × Nat
  | [] => (0, 0)
  | g :: rest =>
    let here := zeroRun (g :: rest)
    let (start, length) := longestRun rest
    if length ≤ here then (0, here) else (start + 1, length)

def v6Chars (groups : List Nat) : List Char :=
  match groups with
  | [0, 0, 0, 0, 0, 0xFFFF, high, low] =>
    [':', ':', 'f', 'f', 'f', 'f', ':'] ++
      octetsChars [high / 256, high % 256, low / 256, low % 256]
  | groups =>
    let (start, length) := longestRun groups
    if length < 2 then groupsChars groups
    else
      groupsChars (groups.take start) ++ [':', ':'] ++ groupsChars (groups.drop (start + length))

def chars : IpAddress → List Char
  | v4 octets => octetsChars octets
  | v6 groups => v6Chars groups

def text (a : IpAddress) : String := String.ofList a.chars

end IpAddress

structure SocketAddress where
  ip : IpAddress
  port : Nat
deriving DecidableEq

namespace SocketAddress

def text (a : SocketAddress) : String :=
  let ip :=
    match a.ip with
    | .v4 _ => a.ip.chars
    | .v6 _ => '[' :: a.ip.chars ++ [']']
  String.ofList (ip ++ ':' :: decimalDigits a.port)

def port? (cs : List Char) : Option Nat := do
  let n ← natOfDigits? cs
  if n < 65536 then some n else none

def splitPort? (cs : List Char) : Option (List Char × List Char) :=
  match cs.reverse.dropWhile (· != ':') with
  | _ :: head => some (head.reverse, (cs.reverse.takeWhile (· != ':')).reverse)
  | [] => none

def ofText? (s : String) : Option SocketAddress := do
  let (ip, port) ← splitPort? s.toList
  let port ← port? port
  match ip with
  | '[' :: inner =>
    if inner.getLast? = some ']' then
      let groups ← IpAddress.v6Groups? inner.dropLast
      return ⟨.v6 groups, port⟩
    else none
  | ip =>
    let octets ← IpAddress.octets? ip
    return ⟨.v4 octets, port⟩

end SocketAddress

end FeedBridge
