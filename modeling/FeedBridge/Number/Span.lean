import FeedBridge.Number.Power
import FeedBridge.Number.Rounding

namespace FeedBridge

structure Span where
  nanos : Nat
deriving DecidableEq

namespace Span

def ofSeconds (n : Nat) : Span := ⟨n * tenTo 9⟩

def ofMillis (n : Nat) : Span := ⟨n * tenTo 6⟩

def millis (s : Span) : Nat := s.nanos / tenTo 6

def seconds (s : Span) : Nat := s.nanos / tenTo 9

def trimZeros (digits : List Char) : List Char := (digits.reverse.dropWhile (· = '0')).reverse

def inUnit (nanos places : Nat) (unit : String) : String :=
  let fraction := decimalDigits (nanos % tenTo places)
  let fraction := trimZeros (List.replicate (places - fraction.length) '0' ++ fraction)
  String.ofList (decimalDigits (nanos / tenTo places) ++
    if fraction.isEmpty || places = 0 then [] else '.' :: fraction) ++ unit

def text (s : Span) : String :=
  if tenTo 9 ≤ s.nanos then inUnit s.nanos 9 "s"
  else if tenTo 6 ≤ s.nanos then inUnit s.nanos 6 "ms"
  else if tenTo 3 ≤ s.nanos then inUnit s.nanos 3 "µs"
  else inUnit s.nanos 0 "ns"

end Span

end FeedBridge
