import FeedBridge.Json.Document
import Mathlib.Data.List.Forall2

namespace FeedBridge

def Digits (digits : List Nat) (cs : List Char) : Prop :=
  List.Forall₂ (fun digit c => digitValue? c = some digit) digits cs

namespace TextUnit

inductive Spelled : TextUnit → List Char → Prop
  | plain {c : Char} (noQuote : c ≠ '"') (noEscape : c ≠ '\\') (printable : 32 ≤ c.toNat) :
      Spelled (.plain c) [c]
  | short {mark c : Char} (escape : Document.simpleEscape? mark = some c) :
      Spelled (.plain c) ['\\', mark]
  | code {a b c d : Char} {unit : Nat} (digits : Document.codeUnit? a b c d = some unit) :
      Spelled (.escaped unit) ['\\', 'u', a, b, c, d]

inductive SpelledAll : List TextUnit → List Char → Prop
  | nil : SpelledAll [] []
  | cons {unit : TextUnit} {units : List TextUnit} {cs rest : List Char}
      (first : unit.Spelled cs) (others : SpelledAll units rest) :
      SpelledAll (unit :: units) (cs ++ rest)

end TextUnit

namespace Numeral

inductive FractionSpelled : List Nat → List Char → Prop
  | absent : FractionSpelled [] []
  | present {digits : List Nat} {cs : List Char} (nonempty : digits ≠ [])
      (spelled : Digits digits cs) : FractionSpelled digits ('.' :: cs)

inductive SignSpelled : Bool → List Char → Prop
  | bare : SignSpelled false []
  | plus : SignSpelled false ['+']
  | minus : SignSpelled true ['-']

inductive ExponentSpelled : Option (Bool × List Nat) → List Char → Prop
  | absent : ExponentSpelled none []
  | present {mark : Char} {negative : Bool} {sign cs : List Char} {digits : List Nat}
      (marked : mark = 'e' ∨ mark = 'E') (signed : SignSpelled negative sign)
      (nonempty : digits ≠ []) (spelled : Digits digits cs) :
      ExponentSpelled (some (negative, digits)) (mark :: (sign ++ cs))

inductive Spelled (n : Numeral) : List Char → Prop
  | intro {whole fraction exponent : List Char} (nonempty : n.whole ≠ [])
      (leading : n.whole.head? = some 0 → n.whole.length = 1) (units : Digits n.whole whole)
      (places : FractionSpelled n.fraction fraction) (power : ExponentSpelled n.exponent exponent) :
      Spelled n ((if n.negative then ['-'] else []) ++ (whole ++ (fraction ++ exponent)))

end Numeral

namespace Document

def Blank (cs : List Char) : Prop := ∀ c ∈ cs, isSpace c = true

mutual

inductive Spelled : Document → List Char → Prop
  | null : Spelled null ['n', 'u', 'l', 'l']
  | true : Spelled (bool true) ['t', 'r', 'u', 'e']
  | false : Spelled (bool false) ['f', 'a', 'l', 's', 'e']
  | numeral {n : Numeral} {cs : List Char} (spelled : n.Spelled cs) : Spelled (numeral n) cs
  | text {units : List TextUnit} {cs : List Char} (spelled : TextUnit.SpelledAll units cs) :
      Spelled (text units) ('"' :: (cs ++ ['"']))
  | noItems {gap : List Char} (blank : Blank gap) : Spelled (array []) ('[' :: (gap ++ [']']))
  | array {items : List Document} {cs : List Char} (spelled : SpelledItems items cs) :
      Spelled (array items) ('[' :: (cs ++ [']']))
  | noMembers {gap : List Char} (blank : Blank gap) :
      Spelled (object []) ('{' :: (gap ++ ['}']))
  | object {members : List (List TextUnit × Document)} {cs : List Char}
      (spelled : SpelledMembers members cs) : Spelled (object members) ('{' :: (cs ++ ['}']))

inductive Padded : Document → List Char → Prop
  | intro {document : Document} {before cs after : List Char} (indent : Blank before)
      (spelled : Spelled document cs) (blank : Blank after) :
      Padded document (before ++ (cs ++ after))

inductive SpelledItems : List Document → List Char → Prop
  | last {item : Document} {cs : List Char} (spelled : Padded item cs) : SpelledItems [item] cs
  | more {item : Document} {items : List Document} {cs rest : List Char}
      (spelled : Padded item cs) (others : SpelledItems items rest) :
      SpelledItems (item :: items) (cs ++ ',' :: rest)

inductive SpelledMember : List TextUnit × Document → List Char → Prop
  | intro {key : List TextUnit} {value : Document} {before name gap cs : List Char}
      (indent : Blank before) (named : TextUnit.SpelledAll key name) (blank : Blank gap)
      (spelled : Padded value cs) :
      SpelledMember (key, value) (before ++ '"' :: (name ++ '"' :: (gap ++ ':' :: cs)))

inductive SpelledMembers : List (List TextUnit × Document) → List Char → Prop
  | last {member : List TextUnit × Document} {cs : List Char} (spelled : SpelledMember member cs) :
      SpelledMembers [member] cs
  | more {member : List TextUnit × Document} {members : List (List TextUnit × Document)}
      {cs rest : List Char} (spelled : SpelledMember member cs)
      (others : SpelledMembers members rest) :
      SpelledMembers (member :: members) (cs ++ ',' :: rest)

end

/-- A text holds a document, and nothing else but blanks around it. -/
def Fills (document : Document) (text : String) : Prop := document.Padded text.toList

end Document

end FeedBridge
