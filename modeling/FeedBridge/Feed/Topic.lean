namespace FeedBridge

inductive FeedKind
  | orderbook
  | position
deriving DecidableEq, Repr

def FeedKind.name : FeedKind → String
  | orderbook => "orderbook"
  | position => "position"

structure Topic where
  kind : FeedKind
  symbol : String
deriving DecidableEq

namespace Topic

def bookLead : List Char := ['b', 'o', 'o', 'k', '.']

def positionLead : List Char :=
  ['u', 's', 'e', 'r', '.', 'p', 'o', 's', 'i', 't', 'i', 'o', 'n', '.']

def after? : List Char → List Char → Option (List Char)
  | [], cs => some cs
  | _ :: _, [] => none
  | p :: lead, c :: cs => if p = c then after? lead cs else none

def named? (kind : FeedKind) (symbol : List Char) : Option Topic :=
  if symbol.isEmpty then none else some ⟨kind, String.ofList symbol⟩

def ofChannel? (channel : String) : Option Topic :=
  match after? bookLead channel.toList with
  | some rest => named? .orderbook (rest.takeWhile (· != '.'))
  | none =>
    match after? positionLead channel.toList with
    | some rest => named? .position rest
    | none => none

def bookChannel (symbol interval : String) : String :=
  String.ofList (bookLead ++ symbol.toList ++ '.' :: interval.toList)

def positionChannel (symbol : String) : String :=
  String.ofList (positionLead ++ symbol.toList)

/-- The channel of a topic; order books are asked for at the given interval. -/
def channel (topic : Topic) (interval : String) : String :=
  match topic.kind with
  | .orderbook => bookChannel topic.symbol interval
  | .position => positionChannel topic.symbol

def defaultInterval : String := "100ms"

end Topic

end FeedBridge
