import FeedBridge.Feed.Topic
import FeedBridge.Json.Reader

namespace FeedBridge

inductive ClientRequestError
  | malformed
  | unknownMethod (method : String)
  | emptySymbol
deriving DecidableEq

def ClientRequestError.message : ClientRequestError → String
  | malformed => "malformed client request"
  | unknownMethod method => "unknown method: " ++ method
  | emptySymbol => "empty symbol"

namespace ClientRequest

structure Fields where
  method : Option String := none
  symbol : Option String := none

def stringField? : Document → Option String
  | .text units => Document.stringOf? units
  | _ => none

/-- Read the members of a request object. A second `method` or `symbol` is refused. -/
def readFields? (fields : Fields) : List (List TextUnit × Document) → Option Fields
  | [] => some fields
  | (key, value) :: rest => do
    let key ← Document.stringOf? key
    if key = "method" then
      if fields.method.isSome then none
      else readFields? { fields with method := some (← stringField? value) } rest
    else if key = "symbol" then
      if fields.symbol.isSome then none
      else readFields? { fields with symbol := some (← stringField? value) } rest
    else readFields? fields rest

def fields? : Document → Option (String × String)
  | .object members => do
    let fields ← readFields? {} members
    return (← fields.method, ← fields.symbol)
  | .array [method, symbol] => do
    return (← stringField? method, ← stringField? symbol)
  | _ => none

def kindOfMethod? (method : String) : Option FeedKind :=
  if method = "subscribe_orderbook" then some .orderbook
  else if method = "subscribe_position" then some .position
  else none

def topicOf (method symbol : String) : Except ClientRequestError Topic :=
  if symbol.isEmpty then .error .emptySymbol
  else match kindOfMethod? method with
    | some kind => .ok ⟨kind, symbol⟩
    | none => .error (.unknownMethod method)

def ofDocument (document : Document) : Except ClientRequestError Topic :=
  match fields? document with
  | some (method, symbol) => topicOf method symbol
  | none => .error .malformed

def parse (text : String) : Except ClientRequestError Topic :=
  match Document.parse? text with
  | some document => ofDocument document
  | none => .error .malformed

end ClientRequest

end FeedBridge
