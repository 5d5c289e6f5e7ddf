import FeedBridge.Json.Reader
import FeedBridge.Json.Writer

namespace FeedBridge.Rpc

structure Refusal where
  code : Int
  message : String
deriving DecidableEq

namespace Refusal

/-- Read an error member of any shape. Without a code the code is zero, and without a message the
whole value is the message. -/
def ofJson (value : Json) : Refusal where
  code := ((value.get? "code").bind Json.int64?).getD 0
  message := ((value.get? "message").bind Json.string?).getD value.text

def text (r : Refusal) : String := r.message ++ " (" ++ String.ofList (Json.intChars r.code) ++ ")"

end Refusal

inductive Inbound
  | ack (id : Json) (refusal : Option Refusal)
  | event (channel : String) (data : Json)
  | other (value : Json)

inductive DecodeError
  | syntaxError
  | notObject (kind : String)
deriving DecidableEq

def DecodeError.message : DecodeError → String
  | syntaxError => "JSON codec error: malformed text"
  | notObject kind => "invalid message format: expected object, got " ++ kind

namespace Inbound

def event? (value : Json) : Option (String × Json) := do
  let params ← value.get? "params"
  let channel ← (← params.get? "channel").string?
  let data ← params.get? "data"
  return (channel, data)

def classify (value : Json) : Inbound :=
  match value.get? "id" with
  | some id => ack id ((value.get? "error").map Refusal.ofJson)
  | none =>
    match event? value with
    | some (channel, data) => event channel data
    | none => other value

def decode (text : String) : Except DecodeError Inbound :=
  match Json.parse? text with
  | none => .error .syntaxError
  | some (.object members) => .ok (classify (.object members))
  | some value => .error (.notObject value.kindName)

end Inbound

end FeedBridge.Rpc
