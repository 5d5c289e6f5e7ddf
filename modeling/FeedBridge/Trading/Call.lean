import FeedBridge.Metrics
import FeedBridge.Number.Span
import FeedBridge.Rpc.Inbound
import FeedBridge.Trading.Credentials
import FeedBridge.Trading.Order

namespace FeedBridge.Trading

structure Call where
  method : String
  params : Json

inductive Operation
  | placeOrder (instrument side type : String) (amount : Decimal) (price : Option Decimal)
      (reduceOnly : Bool)
  | cancelOrder (orderId : String)
  | modifyOrder (orderId : String) (price amount : Decimal)
  | activeOrders
  | orderState (orderId : String)
  | orderBook (instrument : String)
  | describeInstrument (instrument : String)
  | listInstruments (currency kind : String)
  | positions (currency : String)
  | anyCall (call : Call)

def Operation.call : Operation → Except OrderError Call
  | placeOrder instrument side type amount price reduceOnly => do
    let order ← Order.compose instrument side type amount price reduceOnly
    return ⟨order.side.method, .ofMembers order.params⟩
  | cancelOrder orderId => do
    require "order_id" orderId
    return ⟨"private/cancel", .ofMembers [("order_id", .string orderId)]⟩
  | modifyOrder orderId price amount => do
    let amendment ← Amendment.compose orderId price amount
    return ⟨"private/edit", .ofMembers amendment.params⟩
  | activeOrders => return ⟨"private/get_open_orders", .ofMembers [("type", .string "all")]⟩
  | orderState orderId => do
    require "order_id" orderId
    return ⟨"private/get_order_state", .ofMembers [("order_id", .string orderId)]⟩
  | orderBook instrument => do
    require "instrument" instrument
    return ⟨"public/get_order_book",
      .ofMembers [("instrument_name", .string instrument), ("depth", .nat 1)]⟩
  | describeInstrument instrument => do
    require "instrument" instrument
    return ⟨"public/get_instrument", .ofMembers [("instrument_name", .string instrument)]⟩
  | listInstruments currency kind => do
    require "currency" currency
    require "kind" kind
    return ⟨"public/get_instruments",
      .ofMembers [("currency", .string currency), ("kind", .string kind),
        ("expired", .bool false)]⟩
  | positions currency => do
    require "currency" currency
    return ⟨"private/get_positions", .ofMembers [("currency", .string currency)]⟩
  | anyCall call => return call

structure Post where
  path : String
  bearer : Option String
  body : Json

def apiPath : String := "/api/v2"

def methodPath (method : String) : String := apiPath ++ "/" ++ method

inductive TransportError
  | request (reason : String)
  | status (code : Nat) (body : String)
  | decode (reason : String)
deriving DecidableEq

def TransportError.message : TransportError → String
  | request reason => "request failed: " ++ reason
  | status code body => "HTTP " ++ String.ofList (decimalDigits code) ++ ": " ++ body
  | decode reason => "invalid response body: " ++ reason

abbrev Reply := Except TransportError Json

inductive RequestError
  | invalidArgument (cause : OrderError)
  | authentication (cause : AuthError)
  | transport (cause : TransportError)
  | exchange (refusal : Rpc.Refusal)
  | encode (reason : String)
  | queueFull
  | queueClosed
  | timeout (after : Span)
  | dropped
deriving DecidableEq

def RequestError.message : RequestError → String
  | invalidArgument cause => "invalid argument: " ++ cause.message
  | authentication cause => "authentication error: " ++ cause.message
  | transport cause => "transport error: " ++ cause.message
  | exchange refusal => "exchange error: " ++ refusal.text
  | encode reason => "failed to encode request: " ++ reason
  | queueFull => "request queue is full"
  | queueClosed => "request pipeline is shut down"
  | timeout after => "no response within " ++ after.text
  | dropped => "request dropped before completion"

abbrev Result := Except RequestError Json

/-- The result of an answer to a call: an answer with an error member is a refusal, and every
other one is the result. -/
def resultOfReply : Reply → Result
  | .error failure => .error (.transport failure)
  | .ok answer =>
    match answer.get? "error" with
    | some error => .error (.exchange (.ofJson error))
    | none => .ok answer

def outcomeOf : Result → Outcome
  | .ok _ => .success
  | .error (.exchange _) => .rejected
  | .error _ => .failed

end FeedBridge.Trading
