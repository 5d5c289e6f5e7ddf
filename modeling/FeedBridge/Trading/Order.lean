import FeedBridge.Json.Writer
import FeedBridge.Number.Decimal

namespace FeedBridge.Trading

inductive Side
  | buy
  | sell
deriving DecidableEq

inductive OrderType
  | market
  | limit
  | stopMarket
  | stopLimit
deriving DecidableEq

def OrderType.name : OrderType → String
  | market => "market"
  | limit => "limit"
  | stopMarket => "stop_market"
  | stopLimit => "stop_limit"

inductive OrderError
  | invalidSide (text : String)
  | invalidType (text : String)
  | emptyField (field : String)
  | invalidAmount (amount : Decimal)
  | missingPrice (type : OrderType)
deriving DecidableEq

def OrderError.message : OrderError → String
  | invalidSide text => "invalid side '" ++ text ++ "': expected 'buy' or 'sell'"
  | invalidType text =>
    "invalid order type '" ++ text ++ "': expected market, limit, stop_market or stop_limit"
  | emptyField field => field ++ " must not be empty"
  | invalidAmount amount => "amount must be positive, got " ++ amount.text
  | missingPrice type => type.name ++ " orders require a price"

namespace Side

def name : Side → String
  | buy => "buy"
  | sell => "sell"

def method : Side → String
  | buy => "private/buy"
  | sell => "private/sell"

def ofName (text : String) : Except OrderError Side :=
  if text = "buy" then .ok buy
  else if text = "sell" then .ok sell
  else .error (.invalidSide text)

end Side

namespace OrderType

def hasLimit : OrderType → Bool
  | limit | stopLimit => true
  | market | stopMarket => false

def isStop : OrderType → Bool
  | stopMarket | stopLimit => true
  | market | limit => false

def needsPrice (type : OrderType) : Bool := type.hasLimit || type.isStop

def ofName (text : String) : Except OrderError OrderType :=
  if text = "market" then .ok market
  else if text = "limit" then .ok limit
  else if text = "stop_market" then .ok stopMarket
  else if text = "stop_limit" then .ok stopLimit
  else .error (.invalidType text)

end OrderType

def require (field text : String) : Except OrderError Unit :=
  if text.isEmpty then .error (.emptyField field) else .ok ()

def requirePositive (amount : Decimal) : Except OrderError Unit :=
  if amount.isPositive then .ok () else .error (.invalidAmount amount)

def usedPrice (type : OrderType) (price : Option Decimal) : Except OrderError (Option Decimal) :=
  if type.needsPrice then
    match price with
    | some price => .ok (some price)
    | none => .error (.missingPrice type)
  else .ok none

structure Order where
  side : Side
  instrument : String
  amount : Decimal
  type : OrderType
  limitPrice : Option Decimal
  triggerPrice : Option Decimal
  reduceOnly : Bool
deriving DecidableEq

namespace Order

def compose (instrument side type : String) (amount : Decimal) (price : Option Decimal)
    (reduceOnly : Bool) : Except OrderError Order := do
  let side ← Side.ofName side
  let type ← OrderType.ofName type
  require "instrument" instrument
  requirePositive amount
  let price ← usedPrice type price
  return {
    side, instrument, amount, type, reduceOnly
    limitPrice := if type.hasLimit then price else none
    triggerPrice := if type.isStop then price else none }

def amountJson (amount : Decimal) : Json := .number (.float amount.toFloat)

def priceMember (key : String) (price : Option Decimal) : List (String × Json) :=
  match price with
  | some price => [(key, amountJson price)]
  | none => []

/-- The parameters of an order, in the order of the text. A trigger always goes by the last
traded price. -/
def params (o : Order) : List (String × Json) :=
  [("instrument_name", .string o.instrument), ("amount", amountJson o.amount),
    ("type", .string o.type.name)] ++
    priceMember "price" o.limitPrice ++
    (if o.type.isStop then [("trigger", .string "last_price")] else []) ++
    priceMember "trigger_price" o.triggerPrice ++
    (if o.reduceOnly then [("reduce_only", .bool true)] else [])

end Order

structure Amendment where
  orderId : String
  amount : Decimal
  price : Decimal
deriving DecidableEq

namespace Amendment

def compose (orderId : String) (price amount : Decimal) : Except OrderError Amendment := do
  require "order_id" orderId
  requirePositive amount
  return { orderId, amount, price }

/-- The parameters of an amendment, in the order of the text. -/
def params (a : Amendment) : List (String × Json) :=
  [("order_id", .string a.orderId), ("amount", Order.amountJson a.amount),
    ("price", Order.amountJson a.price)]

end Amendment

end FeedBridge.Trading
