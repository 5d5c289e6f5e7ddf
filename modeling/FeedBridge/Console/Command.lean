import FeedBridge.Number.DecimalReader
import FeedBridge.Text.Blank

namespace FeedBridge.Console

inductive Command
  | connect
  | order (side type : String) (amount : Decimal) (price : Option Decimal)
  | cancel (orderId : String)
  | modify (orderId : String) (price amount : Decimal)
  | orders
  | state (orderId : String)
  | orderbook (instrument : Option String)
  | positions (currency : Option String)
  | instruments (currency kind : Option String)
  | instrument (name : Option String)
  | help
  | quit
  | raw (text : String)
  | empty
deriving DecidableEq

inductive CommandError
  | usage (form : String)
  | invalidNumber (word : String)
deriving DecidableEq

def CommandError.message : CommandError → String
  | usage form => "usage: " ++ form
  | invalidNumber word => "invalid number '" ++ word ++ "'"

def helpLines : List String :=
  ["Available commands:",
    "  connect                               Connect to Deribit",
    "  buy <type> <amount> [price]           Place a buy order (e.g. 'buy limit 10 50000')",
    "  sell <type> <amount> [price]          Place a sell order (e.g. 'sell market 10')",
    "  cancel <order_id>                     Cancel an order",
    "  modify <order_id> <price> <amount>    Edit an open order",
    "  orders                                List open orders",
    "  state <order_id>                      Show one order",
    "  orderbook [instrument]                Top of book",
    "  positions [currency]                  Open positions (default BTC)",
    "  instruments [currency] [kind]         Active instruments (default BTC future)",
    "  instrument [name]                     Instrument details",
    "  help                                  Show this message",
    "  quit                                  Exit",
    "Order types: market, limit, stop_market, stop_limit.",
    "Any other line is sent to Deribit as-is while connected."]

def helpText : String := String.intercalate "\n" helpLines

namespace Command

def number (word : String) : Except CommandError Decimal :=
  match Decimal.ofText? word with
  | some d => .ok d
  | none => .error (.invalidNumber word)

def readOrder (side : String) : List String → Except CommandError Command
  | [type, amount] => return order side type (← number amount) none
  | [type, amount, price] => do
    let amount ← number amount
    let price ← number price
    return order side type amount (some price)
  | _ => .error (.usage "buy|sell <type> <amount> [price]")

def readCancel : List String → Except CommandError Command
  | [orderId] => .ok (cancel orderId)
  | _ => .error (.usage "cancel <order_id>")

def readModify : List String → Except CommandError Command
  | [orderId, price, amount] => do
    let price ← number price
    let amount ← number amount
    return modify orderId price amount
  | _ => .error (.usage "modify <order_id> <price> <amount>")

def readState : List String → Except CommandError Command
  | [orderId] => .ok (state orderId)
  | _ => .error (.usage "state <order_id>")

def simple? (head : String) (args : List String) : Option Command :=
  match head, args with
  | "connect", [] => some connect
  | "help", [] => some help
  | "quit", [] | "exit", [] => some quit
  | "orders", [] => some orders
  | "orderbook", [] => some (orderbook none)
  | "orderbook", [name] => some (orderbook (some name))
  | "positions", [] => some (positions none)
  | "positions", [currency] => some (positions (some currency))
  | "instruments", [] => some (instruments none none)
  | "instruments", [currency] => some (instruments (some currency) none)
  | "instruments", [currency, kind] => some (instruments (some currency) (some kind))
  | "instrument", [] => some (instrument none)
  | "instrument", [name] => some (instrument (some name))
  | _, _ => none

/-- The command of a line with a first word, which is kept if it is no command. -/
def ofWords (line head : String) (args : List String) : Except CommandError Command :=
  if head = "buy" || head = "sell" then readOrder head args
  else if head = "cancel" then readCancel args
  else if head = "modify" then readModify args
  else if head = "state" then readState args
  else .ok ((simple? head args).getD (raw line))

def parse (line : String) : Except CommandError Command :=
  let trimmed := Text.trim line.toList
  match (Text.words trimmed).map String.ofList with
  | [] => .ok empty
  | head :: args => ofWords (String.ofList trimmed) head args

end Command

end FeedBridge.Console
