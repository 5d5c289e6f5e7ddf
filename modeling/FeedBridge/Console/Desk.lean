import FeedBridge.Bridge.Basic
import FeedBridge.Console.Command
import FeedBridge.Trading.Rehearsal

namespace FeedBridge.Console

inductive Printed
  | out (text : String)
  | err (text : String)
deriving DecidableEq

inductive Action
  | nothing
  | quit
  | help
  | connect
  | forward (text : String)
  | request (label : String) (operation : Trading.Operation)
  | complain (message : String)

def defaultCurrency : String := "BTC"

def defaultKind : String := "future"

/-- The action of a command; orders go to the default instrument. -/
def Command.action (instrument : String) : Command → Action
  | .empty => .nothing
  | .quit => .quit
  | .help => .help
  | .connect => .connect
  | .raw text => .forward text
  | .order side type amount price =>
    .request "Order" (.placeOrder instrument side type amount price false)
  | .cancel orderId => .request "Cancel" (.cancelOrder orderId)
  | .modify orderId price amount => .request "Modify" (.modifyOrder orderId price amount)
  | .orders => .request "Active orders" .activeOrders
  | .state orderId => .request "Order state" (.orderState orderId)
  | .orderbook name => .request "Order book" (.orderBook (name.getD instrument))
  | .positions currency => .request "Positions" (.positions (currency.getD defaultCurrency))
  | .instruments currency kind =>
    .request "Instruments"
      (.listInstruments (currency.getD defaultCurrency) (kind.getD defaultKind))
  | .instrument name => .request "Instrument" (.describeInstrument (name.getD instrument))

def actionOf (instrument line : String) : Action :=
  match Command.parse line with
  | .ok command => command.action instrument
  | .error cause => .complain cause.message

structure Desk where
  instrument : String
  callTimeout : Span
  endpoint : Endpoint
  connectTimeout : Span
  dial : Dial
  bridge : Bridge
  trading : Trading.Rehearsal
  forwarded : List String := []
  printed : List Printed := []

namespace Desk

def print (d : Desk) (p : Printed) : Desk := { d with printed := d.printed ++ [p] }

def reportOf (label : String) : Trading.Result → Printed
  | .ok value => .out (label ++ ": " ++ value.prettyText)
  | .error cause => .err (label ++ " failed: " ++ cause.message)

def connect (d : Desk) : Desk :=
  let (bridge, result) :=
    d.bridge.connectUplink (d.endpoint.url true) d.connectTimeout d.dial
  let d := { d with bridge }
  match result with
  | .ok () => d
  | .error cause => d.print (.err ("Could not connect to Deribit: " ++ cause.message))

def forward (d : Desk) (text : String) : Desk :=
  if d.bridge.uplink.isOpen then
    match d.bridge.sendUplink text (.ok ()) with
    | .ok _ => { d with forwarded := d.forwarded ++ [text] }
    | .error cause => d.print (.err ("Send failed: " ++ cause.message))
  else d.print (.err "Unknown command. Type 'help' for a list.")

/-- The result of a submitted operation, within the call timeout. -/
def await (d : Desk) (ticket : Nat) : Desk × Trading.Result :=
  match d.trading.step (.waitTimeout ticket (d.callTimeout.millis)) with
  | (trading, .result result) => ({ d with trading }, result)
  | (trading, _) => ({ d with trading }, .error .dropped)

def request (d : Desk) (label : String) (operation : Trading.Operation) : Desk :=
  match d.trading.step (.request operation) with
  | (trading, .ticket ticket) =>
    let (d, result) := { d with trading }.await ticket
    d.print (reportOf label result)
  | (trading, .result result) => { d with trading }.print (reportOf label result)
  | (trading, _) => { d with trading }

def act (d : Desk) : Action → Desk
  | .nothing | .quit => d
  | .help => d.print (.out helpText)
  | .connect => d.connect
  | .forward text => d.forward text
  | .request label operation => d.request label operation
  | .complain message => d.print (.err message)

def work (d : Desk) : List String → Desk
  | [] => d
  | line :: rest =>
    if !d.bridge.isRunning then d
    else
      match actionOf d.instrument line with
      | .quit => d
      | action => work (d.act action) rest

end Desk

end FeedBridge.Console
