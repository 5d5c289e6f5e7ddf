import FeedBridge.Metrics
import FeedBridge.Uplink.Basic

namespace FeedBridge

inductive HandlerCall
  | opened
  | message (text : String)
  | error
  | closed
deriving DecidableEq

inductive CloseOutcome
  | closed
  | alreadyClosed
deriving DecidableEq

inductive Farewell
  | written
  | failed (error : SocketError) (reason : String)
  | timedOut
deriving DecidableEq

structure Uplink where
  state : UplinkState := .idle
  -- the number of the connection whose sink is stored
  sink : Option Nat := none
  -- the number of the connection whose reader is stored
  reader : Option Nat := none
  made : Nat := 0
  metrics : UplinkMetrics := {}
deriving DecidableEq

namespace Uplink

def isOpen (u : Uplink) : Bool := u.state = .open

def setGauge (u : Uplink) (connected : Bool) : Uplink :=
  { u with metrics := { u.metrics with connected } }

/-! ## Sections of connecting -/

def beginConnect? (u : Uplink) : Option Uplink :=
  match u.state with
  | .idle | .closed => some { u with state := .connecting }
  | .connecting | .open | .closing => none

def abortConnect (u : Uplink) : Uplink := { u with state := .idle }

def storeSink (u : Uplink) : Uplink := { u with sink := some u.made, made := u.made + 1 }

def setOpen (u : Uplink) : Uplink := { u with state := .open }.setGauge true

def storeReader (u : Uplink) (connection : Nat) : Uplink := { u with reader := some connection }

/-- Whether the connection ends while it is open; if so it is closed. -/
def endOpen (u : Uplink) : Bool × Uplink :=
  if u.isOpen then (true, { u with state := .closed }) else (false, u)

def dropSink (u : Uplink) : Uplink := { u with sink := none }

def clearGauge (u : Uplink) : Uplink := u.setGauge false

def beginClose? (u : Uplink) : Option Uplink :=
  if u.isOpen then some { u with state := .closing } else none

def takeReader (u : Uplink) : Option Nat × Uplink := (u.reader, { u with reader := none })

def takeSink (u : Uplink) : Option Nat × Uplink := (u.sink, u.dropSink)

def finishClose (u : Uplink) : Uplink := { u with state := .closed }.clearGauge

/-! ## Connecting without interruption -/

def connect (u : Uplink) (url : String) (timeout : Span) (dial : Dial) :
    Uplink × List HandlerCall × Except ConnectionError Unit :=
  match u.beginConnect? with
  | none => (u, [], .error .alreadyConnected)
  | some u =>
    match dial with
    | .accepted => (u.storeSink.setOpen.storeReader u.made, [.opened], .ok ())
    | .failed reason => (u.abortConnect, [.error], .error (.connectFailed url reason))
    | .timedOut => (u.abortConnect, [.error], .error (.connectTimeout url timeout))

def endReader (u : Uplink) : Uplink :=
  match u.endOpen with
  | (true, u) => u.dropSink.clearGauge
  | (false, u) => u

def countFrame (u : Uplink) : Uplink :=
  { u with metrics := { u.metrics with frames := u.metrics.frames + 1 } }

def messageCalls (frame : Frame) : List HandlerCall :=
  match frame.message? with
  | some text => [.message text]
  | none => []

def endCalls : Incoming → List HandlerCall
  | .failed error => if error.isNoise then [.closed] else [.error, .closed]
  | _ => [.closed]

def receive (u : Uplink) (incoming : Incoming) : Uplink × List HandlerCall :=
  if incoming.endsConnection then (u.endReader, endCalls incoming)
  else
    match incoming with
    | .message frame => (u.countFrame, messageCalls frame)
    | _ => (u, [])

def send (u : Uplink) (text : String) (write : Except String Unit) : Except ConnectionError Frame :=
  if !u.isOpen || u.sink.isNone then .error .notConnected
  else
    match write with
    | .ok () => .ok (.text text)
    | .error reason => .error (.sendFailed reason)

def farewellResult : Farewell → Except ConnectionError CloseOutcome
  | .written | .timedOut => .ok .closed
  | .failed error reason => if error.isNoise then .ok .closed else .error (.closeFailed reason)

/-- Close the connection. Its reader ends first and tells the handler; then the farewell is
written, if there is a sink to write it on. -/
def close (u : Uplink) (farewell : Farewell) :
    Uplink × List HandlerCall × List Frame × Except ConnectionError CloseOutcome :=
  match u.beginClose? with
  | none => (u, [], [], .ok .alreadyClosed)
  | some u =>
    let (reader, u) := u.takeReader
    let (calls, u) := if reader.isSome then ([.closed], u.endReader) else ([], u)
    let (sink, u) := u.takeSink
    let frames := if sink.isSome && farewell = .written then [.normalClose] else []
    let result := if sink.isSome then farewellResult farewell else .ok .closed
    (u.finishClose, calls, frames, result)

end Uplink

end FeedBridge
