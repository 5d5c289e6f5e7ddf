import FeedBridge.Feed.Router
import FeedBridge.Settings.Basic
import FeedBridge.Uplink.Connection

namespace FeedBridge

inductive BrokerError
  | bindFailed (address : SocketAddress) (reason : String)
  | alreadyStarted
deriving DecidableEq

def BrokerError.message : BrokerError → String
  | bindFailed address reason => "failed to bind " ++ address.text ++ ": " ++ reason
  | alreadyStarted => "broker already started"

inductive BridgeError
  | broker (cause : BrokerError)
  | connection (cause : ConnectionError)
deriving DecidableEq

def BridgeError.message : BridgeError → String
  | broker cause => cause.message
  | connection cause => cause.message

structure Bridge where
  settings : BrokerSettings
  uplink : Uplink := {}
  router : Router := {}
  nextSession : UInt64 := 1
  started : Bool := false
  listening : Bool := false
  brokerStopped : Bool := false
  stopped : Bool := false

namespace Bridge

def onRouter (b : Bridge) (change : Router → Router) : Bridge :=
  { b with router := change b.router }

def roster (b : Bridge) : Roster := b.router.roster

def isRunning (b : Bridge) : Bool := !b.stopped && b.router.running

def metrics (b : Bridge) : Metrics := { uplink := b.uplink.metrics, routing := b.roster.metrics }

/-- Start the broker, whose address can be bound or not. A broker that was stopped binds its
address and takes no connection. -/
def start (b : Bridge) (bind : Except String Unit) : Bridge × Except BrokerError Unit :=
  if b.started then (b, .error .alreadyStarted)
  else
    let b := { b with started := true }
    match bind with
    | .ok () => ({ b with listening := !b.brokerStopped }, .ok ())
    | .error reason => (b, .error (.bindFailed b.settings.address reason))

def handle (b : Bridge) : HandlerCall → Bridge
  | .message text => b.onRouter (·.exchangeText text)
  | .closed => b.onRouter (·.halt)
  | .opened | .error => b

def handleAll (b : Bridge) (calls : List HandlerCall) : Bridge := calls.foldl handle b

def connectUplink (b : Bridge) (url : String) (timeout : Span) (dial : Dial) :
    Bridge × Except ConnectionError Unit :=
  let (uplink, calls, result) := b.uplink.connect url timeout dial
  ({ b with uplink }.handleAll calls, result)

def receive (b : Bridge) (incoming : Incoming) : Bridge :=
  let (uplink, calls) := b.uplink.receive incoming
  { b with uplink }.handleAll calls

def sendUplink (b : Bridge) (text : String) (write : Except String Unit) :
    Except ConnectionError Frame :=
  b.uplink.send text write

/-! ## Serving a session, section by section -/

def takeNumber (b : Bridge) : SessionId × Bridge :=
  (⟨b.nextSession⟩, { b with nextSession := b.nextSession + 1 })

def register (b : Bridge) (id : SessionId) : Bridge :=
  b.onRouter (·.onRoster (·.enroll (.fresh id b.settings.format b.settings.outboxCapacity)))

def beginText (b : Bridge) (text : String) : Option (Topic × String) × Bridge :=
  match ClientRequest.parse text with
  | .error _ => (none, b)
  | .ok topic =>
    match b.router.beginSubscribe b.uplink.isOpen topic with
    | .error _ => (none, b)
    | .ok (request, router) => (some (topic, request), { b with router })

/-- Finish to handle a text of a client after its request was written or not. -/
def finishText (b : Bridge) (id : SessionId) (topic : Topic)
    (written : Except UplinkError Unit) : Bridge :=
  b.onRouter fun r => (r.finishSubscribe topic id written).1

def unregister (b : Bridge) (id : SessionId) : Bridge :=
  b.onRouter (·.onRoster (·.unregister id))

def forget (b : Bridge) (id : SessionId) : Bridge := b.onRouter (·.forget id)

def enter (b : Bridge) : SessionId × Bridge :=
  let (id, b) := b.takeNumber
  (id, b.register id)

def clientText (b : Bridge) (id : SessionId) (text : String) : Bridge × List Frame :=
  match b.beginText text with
  | (none, b) => (b, [])
  | (some (topic, request), b) =>
    match b.sendUplink request (.ok ()) with
    | .ok frame => (b.finishText id topic (.ok ()), [frame])
    | .error cause => (b.finishText id topic (.error cause.toUplinkError), [])

def leave (b : Bridge) (id : SessionId) : Bridge := (b.unregister id).forget id

def clientReceive (b : Bridge) (id : SessionId) (incoming : Incoming) : Bridge × List Frame :=
  if !b.roster.isLive id then (b, [])
  else if incoming.endsConnection then (b.leave id, [])
  else
    match incoming with
    | .message frame =>
      match frame.message? with
      | some text => b.clientText id text
      | none => (b, [])
    | _ => (b, [])

def broadcast (b : Bridge) (payload : String) : Bridge × Nat :=
  let (roster, taken) := b.roster.broadcast payload
  (b.onRouter fun r => { r with roster }, taken)

/-! ## Stopping, section by section -/

def closeUplink (b : Bridge) (farewell : Farewell) : Bridge × List Frame :=
  let (uplink, calls, frames, _) := b.uplink.close farewell
  ({ b with uplink }.handleAll calls, frames)

def drain (b : Bridge) : List Nat × Bridge :=
  (b.roster.registered.map (·.2), b.onRouter (·.onRoster (·.clear)))

def sayFarewell (b : Bridge) (place : Nat) : Bridge := b.onRouter (·.onRoster (·.closeAt place))

def stopBroker (b : Bridge) : Bridge :=
  if b.brokerStopped then b
  else
    let (places, b) := { b with brokerStopped := true, listening := false }.drain
    places.foldl sayFarewell b

def clearRouter (b : Bridge) : Bridge := b.onRouter fun r => r.halt.setEntries []

def sessionIds (b : Bridge) : List SessionId := b.roster.registered.map (·.1)

/-- Stop everything. The sessions end once they were told; a second stop does nothing. The frames
written to the exchange are told. -/
def stop (b : Bridge) (farewell : Farewell) : Bridge × List Frame :=
  if b.stopped then (b, [])
  else
    let ids := b.sessionIds
    let (b, frames) := { b with stopped := true }.closeUplink farewell
    ((ids.foldl leave b.stopBroker).clearRouter, frames)

end Bridge

end FeedBridge
