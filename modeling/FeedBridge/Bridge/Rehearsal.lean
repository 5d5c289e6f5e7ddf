import FeedBridge.Bridge.Basic
import FeedBridge.Client.RosterStep

namespace FeedBridge.Bridge

structure Rehearsal where
  bridge : Bridge
  network : Network
  occupied : Bool := false
  timeout : Span := .ofSeconds 10
  clients : List (String × SessionId) := []

namespace Rehearsal

inductive Step
  | start
  | connectUplink (peer : Peer)
  | clientConnect (client : String)
  | badHandshake
  | clientSend (client : String) (incoming : List Incoming)
  | clientEnd (client : String) (incoming : Incoming)
  | push (incoming : List Incoming)
  | uplinkEnd (incoming : Incoming)
  | sendUplink (text : String)
  | broadcast (text : String)
  | stop

inductive Response
  | started
  | failed (cause : BridgeError)
  | connected
  | session (id : SessionId) (live : Nat)
  | clientRefused
  | rejected
  | sent
  | ended
  | pushed
  | noExchange
  | accepted (count : Nat)
  | stopped

inductive Mistake
  | noSuchClient
  | networkDown
deriving DecidableEq

def Mistake.message : Mistake → String
  | noSuchClient => "no such client"
  | networkDown => "Network is unreachable (os error 101)"

structure Report where
  response : Response
  frames : List Frame
  received : List (String × List Frame)
  connected : Bool
  running : Bool
  state : UplinkState
  sessions : Nat
  entries : Subscriptions

def flushClient (b : Bridge) (id : SessionId) : List Frame × Bridge :=
  match b.roster.latest? id with
  | none => ([], b)
  | some place =>
    if !b.roster.hasWriter place then ([], b)
    else
      let (waiting, roster) := b.roster.takeUpTo place none
      let frames := writtenFrames waiting
      let roster := if frames.any (·.isClose) then roster.dropWriterAt place else roster
      (frames, b.onRouter fun r => { r with roster })

def flush (b : Bridge) : List (String × SessionId) → List (String × List Frame) × Bridge
  | [] => ([], b)
  | (name, id) :: rest =>
    let (frames, b) := flushClient b id
    let (received, b) := flush b rest
    (if frames.isEmpty then received else (name, frames) :: received, b)

def reported (r : Rehearsal) (bridge : Bridge) (response : Response) (frames : List Frame) :
    Rehearsal × Report :=
  let (received, bridge) := flush bridge r.clients
  ({ r with bridge },
    { response, frames, received
      connected := bridge.uplink.isOpen
      running := bridge.isRunning
      state := bridge.uplink.state
      sessions := bridge.roster.count
      entries := bridge.router.entries })

def clientReceiveAll (b : Bridge) (id : SessionId) : List Incoming → Bridge × List Frame
  | [] => (b, [])
  | incoming :: rest =>
    let (b, frames) := b.clientReceive id incoming
    let (b, more) := clientReceiveAll b id rest
    (b, frames ++ more)

def byClient (r : Rehearsal) (client : String) (incoming : List Incoming) (response : Response) :
    Except Mistake (Rehearsal × Report) :=
  match r.clients.lookup client with
  | none => .error .noSuchClient
  | some id =>
    let (bridge, frames) := clientReceiveAll r.bridge id incoming
    .ok (r.reported bridge response frames)

def receiveAll (b : Bridge) (incoming : List Incoming) : Bridge :=
  incoming.foldl (fun b incoming => if b.uplink.isOpen then b.receive incoming else b) b

def byExchange (r : Rehearsal) (incoming : List Incoming) (response : Response) :
    Rehearsal × Report :=
  if !r.bridge.uplink.isOpen then r.reported r.bridge .noExchange []
  else r.reported (receiveAll r.bridge incoming) response []

def bind (r : Rehearsal) : Except String Unit :=
  if r.occupied then .error "Address already in use (os error 98)" else .ok ()

def clientConnect (r : Rehearsal) (client : String) : Rehearsal × Report :=
  if !r.bridge.listening || r.network = .down then r.reported r.bridge .clientRefused []
  else
    let (id, bridge) := r.bridge.enter
    let clients := r.clients.filter (fun c => c.1 != client) ++ [(client, id)]
    { r with clients }.reported bridge (.session id bridge.roster.count) []

def exchangeUrl : String := (Endpoint.mk "127.0.0.1" 0 "/").url false

def step (r : Rehearsal) : Step → Except Mistake (Rehearsal × Report)
  | .start =>
    let (bridge, result) := r.bridge.start r.bind
    match result with
    | .ok () => .ok (r.reported bridge .started [])
    | .error cause => .ok (r.reported bridge (.failed (.broker cause)) [])
  | .connectUplink peer =>
    let (bridge, result) := r.bridge.connectUplink exchangeUrl r.timeout (r.network.dial peer)
    match result with
    | .ok () => .ok (r.reported bridge .connected [])
    | .error cause => .ok (r.reported bridge (.failed (.connection cause)) [])
  | .clientConnect client => .ok (r.clientConnect client)
  | .badHandshake =>
    if r.network = .down then .error .networkDown else .ok (r.reported r.bridge .rejected [])
  | .clientSend client incoming => r.byClient client incoming .sent
  | .clientEnd client incoming => do
    let (after, report) ← r.byClient client [incoming] .ended
    return ({ after with clients := after.clients.filter fun c => c.1 != client }, report)
  | .push incoming => .ok (r.byExchange incoming .pushed)
  | .uplinkEnd incoming => .ok (r.byExchange [incoming] .ended)
  | .sendUplink text =>
    match r.bridge.sendUplink text (.ok ()) with
    | .ok frame => .ok (r.reported r.bridge .sent [frame])
    | .error cause => .ok (r.reported r.bridge (.failed (.connection cause)) [])
  | .broadcast text =>
    let (bridge, taken) := r.bridge.broadcast text
    .ok (r.reported bridge (.accepted taken) [])
  | .stop =>
    let (bridge, frames) := r.bridge.stop .written
    .ok (r.reported bridge .stopped frames)

def run (r : Rehearsal) : List Step → Except Mistake (List Report × Rehearsal)
  | [] => .ok ([], { r with bridge := (r.bridge.stop .written).1 })
  | s :: rest => do
    let (next, report) ← r.step s
    let (reports, last) ← run next rest
    return (report :: reports, last)

end Rehearsal

end FeedBridge.Bridge
