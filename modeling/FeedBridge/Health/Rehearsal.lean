import FeedBridge.Health.Report
import FeedBridge.Trading.Rehearsal

namespace FeedBridge.Health

structure Rehearsal where
  version : String := "0.1.0"
  network : Network
  uplink : Uplink := {}
  router : Router := {}
  trading : Trading.Rehearsal

namespace Rehearsal

inductive Step
  | request (operation : Trading.Operation)
  | get (method path : String)
  | session (id : SessionId)
  | sessionEnd (id : SessionId)
  | subscribe (id : SessionId) (symbol : String)
  | connect (peer : Peer)
  | close
  | shutdown
  -- a second server wants the port of the first
  | bindConflict

inductive Reply
  | result (result : Trading.Result)
  | page (response : Response)
  | registered
  | removed (wasRegistered : Bool)
  | added
  | connected
  | refused (cause : ConnectionError)
  | closed (wasOpen : Bool)
  | stopped
  | portTaken

def health (r : Rehearsal) : Health where
  version := r.version
  uplink := r.uplink.state
  liveSessions := r.router.roster.count
  entries := r.router.entries.length
  pipeline := r.trading.pipeline

def request (r : Rehearsal) (operation : Trading.Operation) : Rehearsal × Trading.Result :=
  match r.trading.step (.request operation) with
  | (trading, .ticket ticket) =>
    let (trading, response) := trading.step (.wait ticket)
    match response with
    | .result result => ({ r with trading }, result)
    | _ => ({ r with trading }, .error .dropped)
  | (trading, .result result) => ({ r with trading }, result)
  | (trading, _) => ({ r with trading }, .error .dropped)

def step (r : Rehearsal) : Step → Option (Rehearsal × Reply)
  | .request operation =>
    let (after, result) := r.request operation
    some (after, .result result)
  | .get method path =>
    if r.network = .down then none else some (r, .page (r.health.serve method path))
  | .session id =>
    let router := r.router.onRoster (·.enroll (.fresh id .text 1024))
    some ({ r with router }, .registered)
  | .sessionEnd id =>
    some ({ r with router := r.router.onRoster (·.unregister id) },
      .removed (r.router.roster.isLive id))
  | .subscribe id symbol =>
    some ({ r with router := r.router.record ⟨.orderbook, symbol⟩ id }, .added)
  | .connect peer =>
    let url := (Endpoint.mk "127.0.0.1" 0 "/").url false
    let (uplink, _, result) := r.uplink.connect url (.ofSeconds 10) (r.network.dial peer)
    match result with
    | .ok () => some ({ r with uplink }, .connected)
    | .error cause => some ({ r with uplink }, .refused cause)
  | .close => some ({ r with uplink := (r.uplink.close .written).1 }, .closed r.uplink.isOpen)
  | .shutdown => some ({ r with trading := (r.trading.step .shutdown).1 }, .stopped)
  | .bindConflict => some (r, .portTaken)

def run (r : Rehearsal) : List Step → Option (List Reply)
  | [] => some []
  | s :: rest => do
    let (next, reply) ← r.step s
    return reply :: (← run next rest)

end Rehearsal

end FeedBridge.Health
