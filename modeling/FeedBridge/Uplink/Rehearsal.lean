import FeedBridge.Uplink.Connection

namespace FeedBridge.Uplink

structure Rehearsal where
  uplink : Uplink := {}
  network : Network
  timeout : Span := .ofSeconds 10

namespace Rehearsal

inductive Step
  | connect (peer : Peer)
  | send (text : String)
  | close
  | push (incoming : List Incoming)
  | peerClose
  | peerAbort

inductive Response
  | connected
  | sent
  | closed (outcome : CloseOutcome)
  | failed (cause : ConnectionError)
  | pushed
  | ended
  | noExchange

structure Report where
  response : Response
  state : UplinkState
  calls : List HandlerCall
  frames : List Frame

def receiveAll (u : Uplink) : List Incoming → Uplink × List HandlerCall
  | [] => (u, [])
  | incoming :: rest =>
    let (next, calls) := u.receive incoming
    let (last, more) := receiveAll next rest
    (last, calls ++ more)

def reported (r : Rehearsal) (uplink : Uplink) (response : Response) (calls : List HandlerCall)
    (frames : List Frame) : Rehearsal × Report :=
  ({ r with uplink }, ⟨response, uplink.state, calls, frames⟩)

def byExchange (r : Rehearsal) (incoming : List Incoming) (response : Response) :
    Rehearsal × Report :=
  if !r.uplink.isOpen then r.reported r.uplink .noExchange [] []
  else
    let (uplink, calls) := receiveAll r.uplink incoming
    r.reported uplink response calls []

def step (r : Rehearsal) : Step → Rehearsal × Report
  | .connect peer =>
    let url := (Endpoint.mk "127.0.0.1" 0 "/").url false
    let (uplink, calls, result) := r.uplink.connect url r.timeout (r.network.dial peer)
    match result with
    | .ok () => r.reported uplink .connected calls []
    | .error cause => r.reported uplink (.failed cause) calls []
  | .send text =>
    match r.uplink.send text (.ok ()) with
    | .ok frame => r.reported r.uplink .sent [] [frame]
    | .error cause => r.reported r.uplink (.failed cause) [] []
  | .close =>
    let (uplink, calls, frames, result) := r.uplink.close .written
    match result with
    | .ok outcome => r.reported uplink (.closed outcome) calls frames
    | .error cause => r.reported uplink (.failed cause) calls frames
  | .push incoming => r.byExchange incoming .pushed
  | .peerClose => r.byExchange [.message (.close none)] .ended
  | .peerAbort => r.byExchange [.failed .resetWithoutClosingHandshake] .ended

def run (r : Rehearsal) : List Step → List Report × Rehearsal
  | [] => ([], r)
  | s :: rest =>
    let (next, report) := r.step s
    let (reports, last) := run next rest
    (report :: reports, last)

end Rehearsal

end FeedBridge.Uplink
