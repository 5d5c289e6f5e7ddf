import FeedBridge.Bridge.Basic

/-!
# Tasks of sessions

Each accepted connection is served by a task of its own, and tasks take turns. A task is always at
one of a few points (`TaskPoint`); between two of them it does one section, undisturbed
(`Bridge.advance`). In particular a task may wait for the exchange to take a subscribe request,
and anything may happen meanwhile.
-/

namespace FeedBridge

inductive TaskPoint
  | handshake
  | refused
  | numbered (id : SessionId)
  | registered (id : SessionId)
  | reading (id : SessionId)
  | writing (id : SessionId) (topic : Topic) (request : String)
  | leaving (id : SessionId)
  | unregistered (id : SessionId)
  | gone (id : SessionId)
deriving DecidableEq

inductive TaskEvent
  | handshakeDone
  | handshakeFailed
  | proceed
  | incoming (incoming : Incoming)
  | written (result : Except UplinkError Unit)
  | cancelled

inductive SessionCall
  | connected (id : SessionId)
  | message (id : SessionId) (text : String)
  | error (id : SessionId)
  | disconnected (id : SessionId)
deriving DecidableEq

namespace Bridge

def advanceReading (b : Bridge) (id : SessionId) (incoming : Incoming) :
    Bridge × TaskPoint × List SessionCall :=
  match incoming with
  | .ended => (b, .leaving id, [])
  | .failed error => (b, .leaving id, if error.isNoise then [] else [.error id])
  | .control => (b, .reading id, [])
  | .message frame =>
    if frame.isClose then (b, .leaving id, [])
    else
      match frame.message? with
      | none => (b, .reading id, [])
      | some text =>
        match b.beginText text with
        | (some (topic, request), b) => (b, .writing id topic request, [.message id text])
        | (none, b) => (b, .reading id, [.message id text])

/-- A task goes on from a point; an event that does not fit the point changes nothing. -/
def advance (b : Bridge) (point : TaskPoint) (event : TaskEvent) :
    Bridge × TaskPoint × List SessionCall :=
  match point, event with
  | .handshake, .handshakeDone =>
    let (id, b) := b.takeNumber
    (b, .numbered id, [])
  | .handshake, .handshakeFailed => (b, .refused, [])
  | .numbered id, .proceed => (b.register id, .registered id, [])
  | .registered id, .proceed => (b, .reading id, [.connected id])
  | .reading id, .incoming incoming => b.advanceReading id incoming
  | .reading id, .cancelled => (b, .leaving id, [])
  | .writing id topic _, .written result => (b.finishText id topic result, .reading id, [])
  | .leaving id, .proceed => (b.unregister id, .unregistered id, [])
  | .unregistered id, .proceed => (b.forget id, .gone id, [.disconnected id])
  | point, _ => (b, point, [])

end Bridge

end FeedBridge
