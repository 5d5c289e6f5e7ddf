import FeedBridge.Client.Outbox
import FeedBridge.Client.SessionId
import FeedBridge.Metrics

/-!
# The sessions and which of them are registered

A session outlives its registration: after it is removed, or replaced by a session of the same
number, its queue still exists and its writer may still empty it. So every session ever created
keeps a place in a list, and registration relates numbers to places. Delivery goes by number and
reaches registered sessions only.
-/

namespace FeedBridge

structure Session where
  id : SessionId
  format : WireFormat
  outbox : Outbox
deriving DecidableEq

def Session.fresh (id : SessionId) (format : WireFormat) (capacity : Nat) : Session :=
  ⟨id, format, .empty capacity⟩

structure Roster where
  sessions : List Session := []
  registered : List (SessionId × Nat) := []
  metrics : RoutingMetrics := {}

namespace Roster

def count (r : Roster) : Nat := r.registered.length

def create (r : Roster) (session : Session) : Roster :=
  { r with sessions := r.sessions ++ [session] }

/-- The place of the latest session of a number, registered or not. -/
def latest? (r : Roster) (id : SessionId) : Option Nat :=
  (r.sessions.zipIdx.filter fun entry => entry.1.id = id).getLast?.map (·.2)

def setRegistered (r : Roster) (registered : List (SessionId × Nat)) : Roster :=
  { r with registered, metrics := { r.metrics with liveSessions := registered.length } }

def register (r : Roster) (id : SessionId) (place : Nat) : Roster :=
  r.setRegistered (r.registered.filter (fun entry => entry.1 != id) ++ [(id, place)])

def find? (r : Roster) (id : SessionId) : Option Nat := r.registered.lookup id

def isLive (r : Roster) (id : SessionId) : Bool := (r.find? id).isSome

def unregister (r : Roster) (id : SessionId) : Roster :=
  r.setRegistered (r.registered.filter fun entry => entry.1 != id)

def enroll (r : Roster) (session : Session) : Roster :=
  (r.create session).register session.id r.sessions.length

def clear (r : Roster) : Roster := r.setRegistered []

/-- What becomes of a frame offered to the session in a place; nobody is there to take it if
there is no such session. -/
def answerAt (r : Roster) (place : Nat) : Offer :=
  match r.sessions[place]? with
  | some session => session.outbox.answer
  | none => .closed

def setOutbox (r : Roster) (place : Nat) (change : Outbox → Outbox) : Roster :=
  { r with sessions := r.sessions.modify place fun s => { s with outbox := change s.outbox } }

def offerAt (r : Roster) (place : Nat) (frame : Frame) : Roster :=
  let offered := r.setOutbox place (·.offer frame)
  match r.answerAt place with
  | .full =>
    let dropped := r.metrics.messagesDropped + 1
    { offered with metrics := { r.metrics with messagesDropped := dropped } }
  | _ => offered

def sendAt (r : Roster) (place : Nat) (payload : String) : Roster :=
  match r.sessions[place]? with
  | some session => r.offerAt place (session.format.frame payload)
  | none => r

def closeAt (r : Roster) (place : Nat) : Roster := r.offerAt place .normalClose

def acceptsAt (r : Roster) (place : Nat) : Bool := r.answerAt place = .accepted

def accepts (r : Roster) (id : SessionId) : Bool :=
  match r.find? id with
  | some place => r.acceptsAt place
  | none => false

def deliver (r : Roster) (id : SessionId) (payload : String) : Roster :=
  match r.find? id with
  | some place => r.sendAt place payload
  | none => r

/-- Offer a payload to the sessions in a list of places, one after another, and count those that
take it. -/
def sendAll (r : Roster) (payload : String) : List Nat → Roster × Nat
  | [] => (r, 0)
  | place :: rest =>
    let (after, taken) := (r.sendAt place payload).sendAll payload rest
    (after, taken + if r.acceptsAt place then 1 else 0)

def broadcast (r : Roster) (payload : String) : Roster × Nat :=
  r.sendAll payload (r.registered.map (·.2))

def takeAt (r : Roster) (place : Nat) (count : Nat) : List Frame × Roster :=
  match r.sessions[place]? with
  | some session =>
    let (frames, outbox) := session.outbox.take count
    (frames, r.setOutbox place fun _ => outbox)
  | none => ([], r)

def hasWriter (r : Roster) (place : Nat) : Bool :=
  match r.sessions[place]? with
  | some session => session.outbox.writerAlive
  | none => false

def dropWriterAt (r : Roster) (place : Nat) : Roster := r.setOutbox place (·.dropWriter)

end Roster

end FeedBridge
