import FeedBridge.Client.Roster

namespace FeedBridge.Roster

inductive Step
  | create (session : Session)
  | enroll (session : Session)
  | unregister (id : SessionId)
  | find (id : SessionId)
  | isLive (id : SessionId)
  | deliver (id : SessionId) (payload : String)
  | broadcast (payload : String)
  | clear
  | send (id : SessionId) (payload : String)
  | close (id : SessionId)
  -- the writer takes out frames, all of them unless there is a limit
  | take (id : SessionId) (limit : Option Nat)
  | dropWriter (id : SessionId)

inductive Response
  | created (id : SessionId)
  | enrolled
  | unregistered (id : Option SessionId)
  | found (id : Option SessionId)
  | live (isLive : Bool)
  -- whether a frame was taken; nothing if there is no session to offer it to
  | accepted (taken : Option Bool)
  | count (sessions : Nat)
  | cleared (ids : List SessionId)
  | frames (frames : List Frame)
  | writerDropped (wasThere : Bool)
  | noWriter

def registered? (r : Roster) (id : SessionId) : Option SessionId :=
  if r.isLive id then some id else none

def offerLatest (r : Roster) (id : SessionId) (offer : Nat → Roster) : Roster × Response :=
  match r.latest? id with
  | some place => (offer place, .accepted (some (r.acceptsAt place)))
  | none => (r, .accepted none)

def takeUpTo (r : Roster) (place : Nat) (limit : Option Nat) : List Frame × Roster :=
  match r.sessions[place]? with
  | some session => r.takeAt place (limit.getD session.outbox.waiting.length)
  | none => ([], r)

def takeLatest (r : Roster) (id : SessionId) (limit : Option Nat) : Roster × Response :=
  match r.latest? id with
  | some place =>
    if r.hasWriter place then
      let (frames, after) := r.takeUpTo place limit
      (after, .frames frames)
    else (r, .noWriter)
  | none => (r, .noWriter)

def dropLatest (r : Roster) (id : SessionId) : Roster × Response :=
  match r.latest? id with
  | some place => (r.dropWriterAt place, .writerDropped (r.hasWriter place))
  | none => (r, .noWriter)

def step (r : Roster) : Step → Roster × Response
  | .create session => (r.create session, .created session.id)
  | .enroll session => (r.enroll session, .enrolled)
  | .unregister id => (r.unregister id, .unregistered (r.registered? id))
  | .find id => (r, .found (r.registered? id))
  | .isLive id => (r, .live (r.isLive id))
  | .deliver id payload => (r.deliver id payload, .accepted (some (r.accepts id)))
  | .broadcast payload =>
    let (after, taken) := r.broadcast payload
    (after, .count taken)
  | .clear => (r.clear, .cleared (r.registered.map (·.1)))
  | .send id payload => r.offerLatest id fun place => r.sendAt place payload
  | .close id => r.offerLatest id r.closeAt
  | .take id limit => r.takeLatest id limit
  | .dropWriter id => r.dropLatest id

end FeedBridge.Roster
