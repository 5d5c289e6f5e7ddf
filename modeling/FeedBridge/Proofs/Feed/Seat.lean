import FeedBridge.Feed.Routing
import FeedBridge.Proofs.Client.Tidy

/-!
# What a run owes to one session

What routing owes to one session can be said without the list of subscriptions and without the
other sessions. A seat remembers which topics its session subscribed to, and never forgets one. An
event of a topic offers the session one copy of its payload for each time the topic was asked for.
A copy is taken if the session is registered, its writer is there and its queue has room.

`Seat.run` goes through a run in this way. The run itself is looked at for one thing only: whether
it reported success for a subscription. `Routing.accepted` is the other side, the frames that were
taken out of the queue or still wait in it.
-/

namespace FeedBridge

/-- A session as routing should treat it. -/
structure Seat where
  registered : Bool
  writerAlive : Bool
  format : WireFormat
  capacity : Nat
  waiting : List Frame
  wanted : List Topic
  accepted : List Frame

namespace Seat

def absent : Seat where
  registered := false
  writerAlive := false
  format := .text
  capacity := 0
  waiting := []
  wanted := []
  accepted := []

def arriving (session : Session) : Seat where
  registered := true
  writerAlive := true
  format := session.format
  capacity := session.outbox.capacity
  waiting := []
  wanted := []
  accepted := []

def offer (seat : Seat) (frame : Frame) : Seat :=
  if seat.registered ∧ seat.writerAlive ∧ seat.waiting.length < seat.capacity then
    { seat with waiting := seat.waiting ++ [frame], accepted := seat.accepted ++ [frame] }
  else seat

def offerCopies (frame : Frame) : Nat → Seat → Seat
  | 0, seat => seat
  | count + 1, seat => offerCopies frame count (seat.offer frame)

def receive (seat : Seat) (topic : Topic) (payload : String) : Seat :=
  offerCopies (seat.format.frame payload) (seat.wanted.count topic) seat

def witness (seat : Seat) : Option (Topic × Json) → Seat
  | some (topic, data) => seat.receive topic data.text
  | none => seat

def want (seat : Seat) : Option Topic → Seat
  | some topic => { seat with wanted := seat.wanted ++ [topic] }
  | none => seat

end Seat

namespace Routing

def succeeds (s : Routing) (session : SessionId) (topic : Topic) : Bool :=
  match (s.subscribe session topic).2 with
  | .ok () => true
  | .error _ => false

def subscribedBy? (s : Routing) (session : SessionId) : Step → Option Topic
  | .clientText sender text =>
    match ClientRequest.parse text with
    | .ok topic => if sender = session ∧ s.succeeds sender topic then some topic else none
    | .error _ => none
  | .subscribe sender topic =>
    if sender = session ∧ s.succeeds sender topic then some topic else none
  | _ => none

def Step.event? : Step → Option (Topic × Json)
  | .exchangeText text =>
    match Rpc.Inbound.decode text with
    | .ok (.event channel data) => (Topic.ofChannel? channel).map fun topic => (topic, data)
    | _ => none
  | .route channel data => (Topic.ofChannel? channel).map fun topic => (topic, data)
  | _ => none

def Step.newcomer? : Step → Option SessionId
  | .connect session => some session.id
  | _ => none

def Step.Proper (known : List SessionId) : Step → Prop
  | .connect session => session.id ∉ known ∧ ∃ capacity, session.outbox = .empty capacity
  | .clientText session _ | .subscribe session _ => session ∈ known
  | .addEntry _ _ => False
  | _ => True

def Orderly : List SessionId → List Step → Prop
  | _, [] => True
  | known, step :: rest => step.Proper known ∧ Orderly (step.newcomer?.toList ++ known) rest

def takenBy (s : Routing) (id : SessionId) (step : Step) : List Frame :=
  match step with
  | .take session _ =>
    match (s.step step).2 with
    | .queue (.frames frames) => if session = id then frames else []
    | _ => []
  | _ => []

def taken (id : SessionId) : Routing → List Step → List Frame
  | _, [] => []
  | s, step :: rest => s.takenBy id step ++ taken id (s.step step).1 rest

def waiting (s : Routing) (id : SessionId) : List Frame :=
  ((s.router.roster.session? id).map (·.outbox.waiting)).getD []

/-- The frames that the queue of a session took in a run: they were taken out again, or they still
wait. -/
def accepted (s : Routing) (id : SessionId) (steps : List Step) : List Frame :=
  taken id s steps ++ (s.run steps).waiting id

end Routing

namespace Seat
open Routing

/-- What a step means for the session of a number; `subscribed` is the topic that it subscribes
to in this step, if it does. -/
def step (id : SessionId) (subscribed : Option Topic) (seat : Seat) : Step → Seat
  | .connect session => if session.id = id then arriving session else seat
  | .disconnect session | .vanish session =>
    if session = id then { seat with registered := false } else seat
  | .dropWriter session => if session = id then { seat with writerAlive := false } else seat
  | .take session limit =>
    if session = id ∧ seat.writerAlive then
      { seat with waiting := seat.waiting.drop (limit.getD seat.waiting.length) }
    else seat
  | .clientText _ _ | .subscribe _ _ => seat.want subscribed
  | .exchangeText text => seat.witness (Step.exchangeText text).event?
  | .route channel data => seat.witness (Step.route channel data).event?
  | _ => seat

def run (id : SessionId) : Routing → List Step → Seat → Seat
  | _, [], seat => seat
  | s, step :: rest, seat =>
    run id (s.step step).1 rest (seat.step id (s.subscribedBy? id step) step)

end Seat

end FeedBridge
