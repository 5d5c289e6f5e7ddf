import FeedBridge.Client.RosterStep
import FeedBridge.Feed.Router

namespace FeedBridge

structure Link where
  isOpen : Bool := true
  nextFailure : Option UplinkError := none
  sent : List String := []

namespace Link

def send (l : Link) (text : String) : Link × Except UplinkError Unit :=
  match l.nextFailure with
  | some cause => ({ l with nextFailure := none }, .error cause)
  | none => ({ l with sent := l.sent ++ [text] }, .ok ())

end Link

structure Routing where
  router : Router := {}
  link : Link := {}

namespace Routing

def subscribe (s : Routing) (session : SessionId) (topic : Topic) :
    Routing × Except RouteError Unit :=
  match s.router.beginSubscribe s.link.isOpen topic with
  | .error cause => (s, .error cause)
  | .ok (text, reserved) =>
    let (link, written) := s.link.send text
    let (router, result) := reserved.finishSubscribe topic session written
    ({ router, link }, result)

def clientText (s : Routing) (session : SessionId) (text : String) : Routing :=
  match ClientRequest.parse text with
  | .ok topic => (s.subscribe session topic).1
  | .error _ => s

inductive Step
  | setOpen (isOpen : Bool)
  | failNextSend (cause : UplinkError)
  | connect (session : Session)
  | disconnect (session : SessionId)
  -- a session is unregistered and nothing else
  | vanish (session : SessionId)
  | dropWriter (session : SessionId)
  | take (session : SessionId) (limit : Option Nat)
  | clientText (session : SessionId) (text : String)
  | clientError
  | subscribe (session : SessionId) (topic : Topic)
  -- a subscription appears that was never asked for
  | addEntry (session : SessionId) (topic : Topic)
  | exchangeText (text : String)
  | exchangeOpen
  | exchangeClose
  | exchangeError
  | route (channel : String) (data : Json)
  | halt

inductive Response
  | done
  | subscribed
  | refused (cause : RouteError)
  | delivered (count : Nat)
  | queue (response : Roster.Response)

def onRouter (s : Routing) (change : Router → Router) : Routing :=
  { s with router := change s.router }

def rosterStep (s : Routing) (step : Roster.Step) : Routing × Roster.Response :=
  let (roster, response) := s.router.roster.step step
  (s.onRouter fun r => { r with roster }, response)

def step (s : Routing) : Step → Routing × Response
  | .setOpen isOpen => ({ s with link := { s.link with isOpen } }, .done)
  | .failNextSend cause => ({ s with link := { s.link with nextFailure := some cause } }, .done)
  | .connect session => ((s.rosterStep (.enroll session)).1, .done)
  | .disconnect session => (s.onRouter (·.leave session), .done)
  | .vanish session => (s.onRouter (·.onRoster (·.unregister session)), .done)
  | .dropWriter session =>
    let (after, response) := s.rosterStep (.dropWriter session)
    (after, .queue response)
  | .take session limit =>
    let (after, response) := s.rosterStep (.take session limit)
    (after, .queue response)
  | .clientText session text => (s.clientText session text, .done)
  | .clientError | .exchangeOpen | .exchangeError => (s, .done)
  | .subscribe session topic =>
    match s.subscribe session topic with
    | (after, .ok ()) => (after, .subscribed)
    | (after, .error cause) => (after, .refused cause)
  | .addEntry session topic =>
    (s.onRouter fun r => { r with entries := r.entries.add topic session }, .done)
  | .exchangeText text => (s.onRouter (·.exchangeText text), .done)
  | .exchangeClose | .halt => (s.onRouter (·.halt), .done)
  | .route channel data =>
    let (router, delivered) := s.router.route channel data
    ({ s with router }, .delivered delivered)

def sentBetween (before after : Routing) : List String :=
  after.link.sent.drop before.link.sent.length

def run (s : Routing) (steps : List Step) : Routing :=
  steps.foldl (fun state step => (state.step step).1) s

end Routing

end FeedBridge
