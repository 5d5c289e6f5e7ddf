import FeedBridge.Client.Outbox
import FeedBridge.Rpc.Request
import FeedBridge.Trading.Call
import FeedBridge.Trading.Token

/-!
# The request pipeline

Callers put calls into a bounded queue; one worker takes them out in order, keeps a token, posts
each call and settles its ticket. Submitting and working are each made of small sections, between
which the sections of other callers may run:

* a caller takes a share of the sender, raises the depth counter, offers the call, and then
  either lowers the counter again or counts the submission;
* the worker receives a call, lowers the counter, posts for a token if its own is due, posts the
  call, and settles it.

`submit` and `take` are these sections in a row, for a caller and a worker that nobody interrupts.
The pipeline does not know who waits for a ticket.
-/

namespace FeedBridge.Trading

structure Job where
  ticket : Nat
  call : Call

inductive Stage
  | ready
  -- a call is out of the queue and not yet out of the depth counter
  | received (job : Job)
  | dispatching (job : Job)
  -- a token is asked for, on behalf of a call
  | authenticating (job : Job)
  | calling (job : Job)
  -- all is done and no sender is left
  | finished
  -- the worker broke down
  | crashed

def Stage.job? : Stage → Option Job
  | received job | dispatching job | authenticating job | calling job => some job
  | ready | finished | crashed => none

/-- Counts of requests. The depth is raised before a call is queued and lowered after it is taken
out, each by a step of its own; a count below zero would show. -/
structure Counters where
  submitted : Nat := 0
  succeeded : Nat := 0
  failed : Nat := 0
  reauthentications : Nat := 0
  depth : Int := 0
deriving DecidableEq

structure Pipeline where
  credentials : Credentials
  capacity : Nat
  token : Token
  nextId : UInt64
  accepting : Bool := true
  shares : Nat := 0
  waiting : List Job := []
  nextTicket : Nat := 0
  stage : Stage := .ready
  settled : List (Nat × Result) := []
  posts : List Post := []
  counters : Counters := {}
  metrics : PipelineMetrics := {}

def tokenPost (credentials : Credentials) (id : UInt64) : Post where
  path := apiPath
  bearer := none
  body := (Rpc.Request.mk id "public/auth" (.ofMembers credentials.grantParams)).toJson

def callPost (call : Call) (id : UInt64) (accessToken : String) : Post where
  path := methodPath call.method
  bearer := some accessToken
  body := (Rpc.Request.mk id call.method call.params).toJson

def tokenOfReply (reply : Reply) (now : Instant) : Except AuthError Token :=
  match reply with
  | .error failure => .error (.transport failure.message)
  | .ok answer =>
    match answer.get? "result" with
    | none => .error (.rejected answer.text)
    | some result =>
      match Grant.ofJson result with
      | .ok grant => .ok (.ofGrant grant now)
      | .error cause => .error (.rejected (cause.message ++ ": " ++ answer.text))

namespace Pipeline

/-- Start with the answer to a first request for a token, which was posted under the number
`seed`. Room for no call counts as room for one. -/
def start (credentials : Credentials) (capacity : Nat) (seed : UInt64) (reply : Reply)
    (now : Instant) : Except RequestError Pipeline :=
  match tokenOfReply reply now with
  | .error cause => .error (.authentication cause)
  | .ok token => .ok {
      credentials, token
      capacity := max capacity 1
      nextId := seed + 1
      posts := [tokenPost credentials seed] }

/-! ## Submitting, section by section -/

def setDepth (p : Pipeline) (depth : Int) : Pipeline :=
  { p with counters := { p.counters with depth } }

def publishDepth (p : Pipeline) : Pipeline :=
  { p with metrics := { p.metrics with queueDepth := p.counters.depth.toNat } }

def takeShare? (p : Pipeline) : Option Pipeline :=
  if p.accepting then some { p with shares := p.shares + 1 } else none

def returnShare (p : Pipeline) : Pipeline := { p with shares := p.shares - 1 }

def announce (p : Pipeline) : Pipeline := p.setDepth (p.counters.depth + 1)

def withdraw (p : Pipeline) : Pipeline := p.setDepth (p.counters.depth - 1)

def hasReceiver (p : Pipeline) : Bool :=
  match p.stage with
  | .finished | .crashed => false
  | _ => true

def answer (p : Pipeline) : Offer :=
  if !p.hasReceiver then .closed
  else if p.waiting.length < p.capacity then .accepted
  else .full

def enqueue (p : Pipeline) (call : Call) : Pipeline :=
  { p with waiting := p.waiting ++ [⟨p.nextTicket, call⟩], nextTicket := p.nextTicket + 1 }

def countSubmission (p : Pipeline) : Pipeline :=
  { p with counters := { p.counters with submitted := p.counters.submitted + 1 } }.publishDepth

/-- Submit a call without interruption; the result is its ticket. -/
def submit (p : Pipeline) (call : Call) : Pipeline × Except RequestError Nat :=
  match p.takeShare? with
  | none => (p, .error .queueClosed)
  | some shared =>
    let announced := shared.announce
    match announced.answer with
    | .accepted =>
      ((announced.enqueue call).countSubmission.returnShare, .ok announced.nextTicket)
    | .full => (announced.withdraw.returnShare, .error .queueFull)
    | .closed => (announced.withdraw.returnShare, .error .queueClosed)

def request (p : Pipeline) (operation : Operation) : Pipeline × Except RequestError Nat :=
  match operation.call with
  | .error cause => (p, .error (.invalidArgument cause))
  | .ok call => p.submit call

def isRunning (p : Pipeline) : Bool := p.accepting

def close (p : Pipeline) : Pipeline := { p with accepting := false }

/-! ## Working, section by section -/

def receive (p : Pipeline) : Pipeline :=
  match p.stage, p.waiting with
  | .ready, job :: rest => { p with stage := .received job, waiting := rest }
  | .ready, [] => if !p.accepting && p.shares = 0 then { p with stage := .finished } else p
  | _, _ => p

def discount (p : Pipeline) : Pipeline :=
  match p.stage with
  | .received job =>
    { p.setDepth (p.counters.depth - 1) with stage := .dispatching job }.publishDepth
  | _ => p

def postToken (p : Pipeline) (job : Job) : Pipeline :=
  { p with
    stage := .authenticating job
    nextId := p.nextId + 1
    posts := p.posts ++ [tokenPost p.credentials p.nextId] }

def postCall (p : Pipeline) (job : Job) : Pipeline :=
  { p with
    stage := .calling job
    nextId := p.nextId + 1
    posts := p.posts ++ [callPost job.call p.nextId p.token.accessToken] }

def dispatch (p : Pipeline) (now : Instant) : Pipeline :=
  match p.stage with
  | .dispatching job => if p.token.needsRefresh now then p.postToken job else p.postCall job
  | _ => p

def countResult (p : Pipeline) (result : Result) : Pipeline :=
  let counters := p.counters
  let counters :=
    match result with
    | .ok _ => { counters with succeeded := counters.succeeded + 1 }
    | .error _ => { counters with failed := counters.failed + 1 }
  { p with counters, metrics := p.metrics.recordRequest (outcomeOf result) }

def settle (p : Pipeline) (job : Job) (result : Result) : Pipeline :=
  { p.countResult result with
    stage := .ready, settled := p.settled ++ [(job.ticket, result)] }

def renew (p : Pipeline) (token : Token) : Pipeline :=
  { p with
    token
    counters :=
      { p.counters with reauthentications := p.counters.reauthentications + 1 }
    metrics :=
      { p.metrics with reauthentications := p.metrics.reauthentications + 1 } }

def reply (p : Pipeline) (reply : Reply) (now : Instant) : Pipeline :=
  match p.stage with
  | .authenticating job =>
    match tokenOfReply reply now with
    | .ok token => (p.renew token).postCall job
    | .error cause => p.settle job (.error (.authentication cause))
  | .calling job => p.settle job (resultOfReply reply)
  | _ => p

/-- The worker breaks down: what it has in hand and what waits is never answered. -/
def crash (p : Pipeline) : Pipeline :=
  let lost := p.stage.job?.toList ++ p.waiting
  { p with
    stage := .crashed
    waiting := []
    settled := p.settled ++ lost.map fun job => (job.ticket, .error .dropped) }

def take (p : Pipeline) (now : Instant) : Pipeline := p.receive.discount.dispatch now

def result? (p : Pipeline) (ticket : Nat) : Option Result := p.settled.lookup ticket

end Pipeline

end FeedBridge.Trading
