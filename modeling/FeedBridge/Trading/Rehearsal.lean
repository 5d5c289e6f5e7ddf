import FeedBridge.Trading.Pipeline

/-!
# Rehearsals

A pipeline against a script of answers, in a time that stands still except while somebody waits.
While a step waits, time jumps from one event to the next: the moment of a delayed answer, or the
end of the waiting. At every such moment the worker goes on as far as it can without time passing.
-/

namespace FeedBridge.Trading

inductive Ending
  | reply (reply : Reply)
  | crash

structure Planned where
  ending : Ending
  delay : Nat := 0

def numberedGrant (number : Nat) : Json :=
  .ofMembers [("result", .ofMembers [
    ("access_token", .string ("token-" ++ String.ofList (decimalDigits number))),
    ("refresh_token", .string "refresh"), ("expires_in", .nat 900)])]

structure Script where
  inOrder : List Planned := []
  grants : List Planned := []
  answers : List Planned := []
  defaultGrants : Nat := 0
  defaultGrant : Nat → Json := numberedGrant

namespace Script

def defaultAnswer (post : Post) : Json :=
  .ofMembers [("result", .ofMembers [("method", (post.body.get? "method").getD .null)])]

def nextGrant (s : Script) : Planned × Script :=
  match s.grants with
  | planned :: rest => (planned, { s with grants := rest })
  | [] =>
    let number := s.defaultGrants + 1
    ({ ending := .reply (.ok (s.defaultGrant number)) }, { s with defaultGrants := number })

def nextAnswer (s : Script) (post : Post) : Planned × Script :=
  match s.answers with
  | planned :: rest => (planned, { s with answers := rest })
  | [] => ({ ending := .reply (.ok (defaultAnswer post)) }, s)

def next (s : Script) (post : Post) : Planned × Script :=
  match s.inOrder with
  | planned :: rest => (planned, { s with inOrder := rest })
  | [] => if post.bearer.isNone then s.nextGrant else s.nextAnswer post

end Script

structure Rehearsal where
  pipeline : Pipeline
  script : Script
  now : Nat
  due : Option (Nat × Ending) := none
  released : List Nat := []

def momentOfMillis (millis : Nat) : Instant := (millis * tenTo 6 : Nat)

namespace Rehearsal

inductive Obstacle
  | credentials (cause : AuthError)
  | token (cause : RequestError) (post : Post) (now : Nat)

def begin (key secret : String) (capacity : Nat) (script : Script) :
    Except Obstacle Rehearsal :=
  match Credentials.ofTexts key secret with
  | .error cause => .error (.credentials cause)
  | .ok credentials =>
    let post := tokenPost credentials 0
    let (planned, script) := script.next post
    let started :=
      match planned.ending with
      | .reply reply =>
        Pipeline.start credentials capacity 0 reply (momentOfMillis planned.delay)
      | .crash => .error .dropped
    match started with
    | .ok pipeline => .ok { pipeline, script, now := planned.delay }
    | .error cause => .error (.token cause post planned.delay)

def await (r : Rehearsal) : Rehearsal :=
  match r.pipeline.stage, r.pipeline.posts.getLast? with
  | .authenticating _, some post | .calling _, some post =>
    let (planned, script) := r.script.next post
    { r with script, due := some (r.now + planned.delay, planned.ending) }
  | _, _ => { r with due := none }

def move? (r : Rehearsal) : Option Rehearsal :=
  match r.due with
  | some (moment, ending) =>
    if moment ≤ r.now then
      match ending with
      | .reply reply =>
        some { r with pipeline := r.pipeline.reply reply (momentOfMillis r.now) }.await
      | .crash => some { r with pipeline := r.pipeline.crash, due := none }
    else none
  | none =>
    match r.pipeline.stage with
    | .ready =>
      if r.pipeline.waiting.isEmpty && r.pipeline.accepting then none
      else some { r with pipeline := r.pipeline.take (momentOfMillis r.now) }.await
    | _ => none

def moves : Nat → Rehearsal → Rehearsal
  | 0, r => r
  | fuel + 1, r =>
    match r.move? with
    | some next => moves fuel next
    | none => r

def movesLeft (r : Rehearsal) : Nat := 3 * (r.pipeline.waiting.length + 1) + 1

def settle (r : Rehearsal) : Rehearsal := moves r.movesLeft r

def stopAt (r : Rehearsal) (moment : Nat) : Rehearsal := { r with now := moment }.settle

/-- Wait until something happens, or until a deadline. An answer that is due at the deadline
comes after it. -/
def waitFrom (happened : Rehearsal → Bool) (deadline : Option Nat) : Nat → Rehearsal → Rehearsal
  | 0, r => r
  | fuel + 1, r =>
    let r := r.settle
    if happened r then r
    else
      match r.due, deadline with
      | some (moment, _), some deadline =>
        if deadline ≤ moment then r.stopAt deadline
        else waitFrom happened (some deadline) fuel { r with now := moment }
      | some (moment, _), none => waitFrom happened none fuel { r with now := moment }
      | none, some deadline => r.stopAt deadline
      | none, none => r

def waitUntil (r : Rehearsal) (happened : Rehearsal → Bool) (deadline : Option Nat) : Rehearsal :=
  waitFrom happened deadline r.movesLeft r

inductive Step
  | request (operation : Operation)
  | wait (ticket : Nat)
  | waitTimeout (ticket millis : Nat)
  | release (ticket : Nat)
  | sleep (millis : Nat)
  | yield
  | shutdown

inductive Response
  | ticket (number : Nat)
  | result (result : Result)
  | released
  | noSuchTicket
  | slept
  | yielded
  | stopped

def holds (r : Rehearsal) (ticket : Nat) : Bool :=
  ticket < r.pipeline.nextTicket && !r.released.contains ticket

def isSettled (ticket : Nat) (r : Rehearsal) : Bool := (r.pipeline.result? ticket).isSome

def release (r : Rehearsal) (ticket : Nat) : Rehearsal :=
  { r with released := ticket :: r.released }

def resultOr (r : Rehearsal) (ticket : Nat) (error : RequestError) : Response :=
  .result ((r.pipeline.result? ticket).getD (.error error))

/-- Wait for a ticket for a limited time. Without any time the ticket must be settled already. -/
def waitTimeout (r : Rehearsal) (ticket millis : Nat) : Rehearsal × Response :=
  let timeout := RequestError.timeout (Span.ofMillis millis)
  if millis = 0 || isSettled ticket r then (r.settle, r.resultOr ticket timeout)
  else
    let deadline := r.now + millis
    let waited := r.waitUntil (isSettled ticket) (some deadline)
    -- A ticket settled at the deadline is settled too late.
    if waited.now = deadline then (waited, .result (.error timeout))
    else (waited, waited.resultOr ticket timeout)

def step (r : Rehearsal) : Step → Rehearsal × Response
  | .request operation =>
    match r.pipeline.request operation with
    | (pipeline, .ok ticket) => ({ r with pipeline }, .ticket ticket)
    | (pipeline, .error cause) => ({ r with pipeline }, .result (.error cause))
  | .wait ticket =>
    if !r.holds ticket then (r, .noSuchTicket)
    else
      let waited := r.waitUntil (isSettled ticket) none
      (waited.release ticket, waited.resultOr ticket .dropped)
  | .waitTimeout ticket millis =>
    if !r.holds ticket then (r, .noSuchTicket)
    else
      let (waited, response) := r.waitTimeout ticket millis
      (waited.release ticket, response)
  | .release ticket =>
    if !r.holds ticket then (r, .noSuchTicket) else (r.release ticket, .released)
  | .sleep millis => (r.waitUntil (fun _ => false) (some (r.now + millis)), .slept)
  | .yield => (r.settle, .yielded)
  | .shutdown =>
    let closed := { r with pipeline := r.pipeline.close }
    (closed.waitUntil (fun r => !r.pipeline.hasReceiver) none, .stopped)

structure Report where
  response : Response
  posts : List Post
  now : Nat
  running : Bool
  counters : Counters

def report (before after : Rehearsal) (response : Response) : Report where
  response
  posts := after.pipeline.posts.drop before.pipeline.posts.length
  now := after.now
  running := after.pipeline.isRunning
  counters := after.pipeline.counters

def run (r : Rehearsal) : List Step → List Report × Rehearsal
  | [] => ([], r)
  | s :: rest =>
    let (after, response) := r.step s
    let (reports, last) := run after rest
    (report r after response :: reports, last)

end Rehearsal

end FeedBridge.Trading
