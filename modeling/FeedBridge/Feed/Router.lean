import FeedBridge.Client.Roster
import FeedBridge.Feed.ClientRequest
import FeedBridge.Feed.Subscriptions
import FeedBridge.Rpc.Inbound
import FeedBridge.Rpc.Request
import FeedBridge.Uplink.Basic

/-!
# The router

The router stands between the connection to the exchange and the client sessions. It turns client
requests into subscribe requests, remembers who wants what, and hands out events.

A subscription is made in two sections with the write to the exchange between them: a number is
reserved for the request, and once the request is written the subscription is recorded. Routing an
event first forgets the subscriptions of sessions that are gone.
-/

namespace FeedBridge

inductive RouteError
  | notConnected
  | encode (reason : String)
  | uplink (cause : UplinkError)
deriving DecidableEq

def RouteError.message : RouteError → String
  | notConnected => "cannot subscribe, not connected to Deribit"
  | encode reason => "failed to encode subscribe request: " ++ reason
  | uplink cause => cause.message

structure Router where
  interval : String := Topic.defaultInterval
  nextId : UInt64 := 1
  entries : Subscriptions := []
  running : Bool := true
  roster : Roster := {}

namespace Router

def scope : FeedKind → Rpc.Scope
  | .orderbook => .public
  | .position => .private

def subscribeText (interval : String) (topic : Topic) (id : UInt64) : String :=
  (Rpc.subscribe (scope topic.kind) id [topic.channel interval]).text

def reserve (r : Router) (topic : Topic) : String × Router :=
  (subscribeText r.interval topic r.nextId, { r with nextId := r.nextId + 1 })

def setEntries (r : Router) (entries : Subscriptions) : Router :=
  { r with
    entries
    roster :=
      { r.roster with metrics := { r.roster.metrics with subscriptionEntries := entries.length } } }

def record (r : Router) (topic : Topic) (session : SessionId) : Router :=
  r.setEntries (r.entries.add topic session)

/-- Begin to subscribe: without a connection nothing happens, and otherwise a request is to be
written. -/
def beginSubscribe (r : Router) (isOpen : Bool) (topic : Topic) :
    Except RouteError (String × Router) :=
  if isOpen then .ok (r.reserve topic) else .error .notConnected

def finishSubscribe (r : Router) (topic : Topic) (session : SessionId)
    (written : Except UplinkError Unit) : Router × Except RouteError Unit :=
  match written with
  | .ok () => (r.record topic session, .ok ())
  | .error cause => (r, .error (.uplink cause))

/-- Forget the subscriptions of sessions that are not registered. The gauge is set only if there
are any. -/
def purge (r : Router) : Router :=
  let live := r.entries.purge r.roster.isLive
  if live.length < r.entries.length then r.setEntries live else r

def deliverAll (roster : Roster) (payload : String) : List SessionId → Roster × Nat
  | [] => (roster, 0)
  | id :: rest =>
    let (after, taken) := deliverAll (roster.deliver id payload) payload rest
    (after, taken + if roster.accepts id then 1 else 0)

def fanOut (r : Router) (topic : Topic) (payload : String) : Router × Nat :=
  match r.entries.matching topic with
  | [] => (r, 0)
  | recipients =>
    let (roster, delivered) := deliverAll r.roster payload recipients
    let routed := roster.metrics.eventsRouted + delivered
    ({ r with roster := { roster with metrics := { roster.metrics with eventsRouted := routed } } },
      delivered)

def route (r : Router) (channel : String) (data : Json) : Router × Nat :=
  match Topic.ofChannel? channel with
  | none => (r, 0)
  | some topic => r.purge.fanOut topic data.text

def exchangeText (r : Router) (text : String) : Router :=
  match Rpc.Inbound.decode text with
  | .ok (.event channel data) => (r.route channel data).1
  | _ => r

def halt (r : Router) : Router := { r with running := false }

def forget (r : Router) (session : SessionId) : Router :=
  r.setEntries (r.entries.removeSession session)

def onRoster (r : Router) (change : Roster → Roster) : Router :=
  { r with roster := change r.roster }

/-- A session leaves: it is unregistered, and its subscriptions are forgotten. -/
def leave (r : Router) (session : SessionId) : Router :=
  (r.onRoster (·.unregister session)).forget session

end Router

end FeedBridge
