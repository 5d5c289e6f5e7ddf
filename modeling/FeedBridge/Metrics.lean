import FeedBridge.Number.Binary64

namespace FeedBridge

structure UplinkMetrics where
  frames : Nat := 0
  connected : Bool := false
deriving DecidableEq

structure RoutingMetrics where
  messagesDropped : Nat := 0
  eventsRouted : Nat := 0
  liveSessions : Nat := 0
  subscriptionEntries : Nat := 0
deriving DecidableEq

inductive Outcome
  | success
  | rejected
  | failed
deriving DecidableEq

def Outcome.name : Outcome → String
  | success => "success"
  | rejected => "rejected"
  | failed => "failed"

structure PerOutcome where
  success : Nat := 0
  rejected : Nat := 0
  failed : Nat := 0
deriving DecidableEq

namespace PerOutcome

def get (counts : PerOutcome) : Outcome → Nat
  | .success => counts.success
  | .rejected => counts.rejected
  | .failed => counts.failed

def bump (counts : PerOutcome) : Outcome → PerOutcome
  | .success => { counts with success := counts.success + 1 }
  | .rejected => { counts with rejected := counts.rejected + 1 }
  | .failed => { counts with failed := counts.failed + 1 }

end PerOutcome

structure PipelineMetrics where
  requests : PerOutcome := {}
  timings : PerOutcome := {}
  reauthentications : Nat := 0
  queueDepth : Nat := 0
deriving DecidableEq

def PipelineMetrics.recordRequest (m : PipelineMetrics) (outcome : Outcome) : PipelineMetrics :=
  { m with requests := m.requests.bump outcome, timings := m.timings.bump outcome }

structure Metrics where
  uplink : UplinkMetrics := {}
  routing : RoutingMetrics := {}
  pipeline : PipelineMetrics := {}
deriving DecidableEq

namespace Metrics

/-- A gauge holds a double, so counts above `2 ^ 53` lose their last bits. -/
def gauge (count : Nat) : Nat :=
  match Binary64.ofNat count with
  | some x => x.ratio.1 / x.ratio.2
  | none => count

def outcomeSeries (name : String) (counts : PerOutcome) : List (String × Nat) :=
  [Outcome.success, .rejected, .failed].map fun outcome =>
    (name ++ "\x7boutcome=\"" ++ outcome.name ++ "\"\x7d", counts.get outcome)

def series (m : Metrics) : List (String × Nat) :=
  [("upstream_frames_total", m.uplink.frames),
    ("upstream_connected", if m.uplink.connected then 1 else 0),
    ("session_messages_dropped_total", m.routing.messagesDropped),
    ("events_routed_total", m.routing.eventsRouted),
    ("live_sessions", gauge m.routing.liveSessions),
    ("subscription_entries", gauge m.routing.subscriptionEntries),
    ("pipeline_reauthentications_total", m.pipeline.reauthentications),
    ("pipeline_queue_depth", gauge m.pipeline.queueDepth)] ++
    outcomeSeries "pipeline_requests_total" m.pipeline.requests ++
    outcomeSeries "pipeline_request_seconds_count" m.pipeline.timings

end Metrics

end FeedBridge
