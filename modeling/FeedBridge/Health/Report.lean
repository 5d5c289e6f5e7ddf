import FeedBridge.Bridge.Basic
import FeedBridge.Trading.Pipeline

namespace FeedBridge

inductive HealthError
  | bindFailed (port : Nat) (reason : String)
  | serverFailed (reason : String)
deriving DecidableEq

def HealthError.message : HealthError → String
  | bindFailed port reason =>
    "failed to bind to port " ++ String.ofList (decimalDigits port) ++ ": " ++ reason
  | serverFailed reason => "server error: " ++ reason

inductive HealthStatus
  | healthy
  | degraded
  | unhealthy
deriving DecidableEq

namespace HealthStatus

def name : HealthStatus → String
  | healthy => "healthy"
  | degraded => "degraded"
  | unhealthy => "unhealthy"

def of (uplink : UplinkState) (pipelineRunning : Bool) : HealthStatus :=
  if !pipelineRunning then unhealthy
  else if uplink = .open then healthy
  else degraded

end HealthStatus

structure Health where
  version : String
  uplink : UplinkState
  liveSessions : Nat
  entries : Nat
  pipeline : Trading.Pipeline

namespace Health

def status (h : Health) : HealthStatus := .of h.uplink h.pipeline.isRunning

def report (h : Health) : Json :=
  .ofMembers [
    ("status", .string h.status.name), ("version", .string h.version),
    ("upstream", .ofMembers [("state", .string h.uplink.name),
      ("connected", .bool (h.uplink = .open))]),
    ("live_sessions", .nat h.liveSessions), ("subscription_entries", .nat h.entries),
    ("pipeline", .ofMembers [("running", .bool h.pipeline.isRunning),
      ("queue_depth", .int h.pipeline.counters.depth),
      ("succeeded", .nat h.pipeline.counters.succeeded),
      ("failed", .nat h.pipeline.counters.failed)])]

inductive Page
  | report
  | liveness
  | readiness
  | metrics
deriving DecidableEq

def page? (path : String) : Option Page :=
  match String.ofList (path.toList.takeWhile (· != '?')) with
  | "/health" => some .report
  | "/healthz" => some .liveness
  | "/readyz" => some .readiness
  | "/metrics" => some .metrics
  | _ => none

inductive Body
  | none
  | text (text : String)
  | report (value : Json)
  | metrics

structure Response where
  status : Nat
  contentType : Option String := .none
  body : Body := .none

def plainText : String := "text/plain; charset=utf-8"

def respond (h : Health) : Page → Response
  | .report =>
    { status := if h.status = .unhealthy then 503 else 200
      contentType := some "application/json"
      body := .report h.report }
  | .liveness => { status := 200, contentType := some plainText, body := .text "OK" }
  | .readiness =>
    if h.uplink = .open then { status := 200, contentType := some plainText, body := .text "READY" }
    else { status := 503, contentType := some plainText, body := .text "NOT READY" }
  | .metrics =>
    { status := 200
      contentType := some "text/plain; version=0.0.4; charset=utf-8"
      body := .metrics }

/-- The response to a method and a path. Reading the head of a page gives no body. -/
def serve (h : Health) (method path : String) : Response :=
  match page? path with
  | none => { status := 404 }
  | some page =>
    if method = "GET" then h.respond page
    else if method = "HEAD" then { h.respond page with body := .none }
    else { status := 405 }

end Health

end FeedBridge
