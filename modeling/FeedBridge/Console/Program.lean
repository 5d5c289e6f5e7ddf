import FeedBridge.Console.Desk
import FeedBridge.Settings.Telemetry
import FeedBridge.Trading.Http

namespace FeedBridge.Console

structure Surroundings where
  process : Lookup
  places : List EnvFile.Place
  lines : List String
  network : Network
  exchangePeer : Peer := .refusing
  script : Trading.Script := {}

structure Finish where
  exitCode : Nat
  printed : List Printed
  posts : List Trading.Post

/-- The causes of an error, each on a line; several are numbered. -/
def causeLines : List String → List String
  | [] => []
  | [cause] => ["", "Caused by:", "    " ++ cause]
  | causes =>
    ["", "Caused by:"] ++ causes.zipIdx.map fun (cause, i) =>
      "    " ++ String.ofList (decimalDigits i) ++ ": " ++ cause

def failure (printed : List Printed) (posts : List Trading.Post) (message : String)
    (causes : List String) : Finish where
  exitCode := 1
  printed := printed ++
    [.err (String.intercalate "\n" (("Error: " ++ message) :: causeLines causes))]
  posts

def causesOf : Trading.RequestError → List String
  | .authentication cause => [(Trading.RequestError.authentication cause).message, cause.message]
  | cause => [cause.message]

def telemetryWarning (settings : TelemetrySettings) : List Printed :=
  if settings.enabled && settings.endpoint.toList.any Text.isBlank then
    [.err ("OTLP exporter unavailable, continuing with console logs only: invalid URI " ++
      settings.endpoint ++ ". Reason invalid uri character")]
  else []

def runConsole (s : Surroundings) (settings : Settings) (trading : Trading.Rehearsal)
    (printed : List Printed) : Finish :=
  let bridge : Bridge :=
    { settings := settings.broker, router := { interval := settings.listen.bookInterval } }
  let exchange := settings.exchange
  let desk : Desk := {
    instrument := settings.defaultInstrument
    callTimeout := settings.requests.callTimeout
    endpoint := ⟨exchange.wsHost, exchange.wsPort, exchange.wsPath⟩
    connectTimeout := exchange.connectTimeout
    dial := s.network.dial s.exchangePeer
    bridge := (bridge.start (.ok ())).1
    trading, printed }
  let desk := (desk.connect.print (.out helpText)).work s.lines
  let (trading, _) := desk.trading.step .shutdown
  { exitCode := 0, printed := desk.printed, posts := trading.pipeline.posts }

def runSettings (s : Surroundings) (settings : Settings) (printed : List Printed) : Finish :=
  let started := Trading.Rehearsal.begin settings.credentials.key settings.credentials.secret
    settings.requests.queueCapacity s.script
  match started with
  | .ok trading => runConsole s settings trading printed
  | .error (.credentials cause) => failure printed [] cause.message []
  | .error (.token cause post _) =>
    failure printed [post] "trading API authentication failed" (causesOf cause)

def run (s : Surroundings) : Finish :=
  match Environment.load s.process s.places with
  | .error cause => failure [] [] (Settings.ofEnvironmentError cause).message []
  | .ok environment =>
    let printed := telemetryWarning (.ofLookup environment.get?)
    match Settings.ofLookup environment.get? with
    | .error cause => failure printed [] cause.message []
    | .ok settings => runSettings s settings printed

end FeedBridge.Console
