import FeedBridge.Settings.EnvFile

namespace FeedBridge

structure TelemetrySettings where
  enabled : Bool := false
  endpoint : String := "http://localhost:4317"
  serviceName : String := "deribit-bridge"
deriving DecidableEq

namespace TelemetrySettings

def saysTrue (s : String) : Bool := s.toList.map Char.toLower = ['t', 'r', 'u', 'e']

def ofLookup (lookup : Lookup) : TelemetrySettings :=
  let defaults : TelemetrySettings := {}
  { enabled := (lookup "OTEL_ENABLED").any saysTrue
    endpoint := (lookup "OTEL_EXPORTER_OTLP_ENDPOINT").getD defaults.endpoint
    serviceName := (lookup "OTEL_SERVICE_NAME").getD defaults.serviceName }

end TelemetrySettings

end FeedBridge
