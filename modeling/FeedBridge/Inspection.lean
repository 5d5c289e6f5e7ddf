import FeedBridge.Client.Frame
import FeedBridge.Console.Command
import FeedBridge.Feed.Subscriptions
import FeedBridge.Metrics
import FeedBridge.Rpc.Inbound
import FeedBridge.Settings.Telemetry
import FeedBridge.Trading.Pipeline

namespace FeedBridge

def Json.ofOption {α : Type} (encode : α → Json) : Option α → Json
  | some a => encode a
  | none => null

def Json.named (kind name : String) (members : List (String × Json)) : Json :=
  ofMembers ((kind, string name) :: members)

def Topic.toJson (topic : Topic) : Json :=
  .ofMembers [("kind", .string topic.kind.name), ("symbol", .string topic.symbol)]

def SessionId.toJson (id : SessionId) : Json := .nat id.raw.toNat

def Subscription.toJson (entry : Subscription) : Json :=
  .array [.string entry.topic.kind.name, .string entry.topic.symbol, entry.session.toJson]

def Subscriptions.toJson (entries : Subscriptions) : Json :=
  .array (entries.map Subscription.toJson)

def Frame.toJson : Frame → Json
  | text payload => .ofMembers [("text", .string payload)]
  | binary payload => .ofMembers [("binary", .string (Text.Hex.ofBytes payload.data.toList))]
  | close none => .ofMembers [("close", .null)]
  | close (some reason) =>
    .ofMembers [("close", .nat reason.code.toNat), ("reason", .string reason.reason)]

def Metrics.toJson (m : Metrics) : Json :=
  let series := m.series.filter fun entry => entry.2 != 0
  .ofMembers (series.map fun (name, value) => (name, .nat value))

def Rpc.Refusal.toJson (r : Refusal) : Json :=
  .ofMembers [("code", .int r.code), ("message", .string r.message), ("display", .string r.text)]

def Rpc.Inbound.toJson : Inbound → Json
  | ack id refusal =>
    .named "type" "ack" [("id", .string id.text),
      ("rpc_error", .ofOption Refusal.toJson refusal)]
  | event channel data =>
    .named "type" "event" [("channel", .string channel), ("data", .string data.text)]
  | other value => .named "type" "other" [("value", .string value.text)]

def Console.Command.toJson (command : Command) : Json :=
  let say := Json.named "command"
  let text := Json.string
  let number := fun (d : Decimal) => Json.string d.text
  match command with
  | connect => say "connect" []
  | order side type amount price =>
    say "order" [("side", text side), ("type", text type), ("amount", number amount),
      ("price", .ofOption number price)]
  | cancel orderId => say "cancel" [("order_id", text orderId)]
  | modify orderId price amount =>
    say "modify" [("order_id", text orderId), ("price", number price), ("amount", number amount)]
  | orders => say "orders" []
  | state orderId => say "state" [("order_id", text orderId)]
  | orderbook name => say "orderbook" [("instrument", .ofOption text name)]
  | positions currency => say "positions" [("currency", .ofOption text currency)]
  | instruments currency kind =>
    say "instruments" [("currency", .ofOption text currency), ("kind", .ofOption text kind)]
  | instrument name => say "instrument" [("instrument", .ofOption text name)]
  | help => say "help" []
  | quit => say "quit" []
  | raw line => say "raw" [("text", text line)]
  | empty => say "empty" []

namespace Trading

def Side.toJson (side : Side) : Json :=
  .ofMembers [("side", .string side.name), ("method", .string side.method)]

def OrderType.toJson (type : OrderType) : Json :=
  .ofMembers [("type", .string type.name), ("display", .string type.name),
    ("has_limit_price", .bool type.hasLimit), ("is_stop", .bool type.isStop)]

def Order.toJson (o : Order) : Json :=
  .ofMembers [("method", .string o.side.method), ("side", .string o.side.name),
    ("params", .string (Json.recordText o.params))]

def Post.toJson (p : Post) : Json :=
  .ofMembers [("path", .string p.path), ("bearer", .ofOption .string p.bearer),
    ("body", .string p.body.text)]

def Counters.toJson (c : Counters) : Json :=
  .array [.nat c.submitted, .nat c.succeeded, .nat c.failed, .nat c.reauthentications,
    .int c.depth]

end Trading

def TelemetrySettings.toJson (t : TelemetrySettings) : Json :=
  .ofMembers [("enabled", .bool t.enabled), ("otlp_endpoint", .string t.endpoint),
    ("service_name", .string t.serviceName)]

end FeedBridge
