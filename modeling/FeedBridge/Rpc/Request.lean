import FeedBridge.Json.Writer

namespace FeedBridge.Rpc

structure Request where
  id : UInt64
  method : String
  params : Json

namespace Request

def version : String := "2.0"

def members (r : Request) : List (String × Json) :=
  [("jsonrpc", .string version), ("id", .nat r.id.toNat), ("method", .string r.method),
    ("params", r.params)]

def text (r : Request) : String := Json.recordText r.members

def toJson (r : Request) : Json := .ofMembers r.members

end Request

inductive Scope
  | «public»
  | «private»
deriving DecidableEq

def Scope.method : Scope → String
  | .public => "public/subscribe"
  | .private => "private/subscribe"

def subscribe (scope : Scope) (id : UInt64) (channels : List String) : Request :=
  ⟨id, scope.method, .object [("channels", .array (channels.map .string))]⟩

end FeedBridge.Rpc
