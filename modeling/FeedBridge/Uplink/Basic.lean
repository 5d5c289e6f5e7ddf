import FeedBridge.Client.Frame
import FeedBridge.Number.Span

namespace FeedBridge

inductive UplinkState
  | idle
  | connecting
  | open
  | closing
  | closed
deriving DecidableEq

namespace UplinkState

def name : UplinkState → String
  | idle => "idle"
  | connecting => "connecting"
  | .open => "open"
  | closing => "closing"
  | closed => "closed"

def all : List UplinkState := [idle, connecting, .open, closing, closed]

end UplinkState

structure Endpoint where
  host : String
  port : Nat
  path : String
deriving DecidableEq

namespace Endpoint

def rootedPath (e : Endpoint) : String :=
  if e.path.toList.head? = some '/' then e.path else "/" ++ e.path

def url (e : Endpoint) (secure : Bool) : String :=
  (if secure then "wss" else "ws") ++ "://" ++ e.host ++ ":" ++
    String.ofList (decimalDigits e.port) ++ e.rootedPath

end Endpoint

inductive UplinkError
  | notConnected
  | sendFailed (reason : String)
deriving DecidableEq

def UplinkError.message : UplinkError → String
  | notConnected => "upstream not connected"
  | sendFailed reason => "upstream send failed: " ++ reason

inductive ConnectionError
  | alreadyConnected
  | connectFailed (url reason : String)
  | connectTimeout (url : String) (after : Span)
  | notConnected
  | sendFailed (reason : String)
  | closeFailed (reason : String)
deriving DecidableEq

namespace ConnectionError

def message : ConnectionError → String
  | alreadyConnected => "already connected or connecting"
  | connectFailed url reason => "connection to " ++ url ++ " failed: " ++ reason
  | connectTimeout url after => "connection to " ++ url ++ " timed out after " ++ after.text
  | notConnected => "not connected"
  | sendFailed reason => "send failed: " ++ reason
  | closeFailed reason => "close failed: " ++ reason

def toUplinkError : ConnectionError → UplinkError
  | notConnected => .notConnected
  | other => .sendFailed other.message

end ConnectionError

inductive IoKind
  | unexpectedEof
  | connectionReset
  | connectionAborted
  | brokenPipe
  | interrupted
  | other
deriving DecidableEq

inductive SocketError
  | connectionClosed
  | alreadyClosed
  | resetWithoutClosingHandshake
  | io (kind : IoKind)
  | other
deriving DecidableEq

def SocketError.isNoise : SocketError → Bool
  | connectionClosed | alreadyClosed | resetWithoutClosingHandshake => true
  | io kind => kind != .other
  | other => false

inductive Incoming
  | message (frame : Frame)
  -- a ping or a pong
  | control
  | ended
  | failed (error : SocketError)
deriving DecidableEq

def Incoming.endsConnection : Incoming → Bool
  | message frame => frame.isClose
  | control => false
  | ended | failed _ => true

inductive Dial
  | accepted
  | failed (reason : String)
  | timedOut
deriving DecidableEq

inductive Peer
  | accepting
  | refusing
  -- somebody answers, but not with a WebSocket
  | unwilling
  | silent
deriving DecidableEq

inductive Network
  | up
  | down
deriving DecidableEq

def Network.dial (network : Network) (peer : Peer) : Dial :=
  match network, peer with
  | .down, _ => .failed "IO error: Network is unreachable (os error 101)"
  | .up, .accepting => .accepted
  | .up, .refusing => .failed "IO error: Connection refused (os error 111)"
  | .up, .unwilling => .failed "HTTP error: 503 Service Unavailable"
  | .up, .silent => .timedOut

end FeedBridge
