import FeedBridge.Json.Reader
import FeedBridge.Settings.Basic
import FeedBridge.Text.Hex
import FeedBridge.Text.Utf8
import FeedBridge.Trading.Call
import FeedBridge.Uplink.Basic

namespace FeedBridge.Trading.Http

def percentByte (b : UInt8) : List Char :=
  '%' :: (Text.Hex.ofByte b).map Char.toUpper

def escapedInPath (c : Char) : Bool :=
  c.toNat ≤ 0x20 || 0x7F ≤ c.toNat || ['"', '<', '>', '^', '\x60', '{', '}'].contains c

def escapedInQuery (c : Char) : Bool :=
  c.toNat ≤ 0x20 || 0x7F ≤ c.toNat || ['"', '<', '>', '\''].contains c

def targetChar (isEscaped : Char → Bool) (c : Char) : List Char :=
  if isEscaped c then (String.singleton c).toUTF8.data.toList.flatMap percentByte else [c]

def resolveSegments (kept : List (List Char)) : List (List Char) → List (List Char)
  | [] => kept.reverse
  | ['.'] :: rest => resolveSegments (if rest.isEmpty then [] :: kept else kept) rest
  | ['.', '.'] :: rest =>
    let kept := kept.drop 1
    resolveSegments (if rest.isEmpty then [] :: kept else kept) rest
  | segment :: rest => resolveSegments (segment :: kept) rest

/-- The target of a path: what follows a hash sign is left out, tabs and line breaks are dropped,
and a backslash in the path is a slash. -/
def target (path : String) : String :=
  let cs := path.toList.filter fun c => c != '\t' && c != '\n' && c != '\r'
  let cs := cs.takeWhile (· != '#')
  let (path, query) := cs.span (· != '?')
  let path := path.map fun c => if c = '\\' then '/' else c
  let segments := IpAddress.splitAt '/' (if path.head? = some '/' then path.drop 1 else path)
  let segments := (resolveSegments [] segments).map (·.flatMap (targetChar escapedInPath))
  String.ofList ('/' :: List.intercalate ['/'] segments ++
    query.flatMap (targetChar escapedInQuery))

def isSendable (bearer : String) : Bool :=
  bearer.toList.all fun c => c = '\t' || (0x20 ≤ c.toNat && c.toNat != 0x7F)

def authorization (bearer : String) : String :=
  String.ofList (("Bearer " ++ bearer).toList.reverse.dropWhile
    (fun c => c = ' ' || c = '\t')).reverse

structure Request where
  line : String
  authorization : Option String
  contentType : String
  body : String

def request (basePath : String) (post : Post) : Request where
  line := "POST " ++ target (Settings.trimSlashes basePath ++ post.path) ++ " HTTP/1.1"
  authorization := post.bearer.map authorization
  contentType := "application/json"
  body := post.body.text

structure Response where
  status : Nat := 200
  body : List UInt8 := []

def Response.text (r : Response) : String :=
  if r.status = 304 then "" else Text.decodeLossy r.body

def isSuccess (status : Nat) : Bool := 200 ≤ status && status < 300

def Response.reply (r : Response) : Reply :=
  match Json.parse? r.text with
  | some value => .ok value
  | none =>
    if isSuccess r.status then .error (.decode "not a JSON value")
    else .error (.status r.status r.text)

inductive Server
  | absent
  | breakingOff
  | responding (response : Response)

def exchange (network : Network) (server : Server) (basePath : String) (post : Post) :
    Option Request × Reply :=
  if network = .down then (none, .error (.request "Network is unreachable (os error 101)"))
  else if !post.bearer.all isSendable then (none, .error (.request "invalid header value"))
  else
    match server with
    | .absent => (none, .error (.request "Connection refused (os error 111)"))
    | .breakingOff => (some (request basePath post), .error (.request "connection closed"))
    | .responding response => (some (request basePath post), response.reply)

end FeedBridge.Trading.Http
