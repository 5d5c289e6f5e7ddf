import FeedBridge.Client.Frame
import FeedBridge.Feed.Topic
import FeedBridge.Number.Span
import FeedBridge.Settings.Environment
import FeedBridge.Settings.IpAddress
import FeedBridge.Text.Blank
import FeedBridge.Trading.Credentials

namespace FeedBridge

inductive SettingsError
  | missing (key : String)
  | empty (key : String)
  | invalidCredentials (reason : String)
  | file (path reason : String)
deriving DecidableEq

def SettingsError.message : SettingsError → String
  | missing key => "missing required environment variable: " ++ key
  | empty key => "environment variable " ++ key ++ " cannot be empty"
  | invalidCredentials reason => "invalid credentials: " ++ reason
  | file path reason => "failed to read " ++ path ++ ": " ++ reason

structure ExchangeSettings where
  baseUrl : String := "https://test.deribit.com"
  wsHost : String := "test.deribit.com"
  wsPort : Nat := 443
  wsPath : String := "/ws/api/v2"
  connectTimeout : Span := .ofSeconds 10
deriving DecidableEq

structure ListenSettings where
  address : IpAddress := .v4 [0, 0, 0, 0]
  port : Nat := 8000
  format : WireFormat := .text
  bookInterval : String := Topic.defaultInterval
  outboxCapacity : Nat := 1024
deriving DecidableEq

structure RequestSettings where
  httpTimeout : Span := .ofSeconds 30
  queueCapacity : Nat := 1024
  callTimeout : Span := .ofSeconds 30
deriving DecidableEq

structure Settings where
  credentials : Trading.Credentials
  exchange : ExchangeSettings := {}
  listen : ListenSettings := {}
  requests : RequestSettings := {}
  healthPort : Nat := 8082
  defaultInstrument : String := "BTC-PERPETUAL"
deriving DecidableEq

structure BrokerSettings where
  address : SocketAddress
  format : WireFormat
  maxMessageSize : Nat
  outboxCapacity : Nat
deriving DecidableEq

namespace Settings

def firstSet? (lookup : Lookup) (keys : List String) : Option (String × String) :=
  keys.findSome? fun key => (lookup key).map fun value => (key, value)

/-- The value of the first key of a list that is set; it must not be empty. A missing value goes
by the name of the first key. -/
def required (lookup : Lookup) (primary : String) (others : List String) :
    Except SettingsError String :=
  match firstSet? lookup (primary :: others) with
  | none => .error (.missing primary)
  | some (key, value) => if value.isEmpty then .error (.empty key) else .ok value

def textOr (lookup : Lookup) (key default : String) : String :=
  match lookup key with
  | some value => if value.isEmpty then default else value
  | none => default

/-- The value of a key without the blanks around it, unless it is not set or cannot be read. -/
def readOr {α : Type} (lookup : Lookup) (key : String) (read : List Char → Option α)
    (default : α) : α :=
  match lookup key with
  | some value => (read (Text.trim value.toList)).getD default
  | none => default

def natBelow? (bound : Nat) (cs : List Char) : Option Nat := do
  let n ← natOfDigits? (match cs with | '+' :: rest => rest | cs => cs)
  if n < bound then some n else none

def natOr (lookup : Lookup) (key : String) (bound default : Nat) : Nat :=
  readOr lookup key (natBelow? bound) default

def portBound : Nat := twoTo 16

def wordBound : Nat := twoTo 64

def secondsOr (lookup : Lookup) (key : String) (default : Span) : Span :=
  .ofSeconds (natOr lookup key wordBound default.seconds)

def capacityOr (lookup : Lookup) (key : String) (default : Nat) : Nat :=
  max (natOr lookup key wordBound default) 1

def trimSlashes (s : String) : String :=
  String.ofList (s.toList.reverse.dropWhile (· = '/')).reverse

def exchangeOf (lookup : Lookup) : ExchangeSettings :=
  let defaults : ExchangeSettings := {}
  { baseUrl :=
      match firstSet? lookup ["BASE_URL", "DERIBIT_BASE_URL"] with
      | some (_, url) => trimSlashes url
      | none => defaults.baseUrl
    wsHost := textOr lookup "DERIBIT_WS_HOST" defaults.wsHost
    wsPort := natOr lookup "DERIBIT_WS_PORT" portBound defaults.wsPort
    wsPath := textOr lookup "DERIBIT_WS_PATH" defaults.wsPath
    connectTimeout := secondsOr lookup "DERIBIT_CONNECT_TIMEOUT_SECS" defaults.connectTimeout }

def listenOf (lookup : Lookup) : ListenSettings :=
  let defaults : ListenSettings := {}
  { address := readOr lookup "BRIDGE_LISTEN_ADDR" IpAddress.ofChars? defaults.address
    port := natOr lookup "BRIDGE_LISTEN_PORT" portBound defaults.port
    format := .ofFlag (lookup "BINARY_PROTOCOL" = some "true")
    bookInterval := textOr lookup "BOOK_INTERVAL" defaults.bookInterval
    outboxCapacity := capacityOr lookup "SESSION_QUEUE_CAPACITY" defaults.outboxCapacity }

def requestsOf (lookup : Lookup) : RequestSettings :=
  let defaults : RequestSettings := {}
  { httpTimeout := secondsOr lookup "HTTP_TIMEOUT_SECS" defaults.httpTimeout
    queueCapacity := capacityOr lookup "PIPELINE_QUEUE_CAPACITY" defaults.queueCapacity
    callTimeout := secondsOr lookup "CALL_TIMEOUT_SECS" defaults.callTimeout }

def ofLookup (lookup : Lookup) : Except SettingsError Settings := do
  let key ← required lookup "API_KEY" ["DERIBIT_API_KEY"]
  let secret ← required lookup "API_SECRET" ["DERIBIT_API_SECRET"]
  let credentials ← (Trading.Credentials.ofTexts key secret).mapError fun cause =>
    SettingsError.invalidCredentials cause.message
  return {
    credentials
    exchange := exchangeOf lookup
    listen := listenOf lookup
    requests := requestsOf lookup
    healthPort := natOr lookup "HEALTH_PORT" portBound 8082
    defaultInstrument := textOr lookup "DEFAULT_INSTRUMENT" "BTC-PERPETUAL" }

def ofFile (process : Lookup) (path : String) (content : EnvFile.Content) :
    Except SettingsError Settings :=
  match EnvFile.read process content with
  | .ok bindings => ofLookup bindings.get?
  | .error cause => .error (.file path cause.message)

def ofEnvironmentError (e : EnvironmentError) : SettingsError := .file e.path e.cause.message

def ofEnvironment (process : Lookup) (places : List EnvFile.Place) :
    Except SettingsError Settings :=
  match Environment.load process places with
  | .ok environment => ofLookup environment.get?
  | .error failure => .error (ofEnvironmentError failure)

def maxMessageSize : Nat := 16 * 1024 * 1024

def broker (s : Settings) : BrokerSettings where
  address := ⟨s.listen.address, s.listen.port⟩
  format := s.listen.format
  maxMessageSize := maxMessageSize
  outboxCapacity := s.listen.outboxCapacity

end Settings

end FeedBridge
