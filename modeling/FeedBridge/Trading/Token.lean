import FeedBridge.Json.Writer
import FeedBridge.Text.Quoted
import FeedBridge.Trading.Credentials

namespace FeedBridge.Trading

abbrev Instant := Int

structure Grant where
  accessToken : String
  refreshToken : String := ""
  lifetime : Int64
  scope : Option String := none

inductive GrantError
  | wrongType (found : Json) (expected : String)
  | outOfRange (value : Int)
  | missingField (field : String)
  | tooShort (length : Nat)
  | tooLong (length : Nat)

namespace GrantError

def describe : Json → String
  | .null => "null"
  | .bool true => "boolean \x60true\x60"
  | .bool false => "boolean \x60false\x60"
  | .number (.int n) => "integer \x60" ++ String.ofList (Json.intChars n) ++ "\x60"
  | .number (.float x) => "floating point \x60" ++ String.ofList (Json.floatChars x) ++ "\x60"
  | .string s => "string " ++ Text.quoted s
  | .array _ => "sequence"
  | .object _ => "map"

def message : GrantError → String
  | wrongType found expected => "invalid type: " ++ describe found ++ ", expected " ++ expected
  | outOfRange value =>
    "invalid value: integer \x60" ++ String.ofList (Json.intChars value) ++ "\x60, expected i64"
  | missingField field => "missing field \x60" ++ field ++ "\x60"
  | tooShort length =>
    "invalid length " ++ String.ofList (decimalDigits length) ++
      ", expected struct AuthResult with 4 elements"
  | tooLong length =>
    "invalid length " ++ String.ofList (decimalDigits length) ++
      ", expected fewer elements in array"

end GrantError

namespace Grant

def readText : Json → Except GrantError String
  | .string s => .ok s
  | v => .error (.wrongType v "a string")

def readOptionalText : Json → Except GrantError (Option String)
  | .null => .ok none
  | v => (readText v).map some

def readInt64 : Json → Except GrantError Int64
  | .number (.int n) =>
    if fitsInt64 n then .ok (Int64.ofInt n) else .error (.outOfRange n)
  | v => .error (.wrongType v "i64")

def readMember {α : Type} (value : Json) (key : String) (read : Json → Except GrantError α) :
    Except GrantError (Option α) :=
  match value.get? key with
  | some member => (read member).map some
  | none => .ok none

def required {α : Type} (field : String) : Option α → Except GrantError α
  | some a => .ok a
  | none => .error (.missingField field)

def ofObject (value : Json) : Except GrantError Grant := do
  let access ← readMember value "access_token" readText
  let lifetime ← readMember value "expires_in" readInt64
  let refresh ← readMember value "refresh_token" readText
  let scope ← readMember value "scope" readOptionalText
  return {
    accessToken := ← required "access_token" access
    refreshToken := refresh.getD ""
    lifetime := ← required "expires_in" lifetime
    scope := scope.getD none }

def ofItems : List Json → Except GrantError Grant
  | [] => .error (.tooShort 0)
  | [access] => do
    let _ ← readText access
    .error (.tooShort 2)
  | [access, refresh] => do
    let _ ← readText access
    let _ ← readText refresh
    .error (.tooShort 2)
  | [access, refresh, lifetime] => do
    return ⟨← readText access, ← readText refresh, ← readInt64 lifetime, none⟩
  | access :: refresh :: lifetime :: scope :: rest => do
    let grant : Grant :=
      ⟨← readText access, ← readText refresh, ← readInt64 lifetime, ← readOptionalText scope⟩
    if rest.isEmpty then return grant else .error (.tooLong (rest.length + 4))

def ofJson : Json → Except GrantError Grant
  | .object members => ofObject (.object members)
  | .array items => ofItems items
  | v => .error (.wrongType v "struct AuthResult")

end Grant

structure Token where
  accessToken : String
  lifetime : Int64
  grantedAt : Instant
deriving DecidableEq

namespace Token

def ofGrant (grant : Grant) (now : Instant) : Token := ⟨grant.accessToken, grant.lifetime, now⟩

def refreshMargin : Int := 60

/-- Whole seconds from one moment to a later one, none to an earlier one, at most 64 bits with a
sign. -/
def secondsSince (start now : Instant) : Int :=
  min ((now - start).toNat / tenTo 9 : Nat) (twoTo 63 - 1 : Nat)

/-- The age in seconds that a token may reach; it does not fall below 64 bits with a sign. -/
def maxAge (lifetime : Int64) : Int := max (lifetime.toInt - refreshMargin) (-(twoTo 63 : Int))

def needsRefresh (t : Token) (now : Instant) : Bool :=
  maxAge t.lifetime < secondsSince t.grantedAt now

def shown (t : Token) (grantedAt : String) : String :=
  shownRecord "TokenState" [("access_token", redacted),
    ("expires_in", String.ofList (Json.intChars t.lifetime.toInt)),
    ("authenticated_at", grantedAt)]

end Token

end FeedBridge.Trading
