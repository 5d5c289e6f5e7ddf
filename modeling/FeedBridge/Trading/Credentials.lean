import FeedBridge.Json.Writer

namespace FeedBridge.Trading

inductive AuthError
  | missingCredentials (field : String)
  | rejected (answer : String)
  | transport (reason : String)
deriving DecidableEq

def AuthError.message : AuthError → String
  | missingCredentials field => "missing credentials: " ++ field ++ " is empty"
  | rejected answer => "authentication failed: " ++ answer
  | transport reason => "authentication request failed: " ++ reason

def redacted : String := "\"[REDACTED]\""

def shownRecord (name : String) (fields : List (String × String)) : String :=
  name ++ " \x7b " ++
    String.intercalate ", " (fields.map fun (field, value) => field ++ ": " ++ value) ++ " \x7d"

structure Credentials where
  key : String
  secret : String
deriving DecidableEq

namespace Credentials

def ofTexts (key secret : String) : Except AuthError Credentials :=
  if key.isEmpty then .error (.missingCredentials "api_key")
  else if secret.isEmpty then .error (.missingCredentials "api_secret")
  else .ok ⟨key, secret⟩

def shown (_ : Credentials) : String :=
  shownRecord "Credentials" [("api_key", redacted), ("api_secret", redacted)]

def grantType : String := "client_credentials"

def grantParams (c : Credentials) : List (String × Json) :=
  [("grant_type", .string grantType), ("client_id", .string c.key),
    ("client_secret", .string c.secret)]

def shownGrant (_ : Credentials) : String :=
  shownRecord "AuthParams" [("grant_type", "\"" ++ grantType ++ "\""), ("client_id", redacted),
    ("client_secret", redacted)]

end Credentials

end FeedBridge.Trading
