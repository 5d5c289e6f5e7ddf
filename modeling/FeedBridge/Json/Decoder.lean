import FeedBridge.Json.Reader
import FeedBridge.Number.DecimalReader
import FeedBridge.Text.Hex

namespace FeedBridge

/-- What a decoder finds in a value, or what is wrong with the value. -/
abbrev Json.Decoder := ReaderT Json (Except String)

namespace Json.Decoder

def require {α : Type} (complaint : String) : Option α → Decoder α
  | some a => return a
  | none => throw complaint

def on {α : Type} (value : Json) (decoder : Decoder α) : Decoder α := fun _ => decoder.run value

def member? (key : String) : Decoder (Option Json) := return (← read).get? key

def within {α : Type} (key : String) (decoder : Decoder α) : Decoder α := do
  on (← require ("missing " ++ key) (← member? key)) decoder

def text? (key : String) : Decoder (Option String) :=
  return (← member? key).bind Json.string?

def text (key : String) : Decoder String := do require ("no text " ++ key) (← text? key)

def textOr (key default : String) : Decoder String := return (← text? key).getD default

def integer? : Json → Option Int
  | number (.int n) => some n
  | _ => none

def integer (key : String) : Decoder Int := do
  require ("no integer " ++ key) ((← member? key).bind integer?)

def nat? (key : String) : Decoder (Option Nat) :=
  return ((← member? key).bind integer?).map Int.toNat

def natural (key : String) : Decoder Nat := Int.toNat <$> integer key

def natOr (key : String) (default : Nat) : Decoder Nat := return (← nat? key).getD default

def flag (key : String) (default : Bool) : Decoder Bool :=
  return ((← member? key).bind Json.bool?).getD default

def items (key : String) : Decoder (List Json) :=
  return ((← member? key).bind Json.items?).getD []

def texts (key : String) : Decoder (List String) := return (← items key).filterMap Json.string?

def integers (key : String) : Decoder (List Int) := return (← items key).filterMap integer?

def each {α : Type} (key : String) (decoder : Decoder α) : Decoder (List α) := do
  (← items key).mapM fun item => on item decoder

def parsed (key : String) : Decoder Json := do
  require ("no JSON text " ++ key) (Json.parse? (← text key))

def decimal (key : String) : Decoder Decimal := do
  require ("no decimal " ++ key) (Decimal.ofText? (← text key))

def decimal? (key : String) : Decoder (Option Decimal) := do
  if (← text? key).isSome then some <$> decimal key else return none

def bytes (key : String) : Decoder (List UInt8) := do
  require ("no bytes " ++ key) (Text.Hex.bytes? (← text key).toList)

def content? (plain hex : String) : Decoder (Option ByteArray) := do
  match ← text? plain with
  | some text => return some text.toUTF8
  | none =>
    if (← text? hex).isSome then return some ⟨(← bytes hex).toArray⟩ else return none

def choose {α : Type} (key : String) (table : List (String × Decoder α)) : Decoder α := do
  let name ← text key
  (← require ("unknown " ++ key ++ " " ++ name) (table.lookup name))

end Json.Decoder

end FeedBridge
