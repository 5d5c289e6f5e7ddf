import FeedBridge.Number.Binary64

namespace FeedBridge

/-- A number: an integer between `-2 ^ 63` and `2 ^ 64 - 1`, or a double. -/
inductive Json.Number
  | int (value : Int)
  | float (value : Binary64)
deriving DecidableEq

inductive Json
  | null
  | bool (value : Bool)
  | number (value : Json.Number)
  | string (value : String)
  | array (items : List Json)
  | object (members : List (String × Json))

namespace Json

instance : Inhabited Json := ⟨null⟩

def int (value : Int) : Json := number (.int value)

def nat (value : Nat) : Json := int value

abbrev Members := List (String × Json)

def Members.insert (key : String) (value : Json) : Members → Members
  | [] => [(key, value)]
  | (k, v) :: rest =>
    if key < k then (key, value) :: (k, v) :: rest
    else if key = k then (key, value) :: rest
    else (k, v) :: Members.insert key value rest

/-- The object of a list of members in any order; the last of equal keys counts. -/
def ofMembers (members : List (String × Json)) : Json :=
  object (members.foldl (fun sorted member => Members.insert member.1 member.2 sorted) [])

def get? (key : String) : Json → Option Json
  | object members => members.lookup key
  | _ => none

def string? : Json → Option String
  | string value => some value
  | _ => none

def items? : Json → Option (List Json)
  | array items => some items
  | _ => none

def bool? : Json → Option Bool
  | bool value => some value
  | _ => none

def int64? : Json → Option Int
  | number (.int value) => if fitsInt64 value then some value else none
  | _ => none

def kindName : Json → String
  | null => "null"
  | bool _ => "bool"
  | number _ => "number"
  | string _ => "string"
  | array _ => "array"
  | object _ => "object"

end Json

end FeedBridge
