namespace FeedBridge

structure CloseReason where
  code : UInt16
  reason : String
deriving DecidableEq

instance decidableEqBytes : DecidableEq ByteArray := fun a b =>
  match decEq a.data.toList b.data.toList with
  | isTrue same => isTrue (ByteArray.ext (Array.toList_inj.mp same))
  | isFalse differ => isFalse fun same => differ (congrArg (fun bytes => bytes.data.toList) same)

inductive Frame
  | text (payload : String)
  | binary (payload : ByteArray)
  | close (reason : Option CloseReason)
deriving DecidableEq

namespace Frame

def isClose : Frame → Bool
  | close _ => true
  | _ => false

def normalClose : Frame := close (some ⟨1000, ""⟩)

/-- The text of a message: bytes count if they are valid UTF-8. -/
def message? : Frame → Option String
  | text payload => some payload
  | binary payload => String.fromUTF8? payload
  | close _ => none

def bytes : Frame → ByteArray
  | text payload => payload.toUTF8
  | binary payload => payload
  | close _ => .empty

end Frame

inductive WireFormat
  | text
  | binary
deriving DecidableEq

namespace WireFormat

def ofFlag (isBinary : Bool) : WireFormat := if isBinary then binary else text

/-- Wrap a payload; both formats carry the same bytes. -/
def frame (format : WireFormat) (payload : String) : Frame :=
  match format with
  | text => .text payload
  | binary => .binary payload.toUTF8

end WireFormat

end FeedBridge
