import FeedBridge.Uplink.Basic

namespace FeedBridge.Wire

inductive Sender
  | client
  | server
deriving DecidableEq

structure RawFrame where
  final : Bool
  reserved : Nat
  opcode : Nat
  masked : Bool
  payload : List UInt8
deriving DecidableEq

def bigEndian (bytes : List UInt8) : Nat := bytes.foldl (fun n b => 256 * n + b.toNat) 0

def takeBytes? (count : Nat) (bytes : List UInt8) : Option (List UInt8 × List UInt8) :=
  if count ≤ bytes.length then some (bytes.take count, bytes.drop count) else none

def unmask (mask payload : List UInt8) : List UInt8 :=
  payload.mapIdx fun i b => b ^^^ (mask[i % 4]?.getD 0)

def payloadLength? (short : Nat) (bytes : List UInt8) : Option (Nat × List UInt8) :=
  if short < 126 then some (short, bytes)
  else do
    let (digits, rest) ← takeBytes? (if short = 126 then 2 else 8) bytes
    return (bigEndian digits, rest)

def readFrame? : List UInt8 → Option (RawFrame × List UInt8)
  | first :: second :: rest => do
    let masked := 128 ≤ second.toNat
    let (length, rest) ← payloadLength? (second.toNat % 128) rest
    let (mask, rest) ← takeBytes? (if masked then 4 else 0) rest
    let (payload, rest) ← takeBytes? length rest
    let frame : RawFrame := {
      final := 128 ≤ first.toNat
      reserved := first.toNat / 16 % 8
      opcode := first.toNat % 16
      masked
      payload := if masked then unmask mask payload else payload }
    return (frame, rest)
  | _ => none

abbrev Fragments := Option (Bool × List UInt8)

inductive Assembled
  | pending (fragments : Fragments)
  | taken (incoming : Incoming) (fragments : Fragments)

def violation : Assembled := .taken (.failed .other) none

def wholeMessage (isText : Bool) (bytes : List UInt8) : Assembled :=
  let bytes : ByteArray := ⟨bytes.toArray⟩
  if isText then
    match String.fromUTF8? bytes with
    | some text => .taken (.message (.text text)) none
    | none => violation
  else .taken (.message (.binary bytes)) none

def farewell : List UInt8 → Assembled
  | [] => .taken (.message (.close none)) none
  | high :: low :: reason =>
    match String.fromUTF8? ⟨reason.toArray⟩ with
    | some reason =>
      .taken (.message (.close (some ⟨UInt16.ofNat (bigEndian [high, low]), reason⟩))) none
    | none => violation
  | [_] => violation

def addBytes (limit : Nat) (isText : Bool) (bytes : List UInt8) (final : Bool) : Assembled :=
  if limit < bytes.length then violation
  else if final then wholeMessage isText bytes
  else .pending (some (isText, bytes))

def startMessage (limit : Nat) (fragments : Fragments) (isText : Bool) (frame : RawFrame) :
    Assembled :=
  if fragments.isSome then violation else addBytes limit isText frame.payload frame.final

def controlFrame (fragments : Fragments) (frame : RawFrame) : Assembled :=
  if !frame.final || 125 < frame.payload.length then violation
  else if frame.opcode = 8 then farewell frame.payload
  else if frame.opcode = 9 || frame.opcode = 10 then .taken .control fragments
  else violation

def assemble (sender : Sender) (limit : Nat) (fragments : Fragments) (frame : RawFrame) :
    Assembled :=
  if frame.reserved != 0 || frame.masked != (sender = .client) then violation
  else if 8 ≤ frame.opcode then controlFrame fragments frame
  else
    match frame.opcode, fragments with
    | 0, some (isText, bytes) => addBytes limit isText (bytes ++ frame.payload) frame.final
    | 0, none => violation
    | 1, _ => startMessage limit fragments true frame
    | 2, _ => startMessage limit fragments false frame
    | _, _ => violation

def readFrom (sender : Sender) (limit : Nat) : Nat → Fragments → List UInt8 → List Incoming
  | 0, _, _ => []
  | fuel + 1, fragments, bytes =>
    match readFrame? bytes with
    | none => []
    | some (frame, rest) =>
      match assemble sender limit fragments frame with
      | .pending fragments => readFrom sender limit fuel fragments rest
      | .taken incoming fragments =>
        if incoming.endsConnection then [incoming]
        else incoming :: readFrom sender limit fuel fragments rest

/-- What a reader takes from some bytes; every frame has at least two of them. -/
def read (sender : Sender) (limit : Nat) (bytes : List UInt8) : List Incoming :=
  readFrom sender limit bytes.length none bytes

def deliver (limit : Nat) (frame : Frame) : Incoming :=
  if limit < frame.bytes.size then .failed .other else .message frame

end FeedBridge.Wire
