import FeedBridge.Client.Frame

namespace FeedBridge

structure Outbox where
  capacity : Nat
  waiting : List Frame := []
  writerAlive : Bool := true
  dropped : Nat := 0
deriving DecidableEq

inductive Offer
  | accepted
  | full
  | closed
deriving DecidableEq

namespace Outbox

/-- An empty queue; room for no frame counts as room for one. -/
def empty (capacity : Nat) : Outbox := { capacity := max capacity 1 }

def answer (o : Outbox) : Offer :=
  if !o.writerAlive then .closed
  else if o.waiting.length < o.capacity then .accepted
  else .full

def offer (o : Outbox) (frame : Frame) : Outbox :=
  match o.answer with
  | .accepted => { o with waiting := o.waiting ++ [frame] }
  | .full => { o with dropped := o.dropped + 1 }
  | .closed => o

def take (o : Outbox) (count : Nat) : List Frame × Outbox :=
  (o.waiting.take count, { o with waiting := o.waiting.drop count })

def dropWriter (o : Outbox) : Outbox := { o with writerAlive := false }

end Outbox

/-- What a writer puts on the connection from the frames it takes out: all of them up to the
first farewell, which is the last thing written. -/
def writtenFrames : List Frame → List Frame
  | [] => []
  | frame :: rest => if frame.isClose then [frame] else frame :: writtenFrames rest

end FeedBridge
