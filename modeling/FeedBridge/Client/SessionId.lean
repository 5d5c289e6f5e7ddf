namespace FeedBridge

structure SessionId where
  raw : UInt64
deriving DecidableEq

def SessionId.text (id : SessionId) : String := "session-" ++ toString id.raw.toNat

end FeedBridge
