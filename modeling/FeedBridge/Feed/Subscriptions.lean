import FeedBridge.Feed.Topic
import FeedBridge.Client.SessionId

namespace FeedBridge

structure Subscription where
  topic : Topic
  session : SessionId
deriving DecidableEq

abbrev Subscriptions := List Subscription

namespace Subscriptions

def add (entries : Subscriptions) (topic : Topic) (session : SessionId) : Subscriptions :=
  entries ++ [⟨topic, session⟩]

def purge (entries : Subscriptions) (isLive : SessionId → Bool) : Subscriptions :=
  entries.filter fun entry => isLive entry.session

def stale (entries : Subscriptions) (isLive : SessionId → Bool) : Nat :=
  entries.length - (entries.purge isLive).length

def removeSession (entries : Subscriptions) (session : SessionId) : Subscriptions :=
  entries.purge fun id => id != session

/-- The sessions that receive the events of a topic, as often as they asked for it. -/
def matching (entries : Subscriptions) (topic : Topic) : List SessionId :=
  (entries.filter fun entry => entry.topic = topic).map (·.session)

end Subscriptions

end FeedBridge
