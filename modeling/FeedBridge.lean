import FeedBridge.Bridge.Rehearsal
import FeedBridge.Bridge.Task
import FeedBridge.Feed.Routing
import FeedBridge.Health.Rehearsal
import FeedBridge.Inspection
import FeedBridge.Json.Decoder
import FeedBridge.Main
import FeedBridge.Uplink.Rehearsal
import FeedBridge.Wire.Frames
import FeedBridge.Proofs.Client.Tidy
import FeedBridge.Proofs.Feed.Seat
import FeedBridge.Proofs.Feed.FanOut
import FeedBridge.Proofs.Trading.Traffic
import FeedBridge.Proofs.Trading.Queue
import FeedBridge.Proofs.Json.Members
import FeedBridge.Proofs.Trading.Discipline
import FeedBridge.Proofs.Trading.Verdict
import FeedBridge.Proofs.Uplink.Succession
import FeedBridge.Proofs.Bridge.Backing
import FeedBridge.Proofs.Feed.Interplay
import FeedBridge.Proofs.Uplink.Lifecycle
import FeedBridge.Proofs.Feed.Separation
import FeedBridge.Proofs.Client.Offers
import FeedBridge.Proofs.Feed.Bystanders
import FeedBridge.Proofs.Bridge.Turns
import FeedBridge.Proofs.Bridge.Departure
import FeedBridge.Proofs.Bridge.Attendance
import FeedBridge.Proofs.Number.Whole
import FeedBridge.Proofs.Trading.Accounts
import FeedBridge.Proofs.Trading.Audience
import FeedBridge.Proofs.Bridge.Farewell
import FeedBridge.Proofs.Bridge.Rehearsed
import FeedBridge.Proofs.Trading.Rehearsed
import FeedBridge.Proofs.Trading.Watched
import FeedBridge.Proofs.Trading.Waiting
import FeedBridge.Proofs.Feed.Counts
import FeedBridge.Proofs.Feed.Askings
import FeedBridge.Proofs.Client.InBinary
import FeedBridge.Proofs.Bridge.Lasting
import FeedBridge.Proofs.Bridge.Interchange
import FeedBridge.Proofs.Trading.Solitary
import FeedBridge.Proofs.Console.Meaning
import FeedBridge.Proofs.Console.Sessions
import FeedBridge.Proofs.Json.Grammar
import FeedBridge.Proofs.Json.Scalars
import FeedBridge.Proofs.Json.Reading
import FeedBridge.Proofs.Feed.Naming
import FeedBridge.Proofs.Json.Numbers
import FeedBridge.Proofs.Json.Writing
import FeedBridge.Proofs.Json.Values
import FeedBridge.Proofs.Feed.Envelope
import FeedBridge.Proofs.Feed.Language
import FeedBridge.Proofs.Rpc.Sorting
import FeedBridge.Proofs.Trading.Requests
import FeedBridge.Proofs.Client.Writer
import FeedBridge.Proofs.Client.Registered
import FeedBridge.Proofs.Console.Grammar
import FeedBridge.Proofs.Settings.Resolution
import FeedBridge.Proofs.Settings.Accepted
import FeedBridge.Proofs.Json.Rewording
import FeedBridge.Proofs.Trading.Depth
import FeedBridge.Proofs.Trading.Tallies
import FeedBridge.Proofs.Trading.Renewal
import FeedBridge.Proofs.Trading.Secrecy
