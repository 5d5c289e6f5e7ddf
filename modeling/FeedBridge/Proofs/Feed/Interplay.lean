import FeedBridge.Feed.Routing
import FeedBridge.Proofs.Client.Tidy
import FeedBridge.Proofs.Feed.Naming
import Mathlib.Data.List.Infix

namespace FeedBridge

def Roster.Takes (before after : Roster) (id : SessionId) (payload : String) : Prop :=
  ∃ place session outbox, before.find? id = some place ∧
    before.sessions[place]? = some session ∧
    after.sessions[place]? = some { session with outbox } ∧
    session.outbox.waiting ++ [session.format.frame payload] <+: outbox.waiting

namespace Outbox

def offers (frame : Frame) (count : Nat) (o : Outbox) : Outbox := (offer · frame)^[count] o

theorem waiting_prefix_offer (o : Outbox) (frame : Frame) :
    o.waiting <+: (o.offer frame).waiting := by
  unfold offer
  cases o.answer with
  | accepted => exact List.prefix_append _ _
  | full | closed => exact List.prefix_rfl

theorem waiting_prefix_offers (o : Outbox) (frame : Frame) (count : Nat) :
    o.waiting <+: (o.offers frame count).waiting := by
  induction count generalizing o with
  | zero => exact List.prefix_rfl
  | succ count ih => exact (o.waiting_prefix_offer frame).trans (ih (o.offer frame))

end Outbox

namespace Roster

variable {roster : Roster} {place : Nat} {session : Session}

theorem exists_of_accepts {id : SessionId} (accepts : roster.accepts id = true) :
    ∃ place session, roster.find? id = some place ∧ roster.sessions[place]? = some session ∧
      session.outbox.answer = .accepted := by
  unfold Roster.accepts acceptsAt answerAt at accepts
  cases found : roster.find? id with
  | none => simp [found] at accepts
  | some place =>
      cases located : roster.sessions[place]? with
      | none => simp [found, located] at accepts
      | some session => exact ⟨place, session, rfl, located, by simpa [found, located] using accepts⟩

theorem isLive_of_accepts {id : SessionId} (accepts : roster.accepts id = true) :
    roster.isLive id = true := by
  obtain ⟨place, session, found, -⟩ := exists_of_accepts accepts
  simp [isLive, found]

theorem sessions_deliver (located : roster.sessions[place]? = some session) (id : SessionId)
    (payload : String) :
    (roster.find? id = some place ∧ (roster.deliver id payload).sessions[place]? =
      some { session with outbox := session.outbox.offer (session.format.frame payload) }) ∨
    (roster.find? id ≠ some place ∧
      (roster.deliver id payload).sessions[place]? = some session) := by
  by_cases here : roster.find? id = some place
  · refine .inl ⟨here, ?_⟩
    simp [deliver, here, sendAt, located, sessions_offerAt, setOutbox]
  · refine .inr ⟨here, ?_⟩
    unfold deliver sendAt
    split
    case h_1 other found =>
        have elsewhere : other ≠ place := fun same => here (same ▸ found)
        split
        · simp [sessions_offerAt, setOutbox, elsewhere, located]
        · exact located
    case h_2 => exact located

end Roster

theorem Subscriptions.mem_matching {entries : Subscriptions} {entry : Subscription}
    (member : entry ∈ entries) : entry.session ∈ entries.matching entry.topic :=
  List.mem_map.mpr ⟨entry, List.mem_filter.mpr ⟨member, by simp⟩, rfl⟩

namespace Router

variable {roster : Roster} {place : Nat} {session : Session}

theorem sessions_deliverAll (located : roster.sessions[place]? = some session) (payload : String)
    (recipients : List SessionId) :
    ∃ count, (deliverAll roster payload recipients).1.sessions[place]? =
        some { session with
          outbox := session.outbox.offers (session.format.frame payload) count } ∧
      ∀ id ∈ recipients, roster.find? id = some place → 0 < count := by
  induction recipients generalizing roster session with
  | nil => exact ⟨0, located, by simp⟩
  | cons first rest ih =>
      have same : ∀ id, (roster.deliver first payload).find? id = roster.find? id := by
        intro id
        rw [Roster.find?, Roster.registered_deliver, Roster.find?]
      rcases Roster.sessions_deliver located first payload with ⟨-, offered⟩ | ⟨other, kept⟩
      · obtain ⟨count, after, -⟩ := ih offered
        exact ⟨count + 1, after, fun _ _ _ => Nat.succ_pos count⟩
      · obtain ⟨count, after, reached⟩ := ih kept
        refine ⟨count, after, ?_⟩
        intro id member found
        rcases List.mem_cons.mp member with rfl | later
        · exact absurd found other
        · exact reached id later ((same id).trans found)

theorem takes_deliverAll {id : SessionId} (accepts : roster.accepts id = true) (payload : String)
    {recipients : List SessionId} (member : id ∈ recipients) :
    roster.Takes (deliverAll roster payload recipients).1 id payload := by
  obtain ⟨place, session, found, located, room⟩ := Roster.exists_of_accepts accepts
  obtain ⟨count, after, reached⟩ := sessions_deliverAll located payload recipients
  obtain ⟨more, rfl⟩ := Nat.exists_eq_succ_of_ne_zero (reached id member found).ne'
  refine ⟨place, session, _, found, located, after, ?_⟩
  have first : (session.outbox.offer (session.format.frame payload)).waiting =
      session.outbox.waiting ++ [session.format.frame payload] := by
    simp [Outbox.offer, room]
  rw [← first]
  exact Outbox.waiting_prefix_offers _ _ more

variable {r : Router} {entry : Subscription}

theorem mem_entries_purge (member : entry ∈ r.entries)
    (live : r.roster.isLive entry.session = true) : entry ∈ r.purge.entries := by
  have kept : entry ∈ r.entries.purge r.roster.isLive := List.mem_filter.mpr ⟨member, live⟩
  dsimp only [purge]
  split_ifs
  · exact kept
  · exact member

theorem entries_fanOut (r : Router) (topic : Topic) (payload : String) :
    (r.fanOut topic payload).1.entries = r.entries := by
  unfold fanOut
  cases r.entries.matching topic <;> rfl

theorem sessions_fanOut (r : Router) (topic : Topic) (payload : String) :
    (r.fanOut topic payload).1.roster.sessions =
      (deliverAll r.roster payload (r.entries.matching topic)).1.sessions := by
  unfold fanOut
  cases r.entries.matching topic <;> rfl

theorem takes_route {channel : String} (member : entry ∈ r.entries)
    (accepts : r.roster.accepts entry.session = true)
    (named : Topic.ofChannel? channel = some entry.topic) (data : Json) :
    r.roster.Takes (r.route channel data).1.roster entry.session data.text := by
  have kept := mem_entries_purge member (Roster.isLive_of_accepts accepts)
  have same : r.purge.roster.sessions = r.roster.sessions ∧
      r.purge.roster.registered = r.roster.registered := by
    dsimp only [purge]
    split_ifs <;> exact ⟨rfl, rfl⟩
  have accepts' : r.purge.roster.accepts entry.session = true := by
    unfold Roster.accepts Roster.acceptsAt Roster.answerAt Roster.find? at accepts ⊢
    rwa [same.1, same.2]
  obtain ⟨place, session, outbox, found, located, after, more⟩ :=
    takes_deliverAll accepts' data.text (Subscriptions.mem_matching kept)
  refine ⟨place, session, outbox, ?_, ?_, ?_, more⟩
  · rwa [Roster.find?, ← same.2]
  · rwa [← same.1]
  · rw [route, named, sessions_fanOut]
    exact after

theorem mem_entries_route (member : entry ∈ r.entries)
    (live : r.roster.isLive entry.session = true) (channel : String) (data : Json) :
    entry ∈ (r.route channel data).1.entries := by
  unfold route
  split
  · exact member
  · rw [entries_fanOut]
    exact mem_entries_purge member live

end Router

inductive RequestPoint
  | asked (text : String)
  | written (result : Except UplinkError Unit)
  | done (result : Except RouteError Unit)

structure TopicRequest where
  session : SessionId
  topic : Topic
  point : RequestPoint

structure ChannelEvent where
  channel : String
  data : Json

structure Interplay where
  routing : Routing := {}
  requests : List TopicRequest := []
  arriving : List ChannelEvent := []

namespace Interplay

def ask (s : Interplay) (session : SessionId) (topic : Topic) : Interplay :=
  match s.routing.router.beginSubscribe s.routing.link.isOpen topic with
  | .ok (text, router) =>
    { s with
      routing := { s.routing with router }
      requests := s.requests ++ [⟨session, topic, .asked text⟩] }
  | .error cause => { s with requests := s.requests ++ [⟨session, topic, .done (.error cause)⟩] }

def write (s : Interplay) (request : Nat) : Interplay :=
  match s.requests[request]? with
  | some ⟨session, topic, .asked text⟩ =>
    let (link, result) := s.routing.link.send text
    { s with
      routing := { s.routing with link }
      requests := s.requests.set request ⟨session, topic, .written result⟩ }
  | _ => s

def record (s : Interplay) (request : Nat) : Interplay :=
  match s.requests[request]? with
  | some ⟨session, topic, .written written⟩ =>
    let (router, result) := s.routing.router.finishSubscribe topic session written
    { s with
      routing := { s.routing with router }
      requests := s.requests.set request ⟨session, topic, .done result⟩ }
  | _ => s

def read (s : Interplay) : Interplay :=
  match s.arriving with
  | event :: rest =>
    { s with
      routing := s.routing.onRouter fun r => (r.route event.channel event.data).1
      arriving := rest }
  | [] => s

inductive Step
  | ask (session : SessionId) (topic : Topic)
  | write (request : Nat)
  | record (request : Nat)
  | emit (event : ChannelEvent)
  | read
  | other (step : Routing.Step)

def step (s : Interplay) : Step → Interplay
  | .ask session topic => s.ask session topic
  | .write request => s.write request
  | .record request => s.record request
  | .emit event => { s with arriving := s.arriving ++ [event] }
  | .read => s.read
  | .other step => { s with routing := (s.routing.step step).1 }

def run (s : Interplay) (steps : List Step) : Interplay := steps.foldl step s

def roster (s : Interplay) : Roster := s.routing.router.roster

/-- The exchange sends events of those channels only that it was asked for. -/
def Honest : Interplay → List Step → Prop
  | _, [] => True
  | s, step :: rest =>
    (∀ event, step = .emit event → ∃ scope number,
      (Rpc.subscribe scope number [event.channel]).text ∈ s.routing.link.sent) ∧
      Honest (s.step step) rest

/-! ## After the recording -/

end Interplay

theorem Routing.mem_entries_step {s : Routing} {entry : Subscription}
    (member : entry ∈ s.router.entries) (live : s.router.roster.isLive entry.session = true)
    (step : Step) (stays : (s.step step).1.router.roster.isLive entry.session = true) :
    entry ∈ (s.step step).1.router.entries := by
  have subscribed : ∀ session topic, entry ∈ (s.subscribe session topic).1.router.entries := by
    intro session topic
    unfold Routing.subscribe Router.beginSubscribe Link.send
    cases s.link.isOpen with
    | false => exact member
    | true =>
        cases s.link.nextFailure with
        | some cause => exact member
        | none => exact List.mem_append_left _ member
  cases step with
  | setOpen isOpen | failNextSend cause | connect session | vanish session | dropWriter session
  | take session limit | clientError | exchangeOpen | exchangeClose | exchangeError | halt =>
      exact member
  | disconnect session =>
      have stays : (s.router.roster.unregister session).isLive entry.session = true := stays
      rw [Roster.isLive_unregister, Bool.and_eq_true] at stays
      exact List.mem_filter.mpr ⟨member, stays.2⟩
  | clientText session text =>
      dsimp only [Routing.step, Routing.clientText]
      split
      · exact subscribed _ _
      · exact member
  | subscribe session topic =>
      have asked := subscribed session topic
      dsimp only [Routing.step]
      split <;> simp_all
  | addEntry session topic => exact List.mem_append_left _ member
  | exchangeText text =>
      dsimp only [Routing.step, Routing.onRouter, Router.exchangeText]
      split
      · exact Router.mem_entries_route member live _ _
      · exact member
  | route channel data => exact Router.mem_entries_route member live channel data

namespace Interplay

variable {s : Interplay} {entry : Subscription}

theorem mem_entries_step (member : entry ∈ s.routing.router.entries)
    (live : s.roster.isLive entry.session = true) (step : Step)
    (stays : (s.step step).roster.isLive entry.session = true) :
    entry ∈ (s.step step).routing.router.entries := by
  cases step with
  | ask session topic =>
      dsimp only [Interplay.step, ask, Router.beginSubscribe]
      cases s.routing.link.isOpen <;> exact member
  | write request =>
      dsimp only [Interplay.step, write]
      split <;> exact member
  | record request =>
      dsimp only [Interplay.step, record]
      split
      case h_1 session topic written located =>
          cases written with
          | ok done => exact List.mem_append_left _ member
          | error cause => exact member
      case h_2 => exact member
  | emit event => exact member
  | read =>
      dsimp only [Interplay.step, read]
      split
      · exact Router.mem_entries_route member live _ _
      · exact member
  | other step => exact Routing.mem_entries_step member live step stays

theorem mem_entries_run (member : entry ∈ s.routing.router.entries) (steps : List Step)
    (stays : ∀ part, part <+: steps → (s.run part).roster.isLive entry.session = true) :
    entry ∈ (s.run steps).routing.router.entries := by
  induction steps generalizing s with
  | nil => exact member
  | cons step rest ih =>
      have before := stays [] (List.nil_prefix)
      have after := stays [step] (by simp)
      refine ih (mem_entries_step member before step after) ?_
      intro part within
      exact stays (step :: part) (List.cons_prefix_cons.mpr ⟨rfl, within⟩)

/-- A request that was written succeeds when it is recorded. From then on, whatever happens, every
event of its channel that is read while the session has stayed registered and has room is taken. -/
theorem takes_of_recorded {request : Nat} {session : SessionId} {topic : Topic}
    (written : s.requests[request]? = some ⟨session, topic, .written (.ok ())⟩)
    (named : topic.symbol ≠ "") (plain : topic.kind = .orderbook → '.' ∉ topic.symbol.toList) :
    let recorded := s.step (.record request)
    recorded.requests[request]? = some ⟨session, topic, .done (.ok ())⟩ ∧
      ∀ later, (∀ part, part <+: later → (recorded.run part).roster.isLive session = true) →
        ∀ interval data rest,
          (recorded.run later).arriving = ⟨topic.channel interval, data⟩ :: rest →
          (recorded.run later).roster.accepts session = true →
          (recorded.run later).roster.Takes ((recorded.run later).step .read).roster session
            data.text := by
  intro recorded
  have place := (List.getElem?_eq_some_iff.mp written).1
  have after : recorded = { s with
      routing := { s.routing with router := s.routing.router.record topic session }
      requests := s.requests.set request ⟨session, topic, .done (.ok ())⟩ } := by
    simp only [recorded, step, record, written, Router.finishSubscribe]
  have entered : ⟨topic, session⟩ ∈ recorded.routing.router.entries := by
    rw [after]
    exact List.mem_append_right _ (List.mem_singleton_self _)
  refine ⟨by simp [after, place], ?_⟩
  intro later stays interval data rest arriving accepts
  have kept := mem_entries_run entered later stays
  have taken := Router.takes_route kept accepts (Topic.ofChannel?_channel named plain interval) data
  simpa [roster, step, read, arriving, Routing.onRouter] using taken

theorem takes_of_early_event :
    let event : ChannelEvent := ⟨"book.A.100ms", .nat 1⟩
    let s := ({} : Interplay).run
      [.other (.connect (.fresh ⟨1⟩ .text 2)), .ask ⟨1⟩ ⟨.orderbook, "A"⟩, .write 0, .emit event]
    let recorded := s.step (.record 0)
    s.requests[0]? = some ⟨⟨1⟩, ⟨.orderbook, "A"⟩, .written (.ok ())⟩ ∧
      recorded.roster.Takes (recorded.step .read).roster ⟨1⟩ (Json.nat 1).text := by
  intro event s recorded
  have written : s.requests[0]? = some ⟨⟨1⟩, ⟨.orderbook, "A"⟩, .written (.ok ())⟩ := rfl
  refine ⟨written, ?_⟩
  refine (takes_of_recorded written (by decide) (by decide)).2 [] ?_ "100ms" (.nat 1) [] rfl rfl
  intro part within
  rw [List.prefix_nil.mp within]
  rfl

/-- The exchange sends nothing unasked, a request succeeds, an event of the channel asked for is
sent and read, and the session had room for it; yet its queue stays empty. -/
def Loses (topic : Topic) (steps : List Step) : Prop :=
  let all := .other (.connect (.fresh ⟨1⟩ .text 2)) :: .ask ⟨1⟩ topic :: steps
  let s := ({} : Interplay).run all
  Honest {} all ∧ s.requests.map TopicRequest.point = [.done (.ok ())] ∧
    (∃ data, .emit ⟨topic.channel Topic.defaultInterval, data⟩ ∈ steps) ∧ s.arriving = [] ∧
    s.roster.accepts ⟨1⟩ = true ∧ s.roster.sessions = [.fresh ⟨1⟩ .text 2]

/-- An event that is routed before the request is recorded is lost, and so is every event of a topic
without a symbol. -/
theorem lost_before_recording :
    let book : Topic := ⟨.orderbook, "A"⟩
    let bare : Topic := ⟨.orderbook, ""⟩
    let event (topic : Topic) : Step := .emit ⟨topic.channel Topic.defaultInterval, .nat 1⟩
    Loses book [.write 0, event book, .read, .record 0] ∧
      Loses bare [.write 0, .record 0, event bare, .read] := by
  intro book bare event
  constructor
  · refine ⟨⟨?_, ?_, ?_, ?_, ?_, ?_, trivial⟩, rfl, ⟨.nat 1, .tail _ (.head _)⟩, rfl,
      by decide +kernel, by decide +kernel⟩
    case refine_4 =>
        rintro _ ⟨⟩
        exact ⟨.public, 1, List.mem_singleton_self _⟩
    all_goals
      intro _ same
      cases same
  · refine ⟨⟨?_, ?_, ?_, ?_, ?_, ?_, trivial⟩, rfl, ⟨.nat 1, .tail _ (.tail _ (.head _))⟩, rfl,
      by decide +kernel, by decide +kernel⟩
    case refine_5 =>
        rintro _ ⟨⟩
        exact ⟨.public, 1, List.mem_singleton_self _⟩
    all_goals
      intro _ same
      cases same

end Interplay

end FeedBridge
