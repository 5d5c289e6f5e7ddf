import FeedBridge.Proofs.Feed.FanOut
import FeedBridge.Proofs.Feed.Interplay
import Mathlib.Data.List.TakeWhile

/-!
# Which instruments are kept apart

A channel is made of a symbol, and its events are handed out by the symbol that is read off it.
For an order book whose symbol has a point in it the two differ: the session that asked for it gets
nothing, and a session that asked for the part before the point gets the events instead. All other
topics are kept apart (`Routing.kept_apart_iff`).
-/

namespace FeedBridge

namespace Topic

def cut (topic : Topic) : Topic :=
  ⟨topic.kind, String.ofList (topic.symbol.toList.takeWhile (· != '.'))⟩

theorem ofChannel?_bookChannel (symbol interval : String) :
    ofChannel? (bookChannel symbol interval) =
      named? .orderbook (symbol.toList.takeWhile (· != '.')) := by
  have rest : after? bookLead (bookChannel symbol interval).toList =
      some (symbol.toList ++ '.' :: interval.toList) := by
    simpa [bookChannel] using after?_append bookLead (symbol.toList ++ '.' :: interval.toList)
  have stops : ∀ cs : List Char, (cs ++ '.' :: interval.toList).takeWhile (· != '.') =
      cs.takeWhile (· != '.') := by
    intro cs
    induction cs with
    | nil => rfl
    | cons c cs ih => by_cases point : c = '.' <;> simp [point, ih]
  simp only [ofChannel?, rest, stops]

theorem eq_cut_of_ofChannel? {topic heard : Topic} {interval : String}
    (book : topic.kind = .orderbook) (found : ofChannel? (topic.channel interval) = some heard) :
    heard = topic.cut := by
  obtain ⟨kind, symbol⟩ := topic
  cases book
  rw [channel, ofChannel?_bookChannel, named?] at found
  split_ifs at found
  cases found
  rfl

theorem cut_ne_self {topic : Topic} (dotted : '.' ∈ topic.symbol.toList) : topic.cut ≠ topic := by
  intro same
  have symbol : topic.symbol.toList.takeWhile (· != '.') = topic.symbol.toList := by
    simpa [cut] using congrArg (fun t => t.symbol.toList) same
  rw [← symbol] at dotted
  simpa using List.mem_takeWhile_imp dotted

theorem ofChannel?_of_cut {topic : Topic} (book : topic.kind = .orderbook)
    (named : topic.cut.symbol ≠ "") (interval : String) :
    ofChannel? (topic.channel interval) = some topic.cut := by
  obtain ⟨kind, symbol⟩ := topic
  cases book
  have nonempty : (symbol.toList.takeWhile (· != '.')).isEmpty = false := by
    rw [List.isEmpty_eq_false_iff]
    intro empty
    exact named (by simp [cut, empty])
  rw [channel, ofChannel?_bookChannel, named?, nonempty]
  rfl

end Topic

theorem ClientRequest.symbol_ne_empty_of_parse {text : String} {topic : Topic}
    (asks : ClientRequest.parse text = .ok topic) : topic.symbol ≠ "" := by
  unfold ClientRequest.parse ClientRequest.ofDocument ClientRequest.topicOf at asks
  rintro empty
  split at asks
  · split at asks
    · next method symbol _ =>
      split_ifs at asks with blank
      split at asks
      · cases asks
        exact blank (by simpa using empty)
      · cases asks
    · cases asks
  · cases asks

namespace Seat

theorem offer_of_room {seat : Seat} (registered : seat.registered = true)
    (writer : seat.writerAlive = true) (room : seat.waiting.length < seat.capacity) (frame : Frame) :
    (seat.offer frame).waiting = seat.waiting ++ [frame] := by
  simp [offer, registered, writer, room]

theorem receive_of_room {seat : Seat} (registered : seat.registered = true)
    (writer : seat.writerAlive = true) (room : seat.waiting.length < seat.capacity) {topic : Topic}
    (wanted : topic ∈ seat.wanted) (payload : String) :
    ∃ more, (seat.receive topic payload).waiting =
      seat.waiting ++ seat.format.frame payload :: more := by
  have copies := List.count_pos_iff.mpr wanted
  obtain ⟨others, count⟩ := Nat.exists_eq_succ_of_ne_zero copies.ne'
  obtain ⟨taken, after, -⟩ := offerCopies_grows (seat.format.frame payload) others
    (seat.offer (seat.format.frame payload))
  refine ⟨taken, ?_⟩
  rw [receive, count, offerCopies, after, offer_of_room registered writer room, List.append_assoc]
  rfl

end Seat

namespace Routing

def Step.Carries (channel : String) (data : Json) : Step → Prop
  | .exchangeText text => Rpc.Inbound.decode text = .ok (.event channel data)
  | .route named carried => named = channel ∧ carried = data
  | _ => False

theorem Step.Carries.event? {channel : String} {data : Json} {step : Step}
    (carries : step.Carries channel data) :
    step.event? = (Topic.ofChannel? channel).map fun topic => (topic, data) := by
  cases step with
  | exchangeText text =>
      have decoded : Rpc.Inbound.decode text = .ok (.event channel data) := carries
      simp [Step.event?, decoded]
  | route named carried =>
      obtain ⟨rfl, rfl⟩ := carries
      rfl
  | _ => exact carries.elim

def Delivers (s : Routing) (step : Step) (id : SessionId) (payload : String) : Prop :=
  ∃ session more, s.router.roster.session? id = some session ∧
    (s.step step).1.waiting id = s.waiting id ++ session.format.frame payload :: more

theorem Delivers.waiting_ne {s : Routing} {step : Step} {id : SessionId} {payload : String}
    (delivers : s.Delivers step id payload) : (s.step step).1.waiting id ≠ s.waiting id := by
  obtain ⟨session, more, -, taken⟩ := delivers
  rw [taken]
  simp

variable {s : Routing} {known : List SessionId} {id : SessionId} {seat : Seat} {step : Step}
  {channel : String} {data : Json}

theorem serves_event (serves : s.router.Serves known id seat) (carries : step.Carries channel data) :
    ∃ known', (s.step step).1.router.Serves known' id
      (seat.witness ((Topic.ofChannel? channel).map fun topic => (topic, data))) := by
  have event := carries.event?
  cases step with
  | exchangeText text => exact ⟨known, event ▸ serves_exchangeText serves text⟩
  | route named carried => exact ⟨known, event ▸ serves_route serves named carried⟩
  | _ => exact carries.elim

theorem waiting_of_unasked (serves : s.router.Serves known id seat)
    (carries : step.Carries channel data)
    (unasked : ∀ topic, Topic.ofChannel? channel = some topic → topic ∉ seat.wanted) :
    (s.step step).1.waiting id = s.waiting id := by
  obtain ⟨known', after⟩ := serves_event serves carries
  rw [waiting_eq after, waiting_eq serves]
  cases heard : Topic.ofChannel? channel with
  | none => rfl
  | some topic => rw [Option.map_some, witness_of_unasked data (.inl (unasked topic heard))]

theorem delivers_of_asked (serves : s.router.Serves known id seat)
    (accepts : s.router.roster.accepts id = true) (carries : step.Carries channel data)
    {topic : Topic} (heard : Topic.ofChannel? channel = some topic) (asked : topic ∈ seat.wanted) :
    s.Delivers step id data.text := by
  obtain ⟨place, session, found, located, answer⟩ := Roster.exists_of_accepts accepts
  obtain ⟨same, there, number, -⟩ := serves.tidy.find?_eq found
  rw [located] at there
  cases there
  have seated : s.router.roster.session? id = some session :=
    serves.tidy.session?_eq_some.mpr ⟨List.mem_of_getElem? located, number⟩
  have describes := serves.matched.describes
  rw [seated] at describes
  obtain ⟨format, capacity, waiting, writer⟩ := describes
  obtain ⟨alive, room⟩ : session.outbox.writerAlive = true ∧
      session.outbox.waiting.length < session.outbox.capacity := by
    unfold Outbox.answer at answer
    split_ifs at answer with gone room
    exact ⟨by simpa using gone, room⟩
  have registered := serves.matched.registered.trans (Roster.isLive_of_accepts accepts)
  obtain ⟨more, taken⟩ := Seat.receive_of_room registered (writer.trans alive)
    (by rw [waiting, capacity]; exact room) asked data.text
  obtain ⟨known', after⟩ := serves_event serves carries
  refine ⟨session, more, seated, ?_⟩
  rw [waiting_eq after, heard, Option.map_some, waiting_eq serves, ← format]
  exact taken

structure Extends (before after : Routing) : Prop where
  interval : after.router.interval = before.router.interval
  sent : before.link.sent ⊆ after.link.sent

theorem Extends.of_quiet {after : Routing} (link : after.link = s.link)
    (quiet : s.router.Quiet after.router) : s.Extends after :=
  ⟨quiet.interval, link ▸ List.Subset.refl _⟩

theorem Extends.trans {before between after : Routing} (first : before.Extends between)
    (second : between.Extends after) : before.Extends after :=
  ⟨second.interval.trans first.interval, List.Subset.trans first.sent second.sent⟩

theorem subscribe_extends (s : Routing) (session : SessionId) (topic : Topic) :
    s.Extends (s.subscribe session topic).1 ∧ (s.succeeds session topic = true →
      Router.subscribeText s.router.interval topic s.router.nextId ∈
        (s.subscribe session topic).1.link.sent) := by
  rw [succeeds_iff]
  unfold subscribe Router.beginSubscribe Link.send
  cases s.link.isOpen with
  | false => exact ⟨⟨rfl, List.Subset.refl _⟩, by simp⟩
  | true =>
      cases s.link.nextFailure with
      | some cause => exact ⟨⟨rfl, List.Subset.refl _⟩, by simp⟩
      | none => exact ⟨⟨rfl, List.subset_append_left _ _⟩, fun _ => List.mem_append_right _
          (List.mem_singleton_self _)⟩

theorem step_extends (s : Routing) (step : Step) : s.Extends (s.step step).1 := by
  have still : s.Extends s := ⟨rfl, List.Subset.refl _⟩
  cases step with
  | setOpen | failNextSend | connect | vanish | dropWriter | take | clientError | addEntry
  | exchangeOpen | exchangeClose | exchangeError | halt => exact ⟨rfl, List.Subset.refl _⟩
  | disconnect session => exact .of_quiet rfl ((Router.Quiet.onRoster _ _).trans (.forget _ _))
  | clientText session text =>
      dsimp only [Routing.step, clientText]
      split
      · exact (s.subscribe_extends _ _).1
      · exact still
  | subscribe session topic =>
      have asked := (s.subscribe_extends session topic).1
      dsimp only [Routing.step]
      split <;> simp_all
  | exchangeText text => exact .of_quiet rfl (.exchangeText _ _)
  | route channel data => exact .of_quiet rfl (.route _ _ _)

theorem run_extends (s : Routing) (steps : List Step) : s.Extends (s.run steps) := by
  induction steps generalizing s with
  | nil => exact ⟨rfl, List.Subset.refl _⟩
  | cons step rest ih => exact (s.step_extends step).trans (ih _)

theorem sent_of_subscribedBy {topic : Topic} (asks : s.subscribedBy? id step = some topic) :
    ∃ number, Router.subscribeText s.router.interval topic number ∈ (s.step step).1.link.sent := by
  cases step with
  | clientText sender text =>
      dsimp only [subscribedBy?] at asks
      split at asks
      · next parsed =>
        split_ifs at asks with succeeds
        cases asks
        refine ⟨s.router.nextId, ?_⟩
        simpa [Routing.step, clientText, parsed] using
          (s.subscribe_extends sender topic).2 succeeds.2
      · cases asks
  | subscribe sender named =>
      dsimp only [subscribedBy?] at asks
      split_ifs at asks with succeeds
      cases asks
      refine ⟨s.router.nextId, ?_⟩
      have sent := (s.subscribe_extends sender topic).2 succeeds.2
      dsimp only [Routing.step]
      split <;> simp_all
  | _ => cases asks

theorem mem_wanted_step {subscribed : Option Topic} {topic : Topic}
    (wanted : topic ∈ (seat.step id subscribed step).wanted) :
    topic ∈ seat.wanted ∨ subscribed = some topic := by
  have event (found : Option (Topic × Json)) : (seat.witness found).wanted = seat.wanted := by
    cases found with
    | none => rfl
    | some routed => exact Seat.wanted_offerCopies _ _ _
  cases step with
  | connect session =>
      dsimp only [Seat.step] at wanted
      split_ifs at wanted
      · cases wanted
      · exact .inl wanted
  | clientText session text | subscribe session named =>
      cases subscribed with
      | none => exact .inl wanted
      | some other =>
          rcases List.mem_append.mp wanted with old | new
          · exact .inl old
          · exact .inr (congrArg some (List.mem_singleton.mp new).symm)
  | exchangeText text | route named carried =>
      dsimp only [Seat.step] at wanted
      rw [event] at wanted
      exact .inl wanted
  | disconnect session | vanish session | dropWriter session | take session limit =>
      dsimp only [Seat.step] at wanted
      split_ifs at wanted <;> exact .inl wanted
  | setOpen | failNextSend | clientError | addEntry | exchangeOpen | exchangeClose | exchangeError
  | halt => exact .inl wanted

theorem sent_of_wanted {steps : List Step} {topic : Topic}
    (wanted : topic ∈ (Seat.run id s steps seat).wanted) :
    topic ∈ seat.wanted ∨
      ∃ number, Router.subscribeText s.router.interval topic number ∈ (s.run steps).link.sent := by
  induction steps generalizing s seat with
  | nil => exact .inl wanted
  | cons step rest ih =>
      have extended := s.step_extends step
      rcases ih wanted with before | ⟨number, sent⟩
      · rcases mem_wanted_step before with old | asked
        · exact .inl old
        · obtain ⟨number, sent⟩ := sent_of_subscribedBy asked
          exact .inr ⟨number, ((s.step step).1.run_extends rest).sent sent⟩
      · exact .inr ⟨number, extended.interval ▸ sent⟩

/-! ## Two sessions -/

/-- In a run one session asked for a topic, and another session asked for another topic and for
nothing else; both have room for an event. -/
structure Neighbours (start : Routing) (steps : List Step) (asker other : SessionId)
    (first second : Topic) : Prop where
  orderly : Orderly [] steps
  asked : first ∈ (Seat.run asker start steps .absent).wanted
  otherAsked : second ∈ (Seat.run other start steps .absent).wanted
  only : ∀ topic ∈ (Seat.run other start steps .absent).wanted, topic = second
  room : (start.run steps).router.roster.accepts asker = true
  otherRoom : (start.run steps).router.roster.accepts other = true

/-- Whoever asked for the first topic gets the events of its channel. -/
def Reaches (interval : String) (first second : Topic) : Prop :=
  ∀ link steps asker other, let start : Routing := { router := { interval }, link }
    Neighbours start steps asker other first second →
      ∀ step data, step.Carries (first.channel interval) data →
        (start.run steps).Delivers step asker data.text

/-- Whoever asked for the second topic only gets no event of the channel of the first. -/
def Spares (interval : String) (first second : Topic) : Prop :=
  ∀ link steps asker other, let start : Routing := { router := { interval }, link }
    Neighbours start steps asker other first second →
      ∀ step data, step.Carries (first.channel interval) data →
        ((start.run steps).step step).1.waiting other = (start.run steps).waiting other

def meeting (text text' : String) : List Step :=
  [.connect (.fresh ⟨1⟩ .text 1), .connect (.fresh ⟨2⟩ .text 1), .clientText ⟨1⟩ text,
    .clientText ⟨2⟩ text']

theorem meeting_neighbours {text text' : String} {first second : Topic}
    (asks : ClientRequest.parse text = .ok first) (asks' : ClientRequest.parse text' = .ok second)
    (interval : String) :
    let start : Routing := { router := { interval }, link := {} }
    Neighbours start (meeting text text') ⟨1⟩ ⟨2⟩ first second ∧
      (Seat.run ⟨1⟩ start (meeting text text') .absent).wanted = [first] := by
  intro start
  have wanted : (Seat.run ⟨1⟩ start (meeting text text') .absent).wanted = [first] := by
    simp [meeting, Seat.run, Seat.step, subscribedBy?, asks, asks', succeeds_iff, Seat.arriving,
      Seat.want, Session.fresh, Routing.step, rosterStep, onRouter, start]
  have otherWanted : (Seat.run ⟨2⟩ start (meeting text text') .absent).wanted = [second] := by
    simp [meeting, Seat.run, Seat.step, subscribedBy?, asks, asks', succeeds_iff, Seat.arriving,
      Seat.want, Session.fresh, Routing.step, rosterStep, onRouter, clientText, subscribe,
      Router.beginSubscribe, Link.send, start]
  have roster : (start.run (meeting text text')).router.roster =
      { sessions := [.fresh ⟨1⟩ .text 1, .fresh ⟨2⟩ .text 1]
        registered := [(⟨1⟩, 0), (⟨2⟩, 1)]
        metrics := { liveSessions := 2, subscriptionEntries := 2 } } := by
    simp [meeting, run, Routing.step, rosterStep, onRouter, clientText, asks, asks', subscribe,
      Router.beginSubscribe, Link.send, start]
    rfl
  have orderly : Orderly [] (meeting text text') :=
    ⟨⟨by simp, 1, rfl⟩, ⟨by simp [Step.newcomer?, Session.fresh], 1, rfl⟩,
      .tail _ (.head _), .head _, trivial⟩
  refine ⟨⟨orderly, ?_, ?_, ?_, ?_, ?_⟩, wanted⟩
  · simp [wanted]
  · simp [otherWanted]
  · simp [otherWanted]
  · rw [roster]
    rfl
  · rw [roster]
    rfl

theorem Neighbours.serves {interval : String} {link : Link} {steps : List Step}
    {asker other : SessionId} {first second : Topic}
    (neighbours : Neighbours { router := { interval }, link } steps asker other first second)
    (id : SessionId) :
    ∃ known, ((Routing.mk { interval } link).run steps).router.Serves known id
      (Seat.run id { router := { interval }, link } steps .absent) := by
  have empty : Seat.absent.accepted = [] ++ Seat.absent.waiting := rfl
  exact (serves_run (serves_start interval link id) neighbours.orderly empty).1

theorem reaches_iff {text text' : String} {first second : Topic}
    (asks : ClientRequest.parse text = .ok first) (asks' : ClientRequest.parse text' = .ok second)
    (interval : String) : Reaches interval first second ↔
      (first.kind = .orderbook → '.' ∉ first.symbol.toList) := by
  constructor
  · intro reaches book dotted
    obtain ⟨neighbours, wanted⟩ := meeting_neighbours asks asks' interval
    obtain ⟨known, serves⟩ := neighbours.serves ⟨1⟩
    have carries : (Step.route (first.channel interval) .null).Carries
      (first.channel interval) .null := ⟨rfl, rfl⟩
    refine (reaches {} _ _ _ neighbours _ _ carries).waiting_ne
      (waiting_of_unasked serves carries ?_)
    intro heard found
    rw [wanted, List.mem_singleton, Topic.eq_cut_of_ofChannel? book found]
    exact Topic.cut_ne_self dotted
  · intro plain link steps asker other start neighbours step data carries
    obtain ⟨known, serves⟩ := neighbours.serves asker
    exact delivers_of_asked serves neighbours.room carries (Topic.ofChannel?_channel
      (ClientRequest.symbol_ne_empty_of_parse asks) plain interval) neighbours.asked

theorem spares_iff {text text' : String} {first second : Topic}
    (asks : ClientRequest.parse text = .ok first) (asks' : ClientRequest.parse text' = .ok second)
    (differ : first ≠ second) (interval : String) : Spares interval first second ↔
      (first.kind = .orderbook → '.' ∉ first.symbol.toList) ∨ second ≠ first.cut := by
  constructor
  · intro spares
    by_contra leaks
    rw [not_or, not_not, Classical.not_imp] at leaks
    obtain ⟨⟨book, -⟩, same⟩ := leaks
    obtain ⟨neighbours, -⟩ := meeting_neighbours asks asks' interval
    obtain ⟨known, serves⟩ := neighbours.serves ⟨2⟩
    have carries : (Step.route (first.channel interval) .null).Carries
      (first.channel interval) .null := ⟨rfl, rfl⟩
    have heard := Topic.ofChannel?_of_cut book
      (same ▸ ClientRequest.symbol_ne_empty_of_parse asks') interval
    rw [← same] at heard
    exact (delivers_of_asked serves neighbours.otherRoom carries heard
      neighbours.otherAsked).waiting_ne (spares {} _ _ _ neighbours _ _ carries)
  · intro apart link steps asker other start neighbours step data carries
    obtain ⟨known, serves⟩ := neighbours.serves other
    apply waiting_of_unasked serves carries
    intro heard found wanted
    have second := neighbours.only heard wanted
    by_cases plain : first.kind = .orderbook → '.' ∉ first.symbol.toList
    · rw [Topic.ofChannel?_channel (ClientRequest.symbol_ne_empty_of_parse asks) plain interval]
        at found
      cases found
      exact differ second
    · obtain ⟨book, -⟩ := Classical.not_imp.mp plain
      exact apart.elim plain fun elsewhere => elsewhere
        (second.symm.trans (Topic.eq_cut_of_ofChannel? book found))

/-- Of two topics that clients can ask for, the first reaches who asked for it exactly if it is no
order book with a point in its symbol; and whoever asked for the second alone hears it exactly if
it is such an order book and the second is the part before the point. -/
theorem kept_apart_iff {text text' : String} {first second : Topic}
    (asks : ClientRequest.parse text = .ok first) (asks' : ClientRequest.parse text' = .ok second)
    (differ : first ≠ second) (interval : String) :
    let plain := first.kind = .orderbook → '.' ∉ first.symbol.toList
    (Reaches interval first second ↔ plain) ∧
      (Spares interval first second ↔ plain ∨ second ≠ first.cut) ∧
      ∀ link steps asker other, let start : Routing := { router := { interval }, link }
        Neighbours start steps asker other first second → ∃ number,
          (Rpc.subscribe (Router.scope first.kind) number [first.channel interval]).text ∈
            (start.run steps).link.sent := by
  refine ⟨reaches_iff asks asks' interval, spares_iff asks asks' differ interval, ?_⟩
  intro link steps asker other start neighbours
  exact (sent_of_wanted neighbours.asked).resolve_left (by simp [Seat.absent])

theorem kept_apart_of_position :
    let book := "[\"subscribe_orderbook\",\"A\"]"
    let position := "[\"subscribe_position\",\"A.B\"]"
    let start : Routing := { router := { interval := "100ms" }, link := {} }
    let s := start.run (meeting position book)
    let event : Step := .route "user.position.A.B" (.nat 1)
    ClientRequest.parse position = .ok ⟨.position, "A.B"⟩ ∧
      ClientRequest.parse book = .ok ⟨.orderbook, "A"⟩ ∧
      s.Delivers event ⟨1⟩ "1" ∧ (s.step event).1.waiting ⟨2⟩ = s.waiting ⟨2⟩ := by
  intro book position start s event
  have asks : ClientRequest.parse position = .ok ⟨.position, "A.B"⟩ := by decide +kernel
  have asks' : ClientRequest.parse book = .ok ⟨.orderbook, "A"⟩ := by decide +kernel
  have apart := kept_apart_iff asks asks' (by decide) "100ms"
  have neighbours := (meeting_neighbours asks asks' "100ms").1
  have straight : FeedKind.position = .orderbook → '.' ∉ "A.B".toList := by simp
  have carries : event.Carries (Topic.channel ⟨.position, "A.B"⟩ "100ms") (.nat 1) :=
    ⟨by decide +kernel, rfl⟩
  exact ⟨asks, asks', apart.1.mpr straight {} _ _ _ neighbours event _ carries,
    apart.2.1.mpr (.inl straight) {} _ _ _ neighbours event _ carries⟩

/-- The events of an order book with a point in its symbol are not given to the session that asked
for them, and are given to one that did not. -/
theorem dotted_book_misdelivered :
    let book := "[\"subscribe_orderbook\",\"A\"]"
    let dotted := "[\"subscribe_orderbook\",\"A.B\"]"
    let start : Routing := { router := { interval := "100ms" }, link := {} }
    let s := start.run (meeting dotted book)
    let event : Step := .exchangeText
      "\x7b\"params\":\x7b\"channel\":\"book.A.B.100ms\",\"data\":1\x7d\x7d"
    ClientRequest.parse dotted = .ok ⟨.orderbook, "A.B"⟩ ∧
      ClientRequest.parse book = .ok ⟨.orderbook, "A"⟩ ∧
      s.link.sent = [(Rpc.subscribe .public 1 ["book.A.B.100ms"]).text,
        (Rpc.subscribe .public 2 ["book.A.100ms"]).text] ∧
      s.router.roster.accepts ⟨1⟩ = true ∧ s.router.roster.accepts ⟨2⟩ = true ∧
      (s.step event).1.waiting ⟨1⟩ = [] ∧ (s.step event).1.waiting ⟨2⟩ = [.text "1"] := by
  decide +kernel

end Routing

end FeedBridge
