import FeedBridge.Proofs.Feed.Bystanders
import FeedBridge.Proofs.Number.Registers

namespace FeedBridge

def Offered.tally (answer : Offer) (log : List Offered) : Nat := log.countP (·.answer = answer)

namespace Offered

@[simp]
theorem tally_append (answer : Offer) (log later : List Offered) :
    tally answer (log ++ later) = tally answer log + tally answer later := List.countP_append

theorem length_eq_tallies (log : List Offered) :
    log.length = tally .accepted log + tally .full log + tally .closed log := by
  induction log with
  | nil => rfl
  | cons offered rest ih =>
      have answered : offered.answer = .accepted ∨ offered.answer = .full ∨
          offered.answer = .closed := by cases offered.answer <;> simp
      simp only [tally] at ih ⊢
      rcases answered with answer | answer | answer <;>
        simp only [List.length_cons, List.countP_cons, answer, ih] <;> simp <;> omega

end Offered

open Offered (tally)

namespace Roster

structure Charged (before after : Roster) (log : List Offered) : Prop where
  registered : after.registered = before.registered
  places : after.sessions.length = before.sessions.length
  metrics : after.metrics = { before.metrics with
    messagesDropped := before.metrics.messagesDropped + tally .full log }

namespace Charged

theorem refl (r : Roster) : r.Charged r [] := ⟨rfl, rfl, rfl⟩

theorem trans {before between after : Roster} {log later : List Offered}
    (first : before.Charged between log) (second : between.Charged after later) :
    before.Charged after (log ++ later) := by
  refine ⟨second.registered.trans first.registered, second.places.trans first.places, ?_⟩
  rw [second.metrics, first.metrics, Offered.tally_append, Nat.add_assoc]

theorem setOutbox (r : Roster) (place : Nat) (change : Outbox → Outbox) :
    r.Charged (r.setOutbox place change) [] := ⟨rfl, List.length_modify _ _ _, rfl⟩

theorem offerAt (r : Roster) (place : Nat) (frame : Frame) :
    r.Charged (r.offerAt place frame) (r.offered place frame) := by
  refine ⟨registered_offerAt r place frame, ?_, ?_⟩
  · rw [sessions_offerAt]
    exact (setOutbox r place _).places
  · unfold Roster.offerAt offered answerAt
    cases r.sessions[place]? with
    | none => rfl
    | some session =>
        cases answer : session.outbox.answer <;> simp [tally, Roster.setOutbox, answer]

theorem sendAt (r : Roster) (place : Nat) (payload : String) :
    r.Charged (r.sendAt place payload) (r.payloadOffered place payload) := by
  unfold Roster.sendAt payloadOffered
  cases r.sessions[place]? with
  | none => exact refl r
  | some session => exact offerAt r place _

theorem deliver (r : Roster) (id : SessionId) (payload : String) :
    r.Charged (r.deliver id payload) (r.deliveryOffered id payload) := by
  unfold Roster.deliver deliveryOffered
  cases r.find? id with
  | none => exact refl r
  | some place => exact sendAt r place payload

theorem sendAll (r : Roster) (payload : String) (places : List Nat) :
    r.Charged (r.sendAll payload places).1 (r.offeredToAll payload places) := by
  induction places generalizing r with
  | nil => exact refl r
  | cons place rest ih => exact (sendAt r place payload).trans (ih _)

theorem offerLatest {r : Roster} {offer : Nat → Roster} {log : Nat → List Offered}
    (each : ∀ place, r.Charged (offer place) (log place)) (id : SessionId) :
    r.Charged (r.offerLatest id offer).1 ((r.latest? id).elim [] log) := by
  unfold Roster.offerLatest
  cases r.latest? id with
  | none => exact refl r
  | some place => exact each place

end Charged

structure Counted (r : Roster) : Prop where
  live : r.metrics.liveSessions = r.registered.length
  distinct : (r.registered.map (·.1)).Nodup
  housed : ∀ entry ∈ r.registered, entry.2 < r.sessions.length

namespace Counted

variable {r : Roster}

theorem charged (counted : r.Counted) {after : Roster} {log : List Offered}
    (charged : r.Charged after log) : after.Counted := by
  refine ⟨?_, ?_, ?_⟩
  · rw [charged.metrics, charged.registered]
    exact counted.live
  · rw [charged.registered]
    exact counted.distinct
  · rw [charged.registered, charged.places]
    exact counted.housed

theorem unregister (counted : r.Counted) (id : SessionId) : (r.unregister id).Counted := by
  have fewer : (r.registered.filter fun entry => entry.1 != id).Sublist r.registered :=
    List.filter_sublist
  exact ⟨rfl, counted.distinct.sublist (fewer.map _),
    fun entry member => counted.housed entry (fewer.subset member)⟩

theorem enroll (counted : r.Counted) (session : Session) : (r.enroll session).Counted := by
  have others := counted.unregister session.id
  refine ⟨rfl, ?_, ?_⟩
  · simp only [Roster.enroll, register, create, setRegistered, List.map_append, List.map_cons,
      List.map_nil]
    refine List.nodup_append.mpr ⟨others.distinct, List.nodup_singleton _, ?_⟩
    rintro a member b single rfl
    obtain ⟨entry, kept, rfl⟩ := List.mem_map.mp member
    have stranger : entry.1 ≠ session.id := by simpa using (List.mem_filter.mp kept).2
    exact stranger (List.mem_singleton.mp single)
  · intro entry member
    simp only [Roster.enroll, register, create, setRegistered, List.mem_append,
      List.mem_singleton, List.length_append, List.length_singleton] at member ⊢
    rcases member with old | rfl
    · exact Nat.lt_succ_of_lt (others.housed entry old)
    · exact Nat.lt_succ_self _

theorem create (counted : r.Counted) (session : Session) : (r.create session).Counted := by
  refine ⟨counted.live, counted.distinct, fun entry member => ?_⟩
  simp only [Roster.create, List.length_append, List.length_singleton]
  exact Nat.lt_succ_of_lt (counted.housed entry member)

theorem step (counted : r.Counted) (step : Step) :
    (r.step step).1.Counted ∧
      (r.step step).1.metrics.messagesDropped =
        r.metrics.messagesDropped + tally .full (r.offers step) ∧
      (r.step step).1.metrics.eventsRouted = r.metrics.eventsRouted ∧
      (r.step step).1.metrics.subscriptionEntries = r.metrics.subscriptionEntries := by
  have offers {after : Roster} {log : List Offered} (charged : r.Charged after log) :
      after.Counted ∧
        after.metrics.messagesDropped = r.metrics.messagesDropped + tally .full log ∧
        after.metrics.eventsRouted = r.metrics.eventsRouted ∧
        after.metrics.subscriptionEntries = r.metrics.subscriptionEntries :=
    ⟨counted.charged charged, by rw [charged.metrics], by rw [charged.metrics],
      by rw [charged.metrics]⟩
  cases step with
  | create session => exact ⟨counted.create session, rfl, rfl, rfl⟩
  | enroll session => exact ⟨counted.enroll session, rfl, rfl, rfl⟩
  | unregister id => exact ⟨counted.unregister id, rfl, rfl, rfl⟩
  | find id | isLive id => exact offers (.refl r)
  | deliver id payload => exact offers (.deliver r id payload)
  | broadcast payload => exact offers (.sendAll r payload _)
  | clear => exact ⟨⟨rfl, List.nodup_nil, nofun⟩, rfl, rfl, rfl⟩
  | send id payload => exact offers (.offerLatest (.sendAt r · payload) id)
  | close id => exact offers (.offerLatest (.offerAt r · .normalClose) id)
  | take id limit =>
      refine offers ?_
      change r.Charged (r.takeLatest id limit).1 []
      rcases takeLatest_cases r id limit with ⟨same, -⟩ | ⟨place, session, -, -, -, same, -⟩
      · rw [same]
        exact .refl r
      · rw [same]
        exact .setOutbox r place _
  | dropWriter id =>
      refine offers ?_
      change r.Charged (r.dropLatest id).1 []
      rcases dropLatest_cases r id with ⟨-, same⟩ | ⟨place, session, -, -, same⟩
      · rw [same]
        exact .refl r
      · rw [same]
        exact .setOutbox r place _

theorem deliveryOffered_of_live (counted : r.Counted) {id : SessionId} (live : r.isLive id = true)
    (payload : String) : ∃ offered, r.deliveryOffered id payload = [offered] ∧
      r.accepts id = decide (offered.answer = .accepted) := by
  obtain ⟨place, found⟩ := Option.isSome_iff_exists.mp live
  obtain ⟨before, after, split, -⟩ := List.lookup_eq_some_iff.mp found
  have inside := counted.housed (id, place) (by simp [split])
  simp only [deliveryOffered, payloadOffered, Roster.offered, accepts, acceptsAt, answerAt, found,
    List.getElem?_eq_getElem inside]
  exact ⟨_, rfl, rfl⟩

end Counted

end Roster

namespace Router

open Roster (Counted Charged)

theorem charged_deliverAll (roster : Roster) (payload : String) (recipients : List SessionId) :
    roster.Charged (deliverAll roster payload recipients).1
      (offeredTo roster payload recipients) := by
  induction recipients generalizing roster with
  | nil => exact .refl roster
  | cons id rest ih => exact (Charged.deliver roster id payload).trans (ih _)

theorem offeredTo_of_live {roster : Roster} (counted : roster.Counted) (payload : String)
    {recipients : List SessionId} (live : ∀ id ∈ recipients, roster.isLive id = true) :
    (offeredTo roster payload recipients).length = recipients.length ∧
      (deliverAll roster payload recipients).2 =
        tally .accepted (offeredTo roster payload recipients) := by
  induction recipients generalizing roster with
  | nil => exact ⟨rfl, rfl⟩
  | cons id rest ih =>
      obtain ⟨first, others⟩ := List.forall_mem_cons.mp live
      obtain ⟨offered, single, accepts⟩ := counted.deliveryOffered_of_live first payload
      have delivered := Charged.deliver roster id payload
      obtain ⟨length, taken⟩ := ih (counted.charged delivered) fun other member => by
        rw [Roster.isLive_congr delivered.registered]
        exact others other member
      rw [offeredTo, deliverAll, single]
      refine ⟨by simp [length], ?_⟩
      simp only [taken, accepts, Offered.tally_append]
      cases answer : offered.answer <;> simp [tally, answer, Nat.add_comm]

theorem live_of_matching {entries : Subscriptions} {isLive : SessionId → Bool} {topic : Topic}
    {id : SessionId} (member : id ∈ (entries.purge isLive).matching topic) : isLive id = true := by
  obtain ⟨entry, kept, rfl⟩ := List.mem_map.mp member
  exact (List.mem_filter.mp (List.mem_filter.mp kept).1).2

theorem entries_purge (r : Router) : r.purge.entries = r.entries.purge r.roster.isLive := by
  dsimp only [purge]
  split_ifs with fewer
  · rfl
  · have all : (r.entries.purge r.roster.isLive).length = r.entries.length :=
      Nat.le_antisymm (List.length_filter_le _ _) (Nat.le_of_not_lt fewer)
    exact (List.filter_sublist.eq_of_length all).symm

structure Gauged (r : Router) : Prop where
  entries : r.roster.metrics.subscriptionEntries = r.entries.length
  counted : r.roster.Counted

namespace Gauged

variable {r : Router}

theorem setEntries (gauged : r.Gauged) (entries : Subscriptions) : (r.setEntries entries).Gauged :=
  ⟨rfl, gauged.counted.live, gauged.counted.distinct, gauged.counted.housed⟩

theorem purge (gauged : r.Gauged) : r.purge.Gauged ∧
    r.purge.roster.metrics.messagesDropped = r.roster.metrics.messagesDropped ∧
    r.purge.roster.metrics.eventsRouted = r.roster.metrics.eventsRouted := by
  dsimp only [Router.purge]
  split_ifs
  · exact ⟨gauged.setEntries _, rfl, rfl⟩
  · exact ⟨gauged, rfl, rfl⟩

theorem isLive_purge (r : Router) : r.purge.roster.isLive = r.roster.isLive := by
  dsimp only [Router.purge]
  split_ifs <;> rfl

theorem copies (gauged : r.Gauged) (channel : String) (data : Json) {topic : Topic}
    (known : Topic.ofChannel? channel = some topic) :
    (r.eventOffered channel data).length = (r.purge.entries.matching topic).length ∧
      (r.route channel data).2 = tally .accepted (r.eventOffered channel data) := by
  have live (id : SessionId) (member : id ∈ r.purge.entries.matching topic) :
      r.purge.roster.isLive id = true := by
    rw [entries_purge] at member
    rw [isLive_purge]
    exact live_of_matching member
  obtain ⟨length, taken⟩ := offeredTo_of_live gauged.purge.1.counted data.text live
  simp only [eventOffered, Router.route, known, Router.fanOut]
  refine ⟨length, ?_⟩
  rw [← taken]
  cases r.purge.entries.matching topic <;> rfl

theorem route (gauged : r.Gauged) (channel : String) (data : Json) :
    (r.route channel data).1.Gauged ∧
      (r.route channel data).1.roster.metrics.messagesDropped =
        r.roster.metrics.messagesDropped + tally .full (r.eventOffered channel data) ∧
      (r.route channel data).1.roster.metrics.eventsRouted =
        r.roster.metrics.eventsRouted + tally .accepted (r.eventOffered channel data) := by
  cases known : Topic.ofChannel? channel with
  | none =>
      simp only [Router.route, eventOffered, known]
      exact ⟨gauged, rfl, rfl⟩
  | some topic =>
      obtain ⟨-, delivered⟩ := gauged.copies channel data known
      obtain ⟨purged, dropped, routed⟩ := gauged.purge
      have charged := charged_deliverAll r.purge.roster data.text (r.purge.entries.matching topic)
      have kept := purged.counted.charged charged
      rw [← delivered]
      simp only [Router.route, eventOffered, known, Router.fanOut] at charged ⊢
      cases recipients : r.purge.entries.matching topic with
      | nil => exact ⟨purged, dropped, routed⟩
      | cons first rest =>
          rw [recipients] at charged kept
          refine ⟨⟨?_, kept.live, kept.distinct, kept.housed⟩, ?_, ?_⟩
          · exact (congrArg RoutingMetrics.subscriptionEntries charged.metrics).trans purged.entries
          · exact (congrArg RoutingMetrics.messagesDropped charged.metrics).trans
              (congrArg (· + _) dropped)
          · exact congrArg (· + _)
              ((congrArg RoutingMetrics.eventsRouted charged.metrics).trans routed)

end Gauged

end Router

/-! ## Runs -/

namespace Routing

def Act.viaRouter : Act → Bool
  | .router (.addEntry _ _) => false
  | _ => true

def copies (s : Routing) (act : Act) : List Offered :=
  match act.onRoster? with
  | some _ => []
  | none => s.offers act

/-- All copies of events that were offered in the course of a run. -/
def copiesIn : Routing → List Act → List Offered
  | _, [] => []
  | s, act :: rest => s.copies act ++ copiesIn (s.act act) rest

/-- The metrics after a run with these offers and these copies of events among them. -/
structure Truthful (s : Routing) (log copies : List Offered) : Prop where
  gauged : s.router.Gauged
  dropped : s.router.roster.metrics.messagesDropped = tally .full log
  routed : s.router.roster.metrics.eventsRouted = tally .accepted copies

namespace Truthful

variable {s : Routing} {log copied : List Offered}

theorem quiet (truthful : s.Truthful log copied) {after : Routing} {act : Act}
    (silent : s.offers act = []) (gauged : after.router.Gauged)
    (dropped : after.router.roster.metrics.messagesDropped =
      s.router.roster.metrics.messagesDropped)
    (routed : after.router.roster.metrics.eventsRouted = s.router.roster.metrics.eventsRouted) :
    after.Truthful (log ++ s.offers act) (copied ++ s.copies act) := by
  have none : s.copies act = [] := by
    unfold copies
    split
    · rfl
    · exact silent
  rw [silent, none, List.append_nil, List.append_nil]
  exact ⟨gauged, dropped.trans truthful.dropped, routed.trans truthful.routed⟩

theorem onRoster (truthful : s.Truthful log copied) {act : Act} {step : Roster.Step}
    (made : act.onRoster? = some step) :
    (s.act act).Truthful (log ++ s.offers act) (copied ++ s.copies act) := by
  obtain ⟨after, offers⟩ := act_of_onRoster? made s
  obtain ⟨counted, dropped, routed, entries⟩ := truthful.gauged.counted.step step
  have none : s.copies act = [] := by simp [copies, made]
  rw [after, offers, none, List.append_nil]
  refine ⟨⟨entries.trans truthful.gauged.entries, counted⟩, ?_, routed.trans truthful.routed⟩
  rw [Offered.tally_append, ← truthful.dropped]
  exact dropped

theorem route (truthful : s.Truthful log copied) (channel : String) (data : Json) :
    Truthful { s with router := (s.router.route channel data).1 }
      (log ++ s.router.eventOffered channel data)
      (copied ++ s.router.eventOffered channel data) := by
  obtain ⟨gauged, dropped, routed⟩ := truthful.gauged.route channel data
  refine ⟨gauged, ?_, ?_⟩
  · rw [Offered.tally_append, ← truthful.dropped]
    exact dropped
  · rw [Offered.tally_append, ← truthful.routed]
    exact routed

theorem subscribe (truthful : s.Truthful log copied) (session : SessionId) (topic : Topic) :
    let after := (s.subscribe session topic).1
    after.router.Gauged ∧
      after.router.roster.metrics.messagesDropped = s.router.roster.metrics.messagesDropped ∧
      after.router.roster.metrics.eventsRouted = s.router.roster.metrics.eventsRouted := by
  have gauged := truthful.gauged
  unfold Routing.subscribe Router.beginSubscribe Link.send
  cases s.link.isOpen with
  | false => exact ⟨gauged, rfl, rfl⟩
  | true =>
      have reserved : (s.router.reserve topic).2.Gauged := ⟨gauged.entries, gauged.counted⟩
      cases s.link.nextFailure with
      | some cause => exact ⟨reserved, rfl, rfl⟩
      | none => exact ⟨reserved.setEntries _, rfl, rfl⟩

theorem act (truthful : s.Truthful log copied) {act : Act} (viaRouter : act.viaRouter = true) :
    (s.act act).Truthful (log ++ s.offers act) (copied ++ s.copies act) := by
  -- An act that works on the roster alone makes offers that are no copies of events, and an event
  -- makes no others. Every other act makes no offers at all.
  cases made : act.onRoster? with
  | some step => exact truthful.onRoster made
  | none =>
      have gauged := truthful.gauged
      cases act with
      | roster step => cases made
      | router step =>
          cases step with
          | connect | vanish | dropWriter | take => cases made
          | addEntry => cases viaRouter
          | setOpen | failNextSend | clientError | exchangeOpen | exchangeError =>
              exact truthful.quiet rfl gauged rfl rfl
          | exchangeClose | halt =>
              exact truthful.quiet rfl ⟨gauged.entries, gauged.counted⟩ rfl rfl
          | disconnect session =>
              have left : (s.router.onRoster (·.unregister session)).roster.Counted :=
                gauged.counted.unregister session
              exact truthful.quiet rfl ⟨rfl, left.live, left.distinct, left.housed⟩ rfl rfl
          | clientText session text =>
              dsimp only [Routing.act, Routing.step, clientText]
              cases ClientRequest.parse text with
              | error cause => exact truthful.quiet rfl gauged rfl rfl
              | ok topic =>
                  obtain ⟨after, dropped, routed⟩ := truthful.subscribe session topic
                  exact truthful.quiet rfl after dropped routed
          | subscribe session topic =>
              obtain ⟨after, dropped, routed⟩ := truthful.subscribe session topic
              have same : (s.act (.router (.subscribe session topic))).router =
                  (s.subscribe session topic).1.router := by
                dsimp only [Routing.act, Routing.step]
                split <;> simp_all
              exact truthful.quiet rfl (same ▸ after) (same ▸ dropped) (same ▸ routed)
          | exchangeText text =>
              dsimp only [Routing.act, Routing.step, onRouter, Router.exchangeText, offers, copies,
                Act.onRoster?]
              rcases Rpc.Inbound.decode text with
                cause | ⟨number, refusal⟩ | ⟨channel, data⟩ | value
              · simpa using truthful
              · simpa using truthful
              · exact truthful.route channel data
              · simpa using truthful
          | route channel data => exact truthful.route channel data

theorem acts (truthful : s.Truthful log copied) {list : List Act}
    (viaRouter : ∀ act ∈ list, act.viaRouter = true) :
    (s.acts list).Truthful (log ++ s.history list) (copied ++ s.copiesIn list) := by
  induction list generalizing s log copied with
  | nil => simpa [history, copiesIn, Routing.acts] using truthful
  | cons act rest ih =>
      obtain ⟨first, others⟩ := List.forall_mem_cons.mp viaRouter
      rw [history, copiesIn, ← List.append_assoc, ← List.append_assoc]
      exact ih (truthful.act first) others

end Truthful

/-- After every run that leaves the subscriptions to the router: the gauges hold how many
subscriptions and registered sessions there are; what was routed is what the queues accepted of the
copies of events, and what was dropped is all that a full queue refused. An event that comes next
is offered once for each of its subscriptions that are left, and counted as it is answered. What
the log has as accepted is what the queues took. -/
theorem metrics_truthful (interval : String) {list : List Act}
    (viaRouter : ∀ act ∈ list, act.viaRouter = true) :
    let s : Routing := { router := { interval } }
    let now := s.acts list
    let metrics := now.router.roster.metrics
    metrics.subscriptionEntries = now.router.entries.length ∧
      (metrics.liveSessions = now.router.roster.registered.length ∧
        (now.router.roster.registered.map (·.1)).Nodup) ∧
      metrics.eventsRouted = tally .accepted (s.copiesIn list) ∧
      metrics.messagesDropped = tally .full (s.history list) ∧
      (∀ channel data topic, Topic.ofChannel? channel = some topic →
        let copies := now.router.eventOffered channel data
        (now.router.purge.entries.matching topic).length =
            tally .accepted copies + tally .full copies + tally .closed copies ∧
          (now.router.route channel data).2 = tally .accepted copies) ∧
      (∀ later place session, now.router.roster.sessions[place]? = some session →
        ∃ outbox, (now.acts later).router.roster.sessions[place]? = some { session with outbox } ∧
          session.outbox.waiting ++ Offered.acceptedAt place (now.history later) =
            now.takenIn place later ++ outbox.waiting) := by
  intro s now metrics
  have fresh : s.Truthful [] [] := ⟨⟨rfl, rfl, List.nodup_nil, nofun⟩, rfl, rfl⟩
  obtain ⟨gauged, dropped, routed⟩ := fresh.acts viaRouter
  refine ⟨gauged.entries, ⟨gauged.counted.live, gauged.counted.distinct⟩, routed, dropped, ?_, ?_⟩
  · intro channel data topic known copies
    obtain ⟨length, delivered⟩ := gauged.copies channel data known
    exact ⟨length.symm.trans (Offered.length_eq_tallies copies), delivered⟩
  · intro later place session located
    exact now.acts_accounts later located

theorem metrics_truthful_of_mixed_clients :
    let join (id : UInt64) (capacity : Nat) : List Act :=
      [.router (.connect (.fresh ⟨id⟩ .text capacity)),
        .router (.clientText ⟨id⟩ "[\"subscribe_orderbook\",\"A\"]")]
    let list := join 1 3 ++ join 2 1 ++ join 3 1 ++ join 4 1 ++
      [.router (.dropWriter ⟨3⟩), .router (.vanish ⟨4⟩),
        .router (.route "book.A.1" (.nat 7)), .roster (.broadcast "8"), .roster (.close ⟨2⟩)]
    let s : Routing := { router := { interval := "100ms" } }
    let metrics := (s.acts list).router.roster.metrics
    (∀ act ∈ list, act.viaRouter = true) ∧
      metrics.subscriptionEntries = (s.acts list).router.entries.length ∧
      metrics.eventsRouted = tally .accepted (s.copiesIn list) ∧
      metrics.messagesDropped = tally .full (s.history list) ∧ metrics = ⟨2, 2, 3, 3⟩ := by
  intro join list
  have viaRouter : ∀ act ∈ list, act.viaRouter = true := by decide +kernel
  obtain ⟨entries, -, routed, dropped, -⟩ := metrics_truthful "100ms" viaRouter
  exact ⟨viaRouter, entries, routed, dropped, by decide +kernel⟩

/-! ## Registers -/

def Explained (s : Routing) : Prop := ∃ log copied, s.Truthful log copied

theorem Explained.act {s : Routing} (explained : s.Explained) {act : Act}
    (viaRouter : act.viaRouter = true) :
    (s.act act).Explained ∧
      s.router.roster.metrics.messagesDropped ≤ (s.act act).router.roster.metrics.messagesDropped ∧
      s.router.roster.metrics.eventsRouted ≤ (s.act act).router.roster.metrics.eventsRouted := by
  obtain ⟨log, copied, truthful⟩ := explained
  have next := truthful.act viaRouter
  refine ⟨⟨_, _, next⟩, ?_⟩
  rw [next.dropped, next.routed, truthful.dropped, truthful.routed, Offered.tally_append,
    Offered.tally_append]
  exact ⟨Nat.le_add_right _ _, Nat.le_add_right _ _⟩

theorem copiesIn_length_le (s : Routing) (list : List Act) :
    (s.copiesIn list).length ≤ (s.history list).length := by
  induction list generalizing s with
  | nil => exact Nat.le_refl _
  | cons act rest ih =>
      have first : (s.copies act).length ≤ (s.offers act).length := by
        unfold copies
        split
        · exact Nat.zero_le _
        · exact Nat.le_refl _
      rw [copiesIn, history, List.length_append, List.length_append]
      exact Nat.add_le_add first (ih (s.act act))

/-- Registers of 64 bits that are raised along with the counters show the same, as long as fewer
frames than such a register has values were ever offered. -/
theorem registers_truthful (interval : String) {list : List Act}
    (viaRouter : ∀ act ∈ list, act.viaRouter = true) :
    let s : Routing := { router := { interval } }
    let metrics := (s.acts list).router.roster.metrics
    (s.history list).length < UInt64.size →
      (tracked act (·.router.roster.metrics.messagesDropped) 0 s list).toNat =
          metrics.messagesDropped ∧
        (tracked act (·.router.roster.metrics.eventsRouted) 0 s list).toNat =
          metrics.eventsRouted := by
  intro s metrics few
  have fresh : s.Truthful [] [] := ⟨⟨rfl, rfl, List.nodup_nil, nofun⟩, rfl, rfl⟩
  obtain ⟨-, dropped, routed⟩ := fresh.acts viaRouter
  have explained : s.Explained := ⟨_, _, fresh⟩
  have drops {s : Routing} {act : Act} (known : s.Explained) (allowed : act.viaRouter = true) :=
    (known.act allowed).imp_right And.left
  have routes {s : Routing} {act : Act} (known : s.Explained) (allowed : act.viaRouter = true) :=
    (known.act allowed).imp_right And.right
  have dropsFit : metrics.messagesDropped < UInt64.size :=
    dropped ▸ Nat.lt_of_le_of_lt List.countP_le_length few
  have routedFit : metrics.eventsRouted < UInt64.size :=
    routed ▸ Nat.lt_of_le_of_lt
      (List.countP_le_length.trans (s.copiesIn_length_le list)) few
  exact ⟨toNat_tracked drops explained viaRouter rfl dropsFit,
    toNat_tracked routes explained viaRouter rfl routedFit⟩

end Routing

end FeedBridge
