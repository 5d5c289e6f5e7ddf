import FeedBridge.Bridge.Basic
import FeedBridge.Proofs.Client.Tidy
import FeedBridge.Proofs.Uplink.Rested
import Mathlib.Tactic.SplitIfs

namespace FeedBridge.Bridge

inductive Event
  | start (bind : Except String Unit)
  | connect (url : String) (timeout : Span) (dial : Dial)
  | enter
  | hear (id : SessionId) (incoming : Incoming)
  | receive (incoming : Incoming)
  | broadcast (payload : String)
  | write (place count : Nat)
  | dropWriter (place : Nat)
  | stop (farewell : Farewell)

def event (b : Bridge) : Event → Bridge
  | .start bind => (b.start bind).1
  | .connect url timeout dial => (b.connectUplink url timeout dial).1
  | .enter => if b.listening then b.enter.2 else b
  | .hear id incoming => (b.clientReceive id incoming).1
  | .receive incoming => if b.uplink.isOpen then b.receive incoming else b
  | .broadcast payload => (b.broadcast payload).1
  | .write place count => b.onRouter (·.onRoster fun r => (r.takeAt place count).2)
  | .dropWriter place => b.onRouter (·.onRoster (·.dropWriterAt place))
  | .stop farewell => (b.stop farewell).1

def play (b : Bridge) (events : List Event) : Bridge := events.foldl event b

theorem play_append (b : Bridge) (events later : List Event) :
    b.play (events ++ later) = (b.play events).play later := List.foldl_append

def Event.isStop : Event → Bool
  | .stop _ => true
  | _ => false

theorem running_exchangeText (r : Router) (text : String) :
    (r.exchangeText text).running = r.running := by
  have purged : r.purge.running = r.running := by
    dsimp only [Router.purge]
    split_ifs <;> rfl
  unfold Router.exchangeText Router.route Router.fanOut
  split
  · split
    · rfl
    · split <;> exact purged
  · rfl

def Routes (b after : Bridge) : Prop :=
  ∃ router, after = { b with router } ∧ (b.router.running = false → router.running = false)

theorem Routes.refl (b : Bridge) : b.Routes b := ⟨b.router, rfl, id⟩

theorem Routes.trans {before between after : Bridge} (first : before.Routes between)
    (second : between.Routes after) : before.Routes after := by
  obtain ⟨router, rfl, halted⟩ := first
  obtain ⟨router, rfl, still⟩ := second
  exact ⟨router, rfl, still ∘ halted⟩

theorem routes_handleAll (b : Bridge) (calls : List HandlerCall) : b.Routes (b.handleAll calls) := by
  induction calls generalizing b with
  | nil => exact .refl b
  | cons call rest ih =>
      refine Routes.trans ?_ (ih (b.handle call))
      cases call with
      | message text => exact ⟨_, rfl, (running_exchangeText b.router text).trans⟩
      | closed => exact ⟨_, rfl, fun _ => rfl⟩
      | opened | error => exact .refl b

structure Vacant (b : Bridge) : Prop where
  stopped : b.stopped = true
  broker : b.brokerStopped = true
  listening : b.listening = false
  registered : b.roster.registered = []

structure Still (b : Bridge) : Prop extends Vacant b where
  halted : b.router.running = false
  entries : b.router.entries = []
  gauge : b.roster.metrics.subscriptionEntries = 0

namespace Vacant

variable {b : Bridge}

theorem sayFarewell (vacant : b.Vacant) (place : Nat) : (b.sayFarewell place).Vacant := by
  refine ⟨vacant.stopped, vacant.broker, vacant.listening, ?_⟩
  exact (Roster.registered_offerAt _ _ _).trans vacant.registered

theorem leave (vacant : b.Vacant) (id : SessionId) : (b.leave id).Vacant := by
  refine ⟨vacant.stopped, vacant.broker, vacant.listening, ?_⟩
  have registered : (b.leave id).roster.registered =
      b.roster.registered.filter fun entry => entry.1 != id := rfl
  rw [registered, vacant.registered]
  rfl

theorem foldl {α : Type} {op : Bridge → α → Bridge} (vacant : b.Vacant)
    (keeps : ∀ {b : Bridge}, b.Vacant → ∀ a, (op b a).Vacant)
    (uplink : ∀ b a, (op b a).uplink = b.uplink) (rest : List α) :
    (rest.foldl op b).Vacant ∧ (rest.foldl op b).uplink = b.uplink := by
  induction rest generalizing b with
  | nil => exact ⟨vacant, rfl⟩
  | cons a rest ih =>
      obtain ⟨still, same⟩ := ih (keeps vacant a)
      exact ⟨still, same.trans (uplink b a)⟩

theorem stopBroker (stopped : b.stopped = true) (serving : b.brokerStopped = false) :
    b.stopBroker.Vacant ∧ b.stopBroker.uplink = b.uplink := by
  have drained : Vacant ({ b with brokerStopped := true, listening := false }.onRouter
      (·.onRoster (·.clear))) := ⟨stopped, rfl, rfl, rfl⟩
  unfold Bridge.stopBroker
  rw [if_neg (by simp [serving])]
  exact drained.foldl sayFarewell (fun _ _ => rfl) _

theorem clearRouter (vacant : b.Vacant) : b.clearRouter.Still :=
  ⟨⟨vacant.stopped, vacant.broker, vacant.listening, vacant.registered⟩, rfl, rfl, rfl⟩

end Vacant

theorem closeUplink_eq (b : Bridge) (farewell : Farewell) :
    ∃ router, (b.closeUplink farewell).1 =
      { b with uplink := (b.uplink.close farewell).1, router } := by
  obtain ⟨router, same, -⟩ := routes_handleAll
    { b with uplink := (b.uplink.close farewell).1 } (b.uplink.close farewell).2.1
  exact ⟨router, same⟩

theorem isOpen_close (u : Uplink) (farewell : Farewell) : (u.close farewell).1.isOpen = false := by
  unfold Uplink.close Uplink.beginClose?
  cases isOpen : u.isOpen with
  | true => rfl
  | false => simpa using isOpen

theorem first_stop {b : Bridge} (going : b.stopped = false) (serving : b.brokerStopped = false)
    (farewell : Farewell) :
    (b.stop farewell).1.Still ∧ (b.stop farewell).1.uplink.isOpen = false := by
  obtain ⟨router, closed⟩ := closeUplink_eq { b with stopped := true } farewell
  have vacant : (closeUplink { b with stopped := true } farewell).1.stopBroker.Vacant ∧
      (closeUplink { b with stopped := true } farewell).1.stopBroker.uplink =
        (b.uplink.close farewell).1 := by
    rw [closed]
    exact Vacant.stopBroker rfl serving
  obtain ⟨left, uplink⟩ := vacant.1.foldl Vacant.leave (fun _ _ => rfl) b.sessionIds
  unfold Bridge.stop
  rw [if_neg (by simp [going])]
  refine ⟨left.clearRouter, ?_⟩
  exact (congrArg Uplink.isOpen (uplink.trans vacant.2)).trans (isOpen_close b.uplink farewell)

theorem stop_of_stopped {b : Bridge} (stopped : b.stopped = true) (farewell : Farewell) :
    (b.stop farewell).1 = b := by
  simp [Bridge.stop, stopped]

namespace Still

variable {b : Bridge}

theorem exchangeText (still : b.Still) (text : String) : b.router.exchangeText text = b.router := by
  have purged : b.router.purge = b.router := by simp [Router.purge, still.entries, Subscriptions.purge]
  unfold Router.exchangeText Router.route Router.fanOut
  split
  · split
    · rfl
    · rw [purged, still.entries]
      rfl
  · rfl

theorem handleAll (still : b.Still) (calls : List HandlerCall) : (b.handleAll calls).Still := by
  refine List.foldlRecOn _ _ still fun b still call _ => ?_
  cases call with
  | message text =>
      have same : b.handle (.message text) = b := by
        change { b with router := b.router.exchangeText text } = b
        rw [still.exchangeText]
      rwa [same]
  | closed =>
      have vacant : (b.handle .closed).Vacant :=
        ⟨still.stopped, still.broker, still.listening, still.registered⟩
      exact ⟨vacant, rfl, still.entries, still.gauge⟩
  | opened | error => exact still

theorem handled (still : b.Still) (uplink : Uplink) (calls : List HandlerCall) :
    ({ b with uplink }.handleAll calls).Still := by
  have vacant : Vacant { b with uplink } :=
    ⟨still.stopped, still.broker, still.listening, still.registered⟩
  have attached : Still { b with uplink } := ⟨vacant, still.halted, still.entries, still.gauge⟩
  exact attached.handleAll calls

theorem start (still : b.Still) (bind : Except String Unit) : (b.start bind).1.Still := by
  unfold Bridge.start
  split_ifs
  · exact still
  · cases bind with
    | ok =>
        have deaf : (!b.brokerStopped) = false := by simp [still.broker]
        exact ⟨⟨still.stopped, still.broker, deaf, still.registered⟩, still.halted, still.entries,
          still.gauge⟩
    | error reason =>
        exact ⟨⟨still.stopped, still.broker, still.listening, still.registered⟩, still.halted,
          still.entries, still.gauge⟩

theorem queues (still : b.Still) {change : Roster → Roster}
    (registered : (change b.roster).registered = b.roster.registered)
    (metrics : (change b.roster).metrics = b.roster.metrics) :
    (b.onRouter (·.onRoster change)).Still :=
  ⟨⟨still.stopped, still.broker, still.listening, registered.trans still.registered⟩, still.halted,
    still.entries, (congrArg RoutingMetrics.subscriptionEntries metrics).trans still.gauge⟩

theorem event (still : b.Still) (event : Event) : (b.event event).Still := by
  cases event with
  | start bind => exact still.start bind
  | connect url timeout dial => exact still.handled _ _
  | enter =>
      dsimp only [Bridge.event]
      rw [still.listening]
      exact still
  | hear id incoming =>
      have gone : b.roster.isLive id = false := by
        simp [Roster.isLive, Roster.find?, still.registered]
      simpa [Bridge.event, clientReceive, gone] using still
  | receive incoming =>
      dsimp only [Bridge.event]
      split_ifs
      · exact still.handled _ _
      · exact still
  | broadcast payload =>
      have same : b.roster.broadcast payload = (b.roster, 0) := by
        simp [Roster.broadcast, still.registered, Roster.sendAll]
      simp only [Bridge.event, Bridge.broadcast, same]
      exact still
  | write place count =>
      have same : (b.roster.takeAt place count).2.registered = b.roster.registered ∧
          (b.roster.takeAt place count).2.metrics = b.roster.metrics := by
        unfold Roster.takeAt
        cases b.roster.sessions[place]? <;> exact ⟨rfl, rfl⟩
      exact still.queues same.1 same.2
  | dropWriter place => exact still.queues rfl rfl
  | stop farewell =>
      rw [Bridge.event, stop_of_stopped still.stopped]
      exact still

theorem play (still : b.Still) (events : List Event) : (b.play events).Still :=
  List.foldlRecOn _ _ still fun _ still event _ => still.event event

end Still

theorem routes_clientText (b : Bridge) (id : SessionId) (text : String) :
    b.Routes (b.clientText id text).1 := by
  unfold clientText beginText
  cases ClientRequest.parse text with
  | error cause => exact .refl b
  | ok topic =>
      unfold Router.beginSubscribe
      cases b.uplink.isOpen with
      | false => exact .refl b
      | true =>
          simp only [if_true]
          generalize sendUplink _ _ _ = written
          cases written <;> exact ⟨_, rfl, fun halted => halted⟩

theorem routes_clientReceive (b : Bridge) (id : SessionId) (incoming : Incoming) :
    b.Routes (b.clientReceive id incoming).1 := by
  unfold clientReceive
  split_ifs
  · exact .refl b
  · exact ⟨_, rfl, fun halted => halted⟩
  · cases incoming with
    | message frame =>
        dsimp only
        cases frame.message? with
        | some text => exact b.routes_clientText id text
        | none => exact .refl b
    | control | ended | failed => exact .refl b

theorem flags_event (b : Bridge) {event : Event} (goesOn : event.isStop = false) :
    (b.event event).stopped = b.stopped ∧ (b.event event).brokerStopped = b.brokerStopped ∧
      (b.router.running = false → (b.event event).router.running = false) := by
  have routes {uplink : Uplink} {after : Bridge} (same : Routes { b with uplink } after) :
      after.stopped = b.stopped ∧ after.brokerStopped = b.brokerStopped ∧
        (b.router.running = false → after.router.running = false) := by
    obtain ⟨router, rfl, halted⟩ := same
    exact ⟨rfl, rfl, halted⟩
  cases event with
  | stop farewell => cases goesOn
  | start bind =>
      dsimp only [Bridge.event, Bridge.start]
      split_ifs
      · exact ⟨rfl, rfl, id⟩
      · cases bind <;> exact ⟨rfl, rfl, id⟩
  | connect url timeout dial => exact routes (routes_handleAll _ _)
  | enter =>
      dsimp only [Bridge.event]
      split_ifs <;> exact ⟨rfl, rfl, id⟩
  | hear id incoming => exact routes (b.routes_clientReceive id incoming)
  | receive incoming =>
      dsimp only [Bridge.event]
      split_ifs
      · exact routes (routes_handleAll _ _)
      · exact ⟨rfl, rfl, id⟩
  | broadcast | write | dropWriter => exact ⟨rfl, rfl, id⟩

theorem isOpen_connect {u : Uplink} {url : String} {timeout : Span} {dial : Dial}
    (isOpen : (u.connect url timeout dial).1.isOpen = true) :
    u.isOpen = true ∨ (u.connect url timeout dial).2.2 = .ok () := by
  unfold Uplink.connect at isOpen ⊢
  rcases u.beginConnect?_cases with ⟨busy, -⟩ | ⟨begun, -⟩
  · rw [busy] at isOpen
    exact .inl isOpen
  · rw [begun] at isOpen ⊢
    cases dial with
    | accepted => exact .inr rfl
    | failed | timedOut => cases isOpen

theorem isOpen_event {b : Bridge} (stopped : b.stopped = true) {event : Event}
    (isOpen : (b.event event).uplink.isOpen = true) :
    b.uplink.isOpen = true ∨ ∃ url timeout dial, event = .connect url timeout dial ∧
      (b.connectUplink url timeout dial).2 = .ok () := by
  cases event with
  | start bind =>
      left
      dsimp only [Bridge.event, Bridge.start] at isOpen
      split_ifs at isOpen
      · exact isOpen
      · cases bind <;> exact isOpen
  | connect url timeout dial =>
      have uplink : (b.event (.connect url timeout dial)).uplink =
          (b.uplink.connect url timeout dial).1 := by
        obtain ⟨router, same, -⟩ := routes_handleAll
          { b with uplink := (b.uplink.connect url timeout dial).1 }
          (b.uplink.connect url timeout dial).2.1
        exact congrArg Bridge.uplink same
      rw [uplink] at isOpen
      exact (isOpen_connect isOpen).imp_right fun connected => ⟨url, timeout, dial, rfl, connected⟩
  | enter =>
      left
      dsimp only [Bridge.event] at isOpen
      split_ifs at isOpen <;> exact isOpen
  | hear id incoming =>
      obtain ⟨router, same, -⟩ := b.routes_clientReceive id incoming
      rw [Bridge.event, same] at isOpen
      exact .inl isOpen
  | receive incoming =>
      left
      by_contra shut
      simp [Bridge.event, shut] at isOpen
  | broadcast | write | dropWriter => exact .inl isOpen
  | stop farewell =>
      rw [Bridge.event, stop_of_stopped stopped] at isOpen
      exact .inl isOpen

theorem Still.isOpen_play {b : Bridge} (still : b.Still) (shut : b.uplink.isOpen = false)
    {events : List Event} (isOpen : (b.play events).uplink.isOpen = true) :
    ∃ early url timeout dial late, events = early ++ .connect url timeout dial :: late ∧
      ((b.play early).connectUplink url timeout dial).2 = .ok () := by
  induction events generalizing b with
  | nil =>
      rw [Bridge.play, List.foldl_nil, shut] at isOpen
      cases isOpen
  | cons event rest ih =>
      cases opened : (b.event event).uplink.isOpen with
      | true =>
          rcases isOpen_event still.stopped opened with already | ⟨url, timeout, dial, rfl, connected⟩
          · rw [shut] at already
            cases already
          · exact ⟨[], url, timeout, dial, rest, rfl, connected⟩
      | false =>
          obtain ⟨early, url, timeout, dial, late, rfl, connected⟩ :=
            ih (still.event event) opened isOpen
          exact ⟨event :: early, url, timeout, dial, late, rfl, connected⟩

/-! ## Runs -/

def Going (b : Bridge) : Prop := b.stopped = false ∧ b.brokerStopped = false

theorem Going.event {b : Bridge} (going : b.Going) {event : Event} (goesOn : event.isStop = false) :
    (b.event event).Going := by
  obtain ⟨stopped, broker, -⟩ := flags_event b goesOn
  exact ⟨stopped.trans going.1, broker.trans going.2⟩

theorem Event.eq_stop {event : Event} (stops : event.isStop = true) :
    ∃ farewell, event = .stop farewell := by
  cases event with
  | stop farewell => exact ⟨farewell, rfl⟩
  | _ => cases stops

theorem Going.play {b : Bridge} (going : b.Going) (events : List Event) :
    ((b.play events).Going ∧ ∀ event ∈ events, event.isStop = false) ∨
      ∃ early farewell late, events = early ++ .stop farewell :: late ∧ (b.play early).Going := by
  induction events generalizing b with
  | nil => exact .inl ⟨going, nofun⟩
  | cons event rest ih =>
      cases stops : event.isStop with
      | false =>
          rcases ih (going.event stops) with ⟨still, none⟩ | ⟨early, farewell, late, rfl, still⟩
          · exact .inl ⟨still, List.forall_mem_cons.mpr ⟨stops, none⟩⟩
          · exact .inr ⟨event :: early, farewell, late, rfl, still⟩
      | true =>
          obtain ⟨farewell, rfl⟩ := Event.eq_stop stops
          exact .inr ⟨[], farewell, rest, rfl, going⟩

theorem Still.isRunning {b : Bridge} (still : b.Still) : b.isRunning = false := by
  simp [Bridge.isRunning, still.stopped]

theorem Going.isRunning_play {b : Bridge} (going : b.Going) (halted : b.isRunning = false)
    (events : List Event) : (b.play events).isRunning = false := by
  induction events generalizing b with
  | nil => exact halted
  | cons event rest ih =>
      cases stops : event.isStop with
      | false =>
          obtain ⟨stopped, -, router⟩ := flags_event b stops
          have ended : b.router.running = false := by simpa [Bridge.isRunning, going.1] using halted
          exact ih (going.event stops) (by simp [Bridge.isRunning, router ended])
      | true =>
          obtain ⟨farewell, rfl⟩ := Event.eq_stop stops
          exact ((first_stop going.1 going.2 farewell).1.play rest).isRunning

theorem Going.stop_still {b : Bridge} (going : b.Going) (events : List Event)
    (farewell : Farewell) : ((b.play events).stop farewell).1.Still := by
  rcases going.play events with ⟨going, -⟩ | ⟨early, told, late, rfl, going⟩
  · exact (first_stop going.1 going.2 farewell).1
  · have still : (b.play (early ++ .stop told :: late)).Still := by
      rw [play_append]
      exact Still.play (first_stop going.1 going.2 told).1 late
    rwa [stop_of_stopped still.stopped]

/-- After whatever happened since the beginning, a stop leaves no session and no subscription, and
the bridge does not run; so it stays. If there is a connection then, it was made after an earlier
stop, and a stop after an earlier one does nothing at all. -/
theorem stop_leaves_still (settings : BrokerSettings) (interval : String) (events : List Event)
    (farewell : Farewell) :
    let first : Bridge := { settings, router := { interval } }
    let before := first.play events
    let after := (before.stop farewell).1
    (∀ later, let b := after.play later
      b.roster.registered = [] ∧ b.router.entries = [] ∧
        b.metrics.routing.subscriptionEntries = 0 ∧ b.isRunning = false) ∧
      (after.uplink.isOpen = true → ∃ early told between url timeout dial late,
        events = early ++ .stop told :: (between ++ .connect url timeout dial :: late) ∧
          ((first.play (early ++ .stop told :: between)).connectUplink url timeout dial).2 = .ok ()) ∧
      (∀ told, .stop told ∈ events → after = before) ∧
      (before.isRunning = false → ∀ later, (before.play later).isRunning = false) := by
  intro first before after
  have going : first.Going := ⟨rfl, rfl⟩
  have still : after.Still := going.stop_still events farewell
  refine ⟨fun later => ?_, ?_⟩
  · have still := still.play later
    exact ⟨still.registered, still.entries, still.gauge, still.isRunning⟩
  · rcases going.play events with ⟨going, none⟩ | ⟨early, told, late, rfl, going⟩
    · refine ⟨fun isOpen => ?_, fun told listed => ?_, going.isRunning_play⟩
      · rw [(first_stop going.1 going.2 farewell).2] at isOpen
        cases isOpen
      · have goesOn := none (.stop told) listed
        cases goesOn
    · obtain ⟨stopped, shut⟩ := first_stop going.1 going.2 told
      have split : before = ((first.play early).event (.stop told)).play late := play_append _ _ _
      have rested : before.Still := split ▸ Still.play stopped late
      have same : after = before := stop_of_stopped rested.stopped farewell
      refine ⟨fun isOpen => ?_, fun _ _ => same, fun _ events => (rested.play events).isRunning⟩
      rw [same, split] at isOpen
      obtain ⟨between, url, timeout, dial, rest, rfl, connected⟩ := stopped.isOpen_play shut isOpen
      refine ⟨early, told, between, url, timeout, dial, rest, rfl, ?_⟩
      rw [play_append]
      exact connected

/-- A second stop does not close the connection that was made after the first one. -/
theorem open_after_second_stop :
    let settings : BrokerSettings := ⟨⟨.v4 [127, 0, 0, 1], 9000⟩, .text, 65536, 4⟩
    let first : Bridge := { settings }
    let events : List Event :=
      [.stop .written, .connect "ws://exchange/" (.ofSeconds 10) .accepted]
    ((first.play events).stop .written).1.uplink.state = .open := by
  decide +kernel

end FeedBridge.Bridge
