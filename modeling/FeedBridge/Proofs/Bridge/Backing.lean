import FeedBridge.Bridge.Task
import FeedBridge.Client.RosterStep
import FeedBridge.Proofs.Feed.Serving
import FeedBridge.Proofs.Uplink.Rested

/-!
# What backs a subscription

The tasks of all sessions take turns with the exchange and with the owner of the bridge, who may
connect again after a connection ended (`Service.step`). A connection that is made anew inherits
the subscriptions, and nothing is asked of the exchange on it that was asked before.
-/

namespace FeedBridge

structure Bridge.Quiet (before after : Bridge) : Prop where
  uplink : after.uplink = before.uplink
  router : before.router.Quiet after.router

namespace Bridge.Quiet

theorem refl (b : Bridge) : b.Quiet b := ⟨rfl, .refl _⟩

theorem trans {before between after : Bridge} (first : before.Quiet between)
    (second : between.Quiet after) : before.Quiet after :=
  ⟨second.uplink.trans first.uplink, first.router.trans second.router⟩

theorem onRoster (b : Bridge) (change : Roster → Roster) :
    b.Quiet (b.onRouter (·.onRoster change)) := ⟨rfl, .onRoster b.router change⟩

theorem handleAll (b : Bridge) (calls : List HandlerCall) : b.Quiet (b.handleAll calls) := by
  induction calls generalizing b with
  | nil => exact refl b
  | cons call rest ih =>
      refine trans ?_ (ih (b.handle call))
      cases call with
      | message text => exact ⟨rfl, .exchangeText _ _⟩
      | closed => exact ⟨rfl, rfl, List.Subset.refl _⟩
      | opened | error => exact refl b

theorem sayFarewell (places : List Nat) (b : Bridge) :
    b.Quiet (places.foldl Bridge.sayFarewell b) := by
  induction places generalizing b with
  | nil => exact refl b
  | cons place rest ih =>
      exact (onRoster b (·.closeAt place)).trans (ih _)

theorem stopBroker (b : Bridge) : b.Quiet b.stopBroker := by
  dsimp only [Bridge.stopBroker, Bridge.drain]
  split_ifs
  · exact refl b
  · have drained : b.Quiet ({ b with brokerStopped := true, listening := false }.onRouter
        (·.onRoster (·.clear))) := ⟨rfl, .onRoster _ _⟩
    exact drained.trans (sayFarewell _ _)

theorem beginText (b : Bridge) (text : String) : b.Quiet (b.beginText text).2 := by
  unfold Bridge.beginText Router.beginSubscribe
  cases ClientRequest.parse text with
  | error cause => exact refl b
  | ok topic =>
      cases b.uplink.isOpen with
      | false => exact refl b
      | true => exact ⟨rfl, rfl, List.Subset.refl _⟩

end Bridge.Quiet

theorem Bridge.beginText_request {b : Bridge} {text : String} {topic : Topic} {request : String}
    (begun : (b.beginText text).1 = some (topic, request)) :
    request = Router.subscribeText b.router.interval topic b.router.nextId := by
  unfold Bridge.beginText Router.beginSubscribe at begun
  cases parsed : ClientRequest.parse text with
  | error cause => simp [parsed] at begun
  | ok asked =>
      cases isOpen : b.uplink.isOpen with
      | false => simp [parsed, isOpen] at begun
      | true =>
          simp only [parsed, isOpen, if_true, Router.reserve, Option.some.injEq,
            Prod.mk.injEq] at begun
          obtain ⟨rfl, rfl⟩ := begun
          rfl

theorem Bridge.advanceReading_quiet (b : Bridge) (id : SessionId) (incoming : Incoming) :
    b.Quiet (b.advanceReading id incoming).1 ∧
      ∀ other topic request, (b.advanceReading id incoming).2.1 = .writing other topic request →
        ∃ number, request = Router.subscribeText b.router.interval topic number := by
  unfold Bridge.advanceReading
  cases incoming with
  | ended | failed error | control => exact ⟨.refl b, fun _ _ _ stands => by cases stands⟩
  | message frame =>
      dsimp only
      split_ifs
      · exact ⟨.refl b, fun _ _ _ stands => by cases stands⟩
      · cases frame.message? with
        | none => exact ⟨.refl b, fun _ _ _ stands => by cases stands⟩
        | some text =>
            have quiet := Bridge.Quiet.beginText b text
            have asks := @beginText_request b text
            dsimp only
            generalize b.beginText text = begun at quiet asks ⊢
            obtain ⟨begun | ⟨topic, request⟩, after⟩ := begun
            · exact ⟨quiet, fun _ _ _ stands => by cases stands⟩
            · refine ⟨quiet, ?_⟩
              rintro _ _ _ ⟨⟩
              exact ⟨_, asks rfl⟩

theorem Bridge.advance_quiet (b : Bridge) (point : TaskPoint) {event : TaskEvent}
    (unanswered : ∀ result, event ≠ .written result) :
    b.Quiet (b.advance point event).1 ∧
      ∀ id topic request, (b.advance point event).2.1 = .writing id topic request →
        point = .writing id topic request ∨
          ∃ number, request = Router.subscribeText b.router.interval topic number := by
  have stay : b.Quiet b := .refl b
  -- one case for each section, from the handshake to the farewell; the last is any misfit
  unfold Bridge.advance
  split
  case h_1 => exact ⟨⟨rfl, .refl _⟩, fun _ _ _ stands => by cases stands⟩
  case h_2 | h_4 | h_6 => exact ⟨stay, fun _ _ _ stands => by cases stands⟩
  case h_3 | h_8 => exact ⟨Bridge.Quiet.onRoster b _, fun _ _ _ stands => by cases stands⟩
  case h_5 id incoming =>
      obtain ⟨quiet, asks⟩ := b.advanceReading_quiet id incoming
      exact ⟨quiet, fun other topic request stands => .inr (asks other topic request stands)⟩
  case h_7 result => exact absurd rfl (unanswered result)
  case h_9 => exact ⟨⟨rfl, .forget b.router _⟩, fun _ _ _ stands => by cases stands⟩
  case h_10 => exact ⟨stay, fun _ _ _ stands => .inl stands⟩

/-! ## Sessions, the exchange and the owner -/

/-- Where the task of a session stands. A write may be done without the task knowing. -/
inductive TaskStand
  | standing (point : TaskPoint)
  | answered (id : SessionId) (topic : Topic) (request : String) (result : Except UplinkError Unit)
deriving DecidableEq

def TaskStand.onItsWay : TaskStand → Option Subscription
  | answered id topic _ (.ok ()) => some ⟨topic, id⟩
  | _ => none

structure Written where
  connection : Option Nat
  session : SessionId
  frame : Frame

/-- A bridge with the tasks of its sessions, and all that was written to the exchange. -/
structure Service where
  bridge : Bridge
  tasks : List TaskStand := []
  written : List Written := []
  inherited : Subscriptions := []

namespace Service

def start (settings : BrokerSettings) (interval : String) : Service :=
  { bridge := { settings, router := { interval } } }

def onBridge (s : Service) (change : Bridge → Bridge) : Service :=
  { s with bridge := change s.bridge }

def advance (s : Service) (task : Nat) (event : TaskEvent) : Service :=
  match s.tasks[task]?, event with
  | _, .written _ => s
  | some (.standing point), event =>
    let (bridge, next, _) := s.bridge.advance point event
    { s with bridge, tasks := s.tasks.set task (.standing next) }
  | _, _ => s

def write (s : Service) (task : Nat) (taken : Except String Unit) : Service :=
  match s.tasks[task]? with
  | some (.standing (.writing id topic request)) =>
    match s.bridge.sendUplink request taken with
    | .ok frame =>
      { s with
        tasks := s.tasks.set task (.answered id topic request (.ok ()))
        written := s.written ++ [⟨s.bridge.uplink.sink, id, frame⟩] }
    | .error cause =>
      { s with
        tasks := s.tasks.set task (.answered id topic request (.error cause.toUplinkError)) }
  | _ => s

def finish (s : Service) (task : Nat) : Service :=
  match s.tasks[task]? with
  | some (.answered id topic request result) =>
    let (bridge, next, _) := s.bridge.advance (.writing id topic request) (.written result)
    { s with bridge, tasks := s.tasks.set task (.standing next) }
  | _ => s

def connect (s : Service) (url : String) (timeout : Span) (dial : Dial) : Service :=
  match s.bridge.connectUplink url timeout dial with
  | (bridge, .ok ()) =>
    { s with
      bridge
      inherited := s.bridge.router.entries ++ s.tasks.filterMap TaskStand.onItsWay }
  | (bridge, .error _) => { s with bridge }

inductive Step
  | accept
  | advance (task : Nat) (event : TaskEvent)
  | write (task : Nat) (taken : Except String Unit)
  | finish (task : Nat)
  | connect (url : String) (timeout : Span) (dial : Dial)
  | receive (incoming : Incoming)
  | close (farewell : Farewell)
  | roster (step : Roster.Step)
  | stopBroker
  | clearRouter

def step (s : Service) : Step → Service
  | .accept => { s with tasks := s.tasks ++ [.standing .handshake] }
  | .advance task event => s.advance task event
  | .write task taken => s.write task taken
  | .finish task => s.finish task
  | .connect url timeout dial => s.connect url timeout dial
  | .receive incoming =>
    if s.bridge.uplink.isOpen then s.onBridge (·.receive incoming) else s
  | .close farewell => s.onBridge fun b => (b.closeUplink farewell).1
  | .roster step => s.onBridge (·.onRouter (·.onRoster fun r => (r.step step).1))
  | .stopBroker => s.onBridge (·.stopBroker)
  | .clearRouter => s.onBridge (·.clearRouter)

def run (s : Service) (steps : List Step) : Service := steps.foldl step s

/-! ## What backs an entry -/

/-- A subscribe request for the channel of an entry was written on a connection. -/
def WrittenOn (s : Service) (connection : Nat) (entry : Subscription) : Prop :=
  ∃ w ∈ s.written, w.connection = some connection ∧ w.session = entry.session ∧
    ∃ scope number, w.frame = .text
      (Rpc.subscribe scope number [entry.topic.channel s.bridge.router.interval]).text

def Backs (s : Service) (entry : Subscription) : Prop :=
  ∃ connection, s.WrittenOn connection entry ∧
    (connection + 1 = s.bridge.uplink.made ∨
      connection + 1 < s.bridge.uplink.made ∧ entry ∈ s.inherited)

def Proper (s : Service) : TaskStand → Prop
  | .standing (.writing _ topic request) =>
    ∃ number, request = Router.subscribeText s.bridge.router.interval topic number
  | .standing _ => True
  | stand => ∀ entry, stand.onItsWay = some entry → s.Backs entry

structure Backed (s : Service) : Prop where
  rested : s.bridge.uplink.Rested
  tasks : ∀ stand ∈ s.tasks, s.Proper stand
  entries : ∀ entry ∈ s.bridge.router.entries, s.Backs entry
  first : s.bridge.uplink.made ≤ 1 → s.inherited = []

structure Keeps (s t : Service) : Prop where
  made : t.bridge.uplink.made = s.bridge.uplink.made
  interval : t.bridge.router.interval = s.bridge.router.interval
  written : s.written ⊆ t.written
  inherited : t.inherited = s.inherited

variable {s t : Service}

theorem Backs.lt_made {entry : Subscription} (backs : s.Backs entry) :
    ∃ connection, s.WrittenOn connection entry ∧ connection < s.bridge.uplink.made := by
  obtain ⟨connection, written, last | ⟨earlier, -⟩⟩ := backs
  · exact ⟨connection, written, by omega⟩
  · exact ⟨connection, written, by omega⟩

theorem Backs.keeps {entry : Subscription} (backs : s.Backs entry) (keeps : s.Keeps t) :
    t.Backs entry := by
  obtain ⟨connection, ⟨w, member, carries⟩, place⟩ := backs
  refine ⟨connection, ⟨w, keeps.written member, ?_⟩, ?_⟩
  · rwa [keeps.interval]
  · rwa [keeps.made, keeps.inherited]

theorem Proper.keeps {stand : TaskStand} (proper : s.Proper stand) (keeps : s.Keeps t) :
    t.Proper stand := by
  cases stand with
  | standing point =>
      cases point with
      | writing id topic request =>
          rw [Proper, keeps.interval]
          exact proper
      | _ => trivial
  | answered id topic request result =>
      exact fun entry waits => (proper entry waits).keeps keeps

theorem Backed.keeps (backed : s.Backed) (keeps : s.Keeps t) (rested : t.bridge.uplink.Rested)
    (tasks : ∀ stand ∈ t.tasks, stand ∈ s.tasks ∨ t.Proper stand)
    (entries : ∀ entry ∈ t.bridge.router.entries,
      entry ∈ s.bridge.router.entries ∨ t.Backs entry) : t.Backed := by
  refine ⟨rested, ?_, ?_, ?_⟩
  · intro stand member
    exact (tasks stand member).elim (fun old => (backed.tasks stand old).keeps keeps) id
  · intro entry member
    exact (entries entry member).elim (fun old => (backed.entries entry old).keeps keeps) id
  · rw [keeps.made, keeps.inherited]
    exact backed.first

theorem Backed.onBridge (backed : s.Backed) {change : Bridge → Bridge} {uplink : Uplink}
    (rested : uplink.Rested) (made : uplink.made = s.bridge.uplink.made)
    (quiet : Bridge.Quiet { s.bridge with uplink } (change s.bridge)) :
    (s.onBridge change).Backed := by
  have same : (change s.bridge).uplink = uplink := quiet.uplink
  refine backed.keeps ⟨?_, quiet.router.interval, List.Subset.refl _, rfl⟩ ?_
    (fun _ old => .inl old) (fun _ old => .inl (quiet.router.entries old))
  · exact (congrArg Uplink.made same).trans made
  · exact same ▸ rested

namespace Backed

theorem advance (backed : s.Backed) (task : Nat) (event : TaskEvent) :
    (s.advance task event).Backed := by
  unfold Service.advance
  split
  case h_1 => exact backed
  case h_2 point located unanswered =>
      obtain ⟨quiet, asks⟩ := s.bridge.advance_quiet point unanswered
      generalize s.bridge.advance point _ = advanced at quiet asks ⊢
      obtain ⟨bridge, next, calls⟩ := advanced
      have interval : bridge.router.interval = s.bridge.router.interval := quiet.router.interval
      refine backed.keeps ⟨congrArg Uplink.made quiet.uplink, interval, List.Subset.refl _, rfl⟩
        (quiet.uplink ▸ backed.rested) ?_ (fun _ old => .inl (quiet.router.entries old))
      intro stand member
      rcases List.mem_or_eq_of_mem_set member with old | rfl
      · exact .inl old
      · cases next with
        | writing id topic request =>
            rcases asks id topic request rfl with same | ⟨number, asked⟩
            · exact .inl (same ▸ List.mem_of_getElem? located)
            · exact .inr ⟨number, by rw [asked, interval]⟩
        | _ => exact .inr trivial
  case h_3 => exact backed

theorem write (backed : s.Backed) (task : Nat) (taken : Except String Unit) :
    (s.write task taken).Backed := by
  unfold Service.write
  split
  case h_1 id topic request located =>
      obtain ⟨number, asks⟩ := backed.tasks _ (List.mem_of_getElem? located)
      split
      case h_1 frame sent =>
          obtain ⟨isOpen, payload⟩ := Uplink.send_eq_ok sent
          obtain ⟨current, last, sink, -⟩ := backed.rested.hooked isOpen
          refine backed.keeps ⟨rfl, rfl, List.subset_append_left _ _, rfl⟩ backed.rested ?_
            (fun _ old => .inl old)
          intro stand member
          rcases List.mem_or_eq_of_mem_set member with old | rfl
          · exact .inl old
          · refine .inr ?_
            rintro _ ⟨⟩
            refine ⟨current, ⟨⟨s.bridge.uplink.sink, id, frame⟩, ?_, sink, rfl,
              Router.scope topic.kind, number, ?_⟩, .inl last⟩
            · exact List.mem_append_right _ (List.mem_singleton_self _)
            · rw [payload, asks]
              rfl
      case h_2 cause failed =>
          refine backed.keeps ⟨rfl, rfl, List.Subset.refl _, rfl⟩ backed.rested ?_
            (fun _ old => .inl old)
          intro stand member
          rcases List.mem_or_eq_of_mem_set member with old | rfl
          · exact .inl old
          · exact .inr fun _ waits => by cases waits
  case h_2 => exact backed

theorem finish (backed : s.Backed) (task : Nat) : (s.finish task).Backed := by
  unfold Service.finish
  split
  case h_1 id topic request result located =>
      have proper := backed.tasks _ (List.mem_of_getElem? located)
      have told : s.bridge.advance (.writing id topic request) (.written result) =
          (s.bridge.finishText id topic result, .reading id, []) := rfl
      rw [told]
      dsimp only
      cases result with
      | ok done =>
          have recorded : s.Keeps { s with
              bridge := s.bridge.finishText id topic (.ok ())
              tasks := s.tasks.set task (.standing (.reading id)) } :=
            ⟨rfl, rfl, List.Subset.refl _, rfl⟩
          refine backed.keeps recorded backed.rested ?_ ?_
          · intro stand member
            rcases List.mem_or_eq_of_mem_set member with old | rfl
            · exact .inl old
            · exact .inr trivial
          · intro entry member
            rcases List.mem_append.mp member with old | new
            · exact .inl old
            · exact .inr ((proper entry (by rw [List.mem_singleton.mp new]; rfl)).keeps recorded)
      | error cause =>
          refine backed.keeps ⟨rfl, rfl, List.Subset.refl _, rfl⟩ backed.rested ?_
            (fun _ old => .inl old)
          intro stand member
          rcases List.mem_or_eq_of_mem_set member with old | rfl
          · exact .inl old
          · exact .inr trivial
  case h_2 => exact backed

theorem renew (backed : s.Backed) {bridge : Bridge} (rested : bridge.uplink.Rested)
    (made : bridge.uplink.made = s.bridge.uplink.made + 1)
    (router : bridge.router = s.bridge.router) :
    Backed { s with
      bridge
      inherited := s.bridge.router.entries ++ s.tasks.filterMap TaskStand.onItsWay } := by
  have inherits : ∀ entry, s.Backs entry →
      entry ∈ s.bridge.router.entries ++ s.tasks.filterMap TaskStand.onItsWay →
      Backs { s with
        bridge
        inherited := s.bridge.router.entries ++ s.tasks.filterMap TaskStand.onItsWay } entry := by
    intro entry backs member
    obtain ⟨connection, written, earlier⟩ := backs.lt_made
    refine ⟨connection, ?_, .inr ⟨?_, member⟩⟩
    · rwa [WrittenOn, router]
    · rw [made]
      omega
  have onItsWay : ∀ stand ∈ s.tasks, ∀ entry, stand.onItsWay = some entry → s.Backs entry := by
    intro stand member entry waits
    cases stand with
    | standing point => cases waits
    | answered id topic request result => exact backed.tasks _ member entry waits
  refine ⟨rested, ?_, ?_, ?_⟩
  · intro stand member
    cases stand with
    | standing point =>
        have proper := backed.tasks _ member
        cases point with
        | writing id topic request =>
            rw [Proper, router]
            exact proper
        | _ => trivial
    | answered id topic request result =>
        intro entry waits
        exact inherits entry (onItsWay _ member entry waits)
          (List.mem_append_right _ (List.mem_filterMap.mpr ⟨_, member, waits⟩))
  · intro entry member
    rw [router] at member
    exact inherits entry (backed.entries entry member) (List.mem_append_left _ member)
  · intro once
    -- the first connection finds nothing, since there was none to write on before
    have unbacked : ∀ entry, ¬ s.Backs entry := by
      intro entry backs
      obtain ⟨connection, -, earlier⟩ := backs.lt_made
      rw [made] at once
      omega
    rw [List.append_eq_nil_iff, List.filterMap_eq_nil_iff]
    refine ⟨List.eq_nil_iff_forall_not_mem.mpr fun entry member =>
      unbacked entry (backed.entries entry member), ?_⟩
    intro stand member
    cases waits : stand.onItsWay with
    | none => rfl
    | some entry => exact absurd (onItsWay stand member entry waits) (unbacked entry)

theorem connect (backed : s.Backed) (url : String) (timeout : Span) (dial : Dial) :
    (s.connect url timeout dial).Backed := by
  have rested := backed.rested.connect url timeout dial
  by_cases isOpen : s.bridge.uplink.state = .open
  · have busy := Uplink.connect_of_busy (.inr (.inl isOpen)) url timeout dial
    have same : s.connect url timeout dial = s := by
      simp [Service.connect, Bridge.connectUplink, busy, Bridge.handleAll]
    rwa [same]
  · have begun := backed.rested.connect_of_shut isOpen url timeout dial
    rw [begun] at rested
    cases dial with
    | accepted =>
        simp only [Service.connect, Bridge.connectUplink, begun]
        exact backed.renew rested rfl rfl
    | failed reason | timedOut =>
        simp only [Service.connect, Bridge.connectUplink, begun]
        exact backed.keeps ⟨rfl, rfl, List.Subset.refl _, rfl⟩ rested
          (fun _ old => .inl old) (fun _ old => .inl old)

theorem receive (backed : s.Backed) (incoming : Incoming) :
    (s.onBridge (·.receive incoming)).Backed := by
  refine backed.onBridge (backed.rested.receive incoming) ?_ (.handleAll _ _)
  exact Uplink.made_receive _ _

theorem close (backed : s.Backed) (farewell : Farewell) :
    (s.onBridge fun b => (b.closeUplink farewell).1).Backed := by
  refine backed.onBridge (backed.rested.close farewell) ?_ (.handleAll _ _)
  exact backed.rested.made_close farewell

theorem step (backed : s.Backed) (step : Step) : (s.step step).Backed := by
  cases step with
  | accept =>
      refine backed.keeps ⟨rfl, rfl, List.Subset.refl _, rfl⟩ backed.rested ?_
        (fun _ old => .inl old)
      intro stand member
      rcases List.mem_append.mp member with old | new
      · exact .inl old
      · exact .inr (List.mem_singleton.mp new ▸ trivial)
  | advance task event => exact backed.advance task event
  | write task taken => exact backed.write task taken
  | finish task => exact backed.finish task
  | connect url timeout dial => exact backed.connect url timeout dial
  | receive incoming =>
      unfold Service.step
      split_ifs
      · exact backed.receive incoming
      · exact backed
  | close farewell => exact backed.close farewell
  | roster step =>
      have quiet := Bridge.Quiet.onRoster s.bridge fun r => (r.step step).1
      exact backed.keeps ⟨rfl, rfl, List.Subset.refl _, rfl⟩ backed.rested
        (fun _ old => .inl old) (fun _ old => .inl (quiet.router.entries old))
  | stopBroker => exact backed.onBridge backed.rested rfl (.stopBroker _)
  | clearRouter => exact backed.onBridge backed.rested rfl ⟨rfl, rfl, List.nil_subset _⟩

theorem run (backed : s.Backed) (steps : List Step) : (s.run steps).Backed := by
  induction steps generalizing s with
  | nil => exact backed
  | cons step rest ih => exact ih (backed.step step)

theorem start (settings : BrokerSettings) (interval : String) :
    (Service.start settings interval).Backed :=
  ⟨⟨by simp [Service.start], rfl, by simp [Service.start]⟩, by simp [Service.start],
    by simp [Service.start], fun _ => rfl⟩

end Backed

/-- As long as the connection is open, a request for every entry was written on it, or the entry
was there before the connection was made and a request was written on an earlier one. -/
theorem entries_backed (settings : BrokerSettings) (interval : String) (steps : List Step)
    (isOpen : ((start settings interval).run steps).bridge.uplink.state = .open) :
    let s := (start settings interval).run steps
    ∃ current, s.bridge.uplink.sink = some current ∧ current + 1 = s.bridge.uplink.made ∧
      (current = 0 → s.inherited = []) ∧
      ∀ entry ∈ s.bridge.router.entries, s.WrittenOn current entry ∨
        (entry ∈ s.inherited ∧ ∃ earlier < current, s.WrittenOn earlier entry) := by
  intro s
  have backed : s.Backed := (Backed.start settings interval).run steps
  obtain ⟨current, last, sink, -⟩ := backed.rested.hooked isOpen
  refine ⟨current, sink, last, fun first => backed.first (by omega), ?_⟩
  intro entry member
  obtain ⟨connection, written, latest | ⟨earlier, inherited⟩⟩ := backed.entries entry member
  · have same : connection = current := by omega
    exact .inl (same ▸ written)
  · exact .inr ⟨inherited, connection, by omega, written⟩

theorem backed_after_reconnect :
    let settings : BrokerSettings := ⟨⟨.v4 [127, 0, 0, 1], 9000⟩, .text, 65536, 4⟩
    let dial : Step := .connect "ws://a/" (.ofSeconds 10) .accepted
    let ask (text : String) : List Step :=
      [.advance 0 (.incoming (.message (.text text))), .write 0 (.ok ()), .finish 0]
    let steps : List Step :=
      [dial, .accept, .advance 0 .handshakeDone, .advance 0 .proceed, .advance 0 .proceed] ++
        ask "[\"subscribe_orderbook\",\"A\"]" ++ [.receive .ended, dial] ++
        ask "[\"subscribe_position\",\"B\"]"
    let s := (start settings Topic.defaultInterval).run steps
    s.bridge.uplink.state = .open ∧
      s.bridge.router.entries = [⟨⟨.orderbook, "A"⟩, ⟨1⟩⟩, ⟨⟨.position, "B"⟩, ⟨1⟩⟩] ∧
      s.WrittenOn 1 ⟨⟨.position, "B"⟩, ⟨1⟩⟩ := by
  intro settings dial ask steps
  have isOpen : ((start settings Topic.defaultInterval).run steps).bridge.uplink.state = .open := by
    decide +kernel
  have entries : ((start settings Topic.defaultInterval).run steps).bridge.router.entries =
      [⟨⟨.orderbook, "A"⟩, ⟨1⟩⟩, ⟨⟨.position, "B"⟩, ⟨1⟩⟩] := by decide +kernel
  have made : ((start settings Topic.defaultInterval).run steps).bridge.uplink.made = 2 := by
    decide +kernel
  have fresh : ⟨⟨.position, "B"⟩, ⟨1⟩⟩ ∉
      ((start settings Topic.defaultInterval).run steps).inherited := by decide +kernel
  have served := entries_backed settings Topic.defaultInterval steps isOpen
  generalize (start settings Topic.defaultInterval).run steps = s
    at isOpen entries made fresh served ⊢
  obtain ⟨current, -, last, -, backed⟩ := served
  have second : current = 1 := by omega
  subst second
  refine ⟨isOpen, entries, ?_⟩
  exact (backed ⟨⟨.position, "B"⟩, ⟨1⟩⟩ (by rw [entries]; simp)).resolve_right
    fun inherited => fresh inherited.1

/-- After a reconnect a registered session keeps its entry, and nothing was written for it on the
connection that is open. -/
theorem cut_off_by_reconnect :
    let settings : BrokerSettings := ⟨⟨.v4 [127, 0, 0, 1], 9000⟩, .text, 65536, 4⟩
    let dial : Step := .connect "ws://a/" (.ofSeconds 10) .accepted
    let steps : List Step :=
      [dial, .accept, .advance 0 .handshakeDone, .advance 0 .proceed, .advance 0 .proceed,
        .advance 0 (.incoming (.message (.text "[\"subscribe_orderbook\",\"A\"]"))),
        .write 0 (.ok ()), .finish 0, .receive .ended, dial]
    let s := (start settings Topic.defaultInterval).run steps
    let entry : Subscription := ⟨⟨.orderbook, "A"⟩, ⟨1⟩⟩
    s.bridge.uplink.state = .open ∧ s.bridge.uplink.sink = some 1 ∧
      s.bridge.roster.isLive ⟨1⟩ = true ∧ entry ∈ s.bridge.router.entries ∧
      ¬ s.WrittenOn 1 entry := by
  intro settings dial steps s entry
  have elsewhere : ∀ w ∈ s.written, w.connection ≠ some 1 := by decide +kernel
  refine ⟨by decide +kernel, by decide +kernel, by decide +kernel, by decide +kernel, ?_⟩
  rintro ⟨w, member, connection, -⟩
  exact elsewhere w member connection

end Service

end FeedBridge
