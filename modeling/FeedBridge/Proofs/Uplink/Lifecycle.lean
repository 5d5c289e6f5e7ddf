import FeedBridge.Proofs.Number.Registers
import FeedBridge.Proofs.Uplink.Rested

namespace FeedBridge.Uplink

variable {u : Uplink}

inductive Event
  | connect (url : String) (timeout : Span) (dial : Dial)
  | send (text : String) (write : Except String Unit)
  | close (farewell : Farewell)
  | arrive (connection : Nat) (incoming : Incoming)

/-- A call that connects, with what happened on the connection it made, if it made one. -/
structure Attempt where
  result : Except ConnectionError Unit
  connection : Option Nat
  arrived : List Incoming := []
  isCut : Bool := false
  told : List HandlerCall

namespace Attempt

def heard : Incoming → Option HandlerCall
  | .message (.text payload) => some (.message payload)
  | .message (.binary payload) => (String.fromUTF8? payload).map .message
  | _ => none

def isEnded (a : Attempt) : Bool := a.isCut || a.arrived.any Incoming.endsConnection

def complaint (a : Attempt) : List HandlerCall :=
  match a.arrived.getLast? with
  | some (.failed error) => if error.isNoise then [] else [.error]
  | _ => []

def expected (a : Attempt) : List HandlerCall :=
  match a.result with
  | .ok () =>
    .opened :: a.arrived.filterMap heard ++ a.complaint ++ if a.isEnded then [.closed] else []
  | .error .alreadyConnected => []
  | .error _ => [.error]

end Attempt

structure History where
  uplink : Uplink := {}
  attempts : List Attempt := []

namespace History

def amend (attempts : List Attempt) (connection : Nat) (change : Attempt → Attempt) :
    List Attempt :=
  attempts.map fun a => if a.connection = some connection then change a else a

def isRead (h : History) (connection : Nat) : Bool :=
  h.attempts.any fun a => a.connection = some connection && !a.isEnded

def connect (h : History) (url : String) (timeout : Span) (dial : Dial) : History :=
  let (uplink, told, result) := h.uplink.connect url timeout dial
  let connection := if result.isOk then some h.uplink.made else none
  { uplink, attempts := h.attempts ++ [{ result, connection, told }] }

def close (h : History) (farewell : Farewell) : History :=
  let (uplink, calls, _) := h.uplink.close farewell
  let cut (a : Attempt) : Attempt :=
    { a with isCut := a.isCut || h.uplink.isOpen, told := a.told ++ calls }
  { uplink, attempts := h.uplink.reader.elim h.attempts (amend h.attempts · cut) }

def arrive (h : History) (connection : Nat) (incoming : Incoming) : History :=
  if h.isRead connection then
    let (uplink, calls) := h.uplink.receive incoming
    let hear (a : Attempt) : Attempt :=
      { a with arrived := a.arrived ++ [incoming], told := a.told ++ calls }
    { uplink, attempts := amend h.attempts connection hear }
  else h

def step (h : History) : Event → History
  | .connect url timeout dial => h.connect url timeout dial
  | .send _ _ => h
  | .close farewell => h.close farewell
  | .arrive connection incoming => h.arrive connection incoming

def run (h : History) (events : List Event) : History := events.foldl step h

def sections (h : History) : Event → List Uplink
  | .connect _ _ dial => h.uplink.connectSections dial
  | .send _ _ => []
  | .close _ => h.uplink.closeSections
  | .arrive connection incoming =>
    if h.isRead connection then h.uplink.receiveSections incoming else []

theorem sections_leads (h : History) (event : Event) :
    h.uplink.Leads (h.sections event) (h.step event).uplink := by
  cases event with
  | connect url timeout dial => exact h.uplink.connectSections_leads url timeout dial
  | send text write => exact ⟨.singleton _, rfl⟩
  | close farewell => exact h.uplink.closeSections_leads farewell
  | arrive connection incoming =>
      by_cases reads : h.isRead connection = true
      · simpa only [sections, step, arrive, if_pos reads] using
          h.uplink.receiveSections_leads incoming
      · simpa only [sections, step, arrive, if_neg reads] using ⟨.singleton _, rfl⟩

end History

/-! ## What is true after every event -/

structure Attempt.Lawful (u : Uplink) (a : Attempt) : Prop where
  told : a.told = a.expected
  made : a.result.isOk = a.connection.isSome
  ends : ∀ incoming ∈ if a.isCut then a.arrived else a.arrived.dropLast,
    incoming.endsConnection = false
  atWork : ∀ current, a.connection = some current →
    (a.isEnded = false ↔ u.state = .open ∧ current + 1 = u.made)

structure History.Lawful (h : History) : Prop where
  rested : h.uplink.Rested
  attempts : ∀ a ∈ h.attempts, a.Lawful h.uplink
  numbered : h.attempts.filterMap Attempt.connection = List.range h.uplink.made

namespace Attempt

variable {a : Attempt}

theorem isEnded_eq_false : a.isEnded = false ↔
    a.isCut = false ∧ ∀ incoming ∈ a.arrived, incoming.endsConnection = false := by
  simp [isEnded]

theorem complaint_of_reading (reading : a.isEnded = false) : a.complaint = [] := by
  unfold complaint
  cases last : a.arrived.getLast? with
  | none => rfl
  | some incoming =>
      have goesOn := (isEnded_eq_false.mp reading).2 incoming (List.mem_of_getLast? last)
      cases incoming with
      | failed error => cases goesOn
      | message frame | control | ended => rfl

theorem result_of_isOk (ok : a.result.isOk = true) : a.result = .ok () := by
  cases result : a.result with
  | ok value => rfl
  | error cause => simp [result, Except.isOk, Except.toBool] at ok

theorem expected_of_reading (ok : a.result = .ok ()) (reading : a.isEnded = false) :
    a.expected = .opened :: a.arrived.filterMap heard := by
  simp [expected, ok, reading, complaint_of_reading reading]

theorem expected_arrive (ok : a.result = .ok ()) (reading : a.isEnded = false)
    (incoming : Incoming) (told : List HandlerCall) :
    { a with arrived := a.arrived ++ [incoming], told }.expected =
      a.expected ++ (u.receive incoming).2 := by
  obtain ⟨uncut, goesOn⟩ := isEnded_eq_false.mp reading
  have quiet : a.arrived.any Incoming.endsConnection = false := by simpa using goesOn
  rw [expected_of_reading ok reading]
  cases incoming with
  | message frame =>
      cases frame with
      | text payload | close reason =>
          simp [expected, ok, complaint, isEnded, uncut, quiet, receive, heard, messageCalls,
            endCalls, Incoming.endsConnection, Frame.isClose, Frame.message?]
      | binary payload =>
          cases text : String.fromUTF8? payload <;>
            simp [expected, ok, complaint, isEnded, uncut, quiet, receive, heard, messageCalls,
              Incoming.endsConnection, Frame.isClose, Frame.message?, text]
  | control | ended =>
      simp [expected, ok, complaint, isEnded, uncut, quiet, receive, heard, endCalls,
        Incoming.endsConnection]
  | failed error =>
      cases noise : error.isNoise <;>
        simp [expected, ok, complaint, isEnded, quiet, receive, heard, endCalls,
          Incoming.endsConnection, noise]

namespace Lawful

theorem congr {after : Uplink} (lawful : a.Lawful u)
    (same : ∀ current, a.connection = some current →
      ((after.state = .open ∧ current + 1 = after.made) ↔
        (u.state = .open ∧ current + 1 = u.made))) : a.Lawful after where
  told := lawful.told
  made := lawful.made
  ends := lawful.ends
  atWork current made := (lawful.atWork current made).trans (same current made).symm

theorem arrive {after : Uplink} (lawful : a.Lawful u) (reading : a.isEnded = false)
    {connection : Nat} (made : a.connection = some connection) (incoming : Incoming)
    (same : incoming.endsConnection = false ↔
      after.state = .open ∧ connection + 1 = after.made) :
    { a with
      arrived := a.arrived ++ [incoming]
      told := a.told ++ (u.receive incoming).2 }.Lawful after := by
  have ok := result_of_isOk (lawful.made.trans (by simp [made]))
  obtain ⟨uncut, goesOn⟩ := isEnded_eq_false.mp reading
  refine ⟨?_, lawful.made, ?_, ?_⟩
  · rw [expected_arrive (u := u) ok reading, lawful.told]
  · simpa [uncut] using goesOn
  · intro current is
    cases made.symm.trans is
    rw [← same, isEnded_eq_false]
    simp only [List.mem_append, List.mem_singleton]
    exact ⟨fun h => h.2 incoming (.inr rfl), fun quiet => ⟨uncut, fun other member =>
      member.elim (goesOn other) fun is => is ▸ quiet⟩⟩

theorem cut {after : Uplink} (lawful : a.Lawful u) (reading : a.isEnded = false)
    (made : a.connection.isSome) (closed : after.state ≠ .open) :
    { a with isCut := true, told := a.told ++ [HandlerCall.closed] }.Lawful after := by
  have ok := result_of_isOk (lawful.made.trans made)
  obtain ⟨uncut, goesOn⟩ := isEnded_eq_false.mp reading
  refine ⟨?_, lawful.made, ?_, ?_⟩
  · have quiet := complaint_of_reading reading
    unfold complaint at quiet
    rw [lawful.told, expected_of_reading ok reading]
    simp [expected, ok, isEnded, complaint, quiet]
  · simpa using goesOn
  · intro current _
    simp [isEnded, closed]

end Lawful

end Attempt

namespace History

theorem mem_amend {attempts : List Attempt} {connection : Nat} {change : Attempt → Attempt}
    {a : Attempt} (member : a ∈ amend attempts connection change) :
    ∃ b ∈ attempts, (b.connection = some connection ∧ a = change b) ∨
      (b.connection ≠ some connection ∧ a = b) := by
  obtain ⟨b, old, rfl⟩ := List.mem_map.mp member
  refine ⟨b, old, ?_⟩
  split_ifs with is
  · exact .inl ⟨is, rfl⟩
  · exact .inr ⟨is, rfl⟩

theorem connections_amend (attempts : List Attempt) (connection : Nat)
    {change : Attempt → Attempt} (same : ∀ a, (change a).connection = a.connection) :
    (amend attempts connection change).filterMap Attempt.connection =
      attempts.filterMap Attempt.connection := by
  rw [amend, List.filterMap_map]
  congr 1
  funext a
  rw [Function.comp_apply]
  split_ifs
  · exact same a
  · rfl

namespace Lawful

variable {h : History}

theorem lt_made (lawful : h.Lawful) {a : Attempt} (member : a ∈ h.attempts) {connection : Nat}
    (made : a.connection = some connection) : connection < h.uplink.made := by
  rw [← List.mem_range, ← lawful.numbered]
  exact List.mem_filterMap.mpr ⟨a, member, made⟩

theorem connect (lawful : h.Lawful) (url : String) (timeout : Span) (dial : Dial) :
    (h.connect url timeout dial).Lawful := by
  have rested := lawful.rested.connect url timeout dial
  by_cases isOpen : h.uplink.state = .open
  · have busy := connect_of_busy (.inr (.inl isOpen)) url timeout dial
    refine ⟨rested, ?_, ?_⟩
    · simp only [History.connect, busy, List.forall_mem_append, List.forall_mem_singleton]
      exact ⟨lawful.attempts, rfl, rfl, by simp, by simp [Except.isOk, Except.toBool]⟩
    · simpa [History.connect, busy, Except.isOk, Except.toBool] using lawful.numbered
  · have begun := lawful.rested.connect_of_shut isOpen url timeout dial
    cases dial with
    | accepted =>
        refine ⟨rested, ?_, ?_⟩
        · simp only [History.connect, begun, List.forall_mem_append, List.forall_mem_singleton]
          refine ⟨fun a member => (lawful.attempts a member).congr fun current made => ?_,
            rfl, rfl, by simp, ?_⟩
          · have earlier := lawful.lt_made member made
            simp only [isOpen, false_and, iff_false, not_and]
            omega
          · intro current made
            cases made
            simp [Attempt.isEnded]
        · simp [History.connect, begun, lawful.numbered, Except.isOk, Except.toBool,
            List.range_succ]
    | failed reason | timedOut =>
        refine ⟨rested, ?_, ?_⟩
        · simp only [History.connect, begun, List.forall_mem_append, List.forall_mem_singleton]
          refine ⟨fun a member => (lawful.attempts a member).congr fun current made => ?_,
            rfl, rfl, by simp, by simp [Except.isOk, Except.toBool]⟩
          simp [isOpen]
        · simpa [History.connect, begun, Except.isOk, Except.toBool] using lawful.numbered

theorem close (lawful : h.Lawful) (farewell : Farewell) : (h.close farewell).Lawful := by
  have rested := lawful.rested.close farewell
  by_cases isOpen : h.uplink.state = .open
  · obtain ⟨current, last, -, kept⟩ := lawful.rested.hooked isOpen
    have closed := lawful.rested.close_of_open isOpen farewell
    refine ⟨rested, ?_, ?_⟩
    · intro a member
      simp only [History.close, closed, kept, Option.elim_some] at member ⊢
      obtain ⟨b, old, ⟨made, rfl⟩ | ⟨other, rfl⟩⟩ := mem_amend member
      · have reading := ((lawful.attempts b old).atWork current made).mpr ⟨isOpen, last⟩
        simpa [Uplink.isOpen, isOpen] using
          (lawful.attempts b old).cut reading (by simp [made]) (by simp)
      · refine (lawful.attempts a old).congr fun number made => ?_
        have elsewhere : number ≠ current := fun same => other (same ▸ made)
        simp only [reduceCtorEq, false_and, false_iff, not_and]
        omega
    · simp only [History.close, closed, kept, Option.elim_some]
      refine (connections_amend _ _ ?_).trans lawful.numbered
      exact fun _ => rfl
  · have same : h.close farewell = h := by
      cases kept : h.uplink.reader <;>
        simp [History.close, close_of_not_open isOpen, Uplink.isOpen, isOpen, amend, kept]
    rwa [same]

theorem arrive (lawful : h.Lawful) (connection : Nat) (incoming : Incoming) :
    (h.arrive connection incoming).Lawful := by
  by_cases reads : h.isRead connection = true
  · obtain ⟨reader, present, is⟩ := List.any_eq_true.mp reads
    simp only [Bool.and_eq_true, decide_eq_true_eq, Bool.not_eq_true'] at is
    obtain ⟨isOpen, last⟩ := ((lawful.attempts reader present).atWork connection is.1).mp is.2
    have made := h.uplink.made_receive incoming
    have state : incoming.endsConnection = false ↔
        (h.uplink.receive incoming).1.state = .open := by
      rcases h.uplink.receive_cases incoming with ⟨ends, ended⟩ | ⟨goesOn, frames, calls, kept⟩
      · simp [ends, ended, endReader, endOpen, Uplink.isOpen, isOpen, dropSink, clearGauge, setGauge]
      · simp [goesOn, kept, isOpen]
    simp only [History.arrive, if_pos reads]
    refine ⟨lawful.rested.receive incoming, ?_, ?_⟩
    · intro a member
      obtain ⟨b, old, ⟨is, rfl⟩ | ⟨other, rfl⟩⟩ := mem_amend member
      · have reading := ((lawful.attempts b old).atWork connection is).mpr ⟨isOpen, last⟩
        refine (lawful.attempts b old).arrive reading is incoming ?_
        simp [state, made, last]
      · refine (lawful.attempts a old).congr fun number is => ?_
        have elsewhere : number ≠ connection := fun same => other (same ▸ is)
        rw [made]
        constructor <;> rintro ⟨-, latest⟩ <;> omega
    · rw [made]
      refine (connections_amend _ _ ?_).trans lawful.numbered
      exact fun _ => rfl
  · rwa [History.arrive, if_neg reads]

theorem step (lawful : h.Lawful) (event : Event) : (h.step event).Lawful := by
  cases event with
  | connect url timeout dial => exact lawful.connect url timeout dial
  | send text write => exact lawful
  | close farewell => exact lawful.close farewell
  | arrive connection incoming => exact lawful.arrive connection incoming

theorem run (lawful : h.Lawful) (events : List Event) : (h.run events).Lawful := by
  induction events generalizing h with
  | nil => exact lawful
  | cons event rest ih => exact ih (lawful.step event)

theorem initial : ({} : History).Lawful :=
  ⟨⟨by simp, rfl, by simp⟩, by simp, rfl⟩

end Lawful

/-- Whatever happens, one event at a time: the gauge shows whether the connection is open, every
handler is told what it should be, each section moves the state along one of its moves, and what
cannot be done changes nothing. -/
theorem lifecycle (events : List Event) :
    let h := ({} : History).run events
    h.Lawful ∧ (∀ event, h.uplink.Leads (h.sections event) (h.step event).uplink) ∧
      (h.uplink.state ≠ .open → ∀ url timeout,
        (h.uplink.connect url timeout .accepted).2 = ([.opened], .ok ()) ∧
        (h.uplink.connect url timeout .accepted).1.state = .open ∧
        (∀ reason, h.uplink.connect url timeout (.failed reason) =
          ({ h.uplink with state := .idle }, [.error], .error (.connectFailed url reason))) ∧
        h.uplink.connect url timeout .timedOut =
          ({ h.uplink with state := .idle }, [.error], .error (.connectTimeout url timeout))) ∧
      (∀ text write, h.uplink.send text write = .error .notConnected ↔ h.uplink.state ≠ .open) ∧
      ∀ u : Uplink,
        (u.state = .connecting ∨ u.state = .open ∨ u.state = .closing → ∀ url timeout dial,
          u.connect url timeout dial = (u, [], .error .alreadyConnected)) ∧
        (u.state ≠ .open → ∀ farewell, u.close farewell = (u, [], [], .ok .alreadyClosed)) := by
  intro h
  have lawful : h.Lawful := Lawful.initial.run events
  refine ⟨lawful, h.sections_leads, ?_, ?_, fun u => ⟨connect_of_busy, close_of_not_open⟩⟩
  · intro shut url timeout
    simp [lawful.rested.connect_of_shut shut]
  · intro text write
    by_cases isOpen : h.uplink.state = .open
    · obtain ⟨current, -, sink, -⟩ := lawful.rested.hooked isOpen
      cases write <;> simp [send, Uplink.isOpen, isOpen, sink]
    · simp [send, Uplink.isOpen, isOpen]

/-- The first connection fails while it is read, the second is closed by a call. -/
example :
    (({} : History).run
      [.connect "" (.ofSeconds 10) .accepted, .connect "" (.ofSeconds 10) .accepted,
        .arrive 0 (.message (.text "a")), .arrive 0 (.failed .other),
        .arrive 0 (.message (.text "b")),
        .connect "" (.ofSeconds 10) .timedOut, .connect "" (.ofSeconds 10) .accepted,
        .close .timedOut, .close .timedOut]).attempts.map Attempt.told =
      [[.opened, .message "a", .error, .closed], [], [.error], [.opened, .closed]] := by
  decide

/-! ## Frames that are counted -/

def hears (h : History) : Event → Bool
  | .arrive connection (.message frame) => h.isRead connection && !frame.isClose
  | _ => false

def heard : History → List Event → Nat
  | _, [] => 0
  | h, event :: rest => (h.hears event).toNat + heard (h.step event) rest

theorem frames_endReader (u : Uplink) : u.endReader.metrics.frames = u.metrics.frames := by
  unfold endReader endOpen
  cases u.isOpen <;> rfl

theorem frames_step (h : History) (event : Event) :
    (h.step event).uplink.metrics.frames = h.uplink.metrics.frames + (h.hears event).toNat := by
  cases event with
  | connect url timeout dial =>
      dsimp only [step, connect, Uplink.connect, hears]
      rcases h.uplink.beginConnect?_cases with ⟨busy, -⟩ | ⟨begun, -⟩
      · rw [busy]
        rfl
      · rw [begun]
        cases dial <;> rfl
  | send text write => rfl
  | close farewell =>
      dsimp only [step, close, Uplink.close, hears, beginClose?]
      cases h.uplink.isOpen with
      | false => rfl
      | true =>
          cases h.uplink.reader with
          | none => rfl
          | some reader =>
              simp [takeReader, takeSink, dropSink, finishClose, clearGauge, setGauge,
                frames_endReader]
  | arrive connection incoming =>
      by_cases reads : h.isRead connection = true
      · simp only [step, arrive, if_pos reads, receive]
        cases incoming with
        | message frame =>
            cases ends : frame.isClose <;>
              simp [Incoming.endsConnection, hears, ends, reads, countFrame, frames_endReader]
        | control => rfl
        | ended | failed => exact frames_endReader _
      · cases incoming <;> simp [step, arrive, hears, reads]

theorem frames_run (h : History) (events : List Event) :
    (h.run events).uplink.metrics.frames = h.uplink.metrics.frames + h.heard events := by
  induction events generalizing h with
  | nil => rfl
  | cons event rest ih =>
      have later := ih (h.step event)
      rw [frames_step, Nat.add_assoc] at later
      exact later

theorem heard_le (h : History) (events : List Event) : h.heard events ≤ events.length := by
  induction events generalizing h with
  | nil => exact Nat.le_refl _
  | cons event rest ih =>
      have first := (h.hears event).toNat_le
      have later := ih (h.step event)
      rw [heard, List.length_cons]
      omega

/-- The counter shows how many messages were heard, and so does a register of 64 bits that is raised
along with it, in runs of fewer events than such a register has values. -/
theorem frames_told (events : List Event) :
    let frames := (({} : History).run events).uplink.metrics.frames
    frames = ({} : History).heard events ∧
      (events.length < UInt64.size →
        (tracked step (·.uplink.metrics.frames) 0 {} events).toNat = frames) := by
  intro frames
  have told : frames = ({} : History).heard events :=
    (frames_run {} events).trans (Nat.zero_add _)
  refine ⟨told, fun few => ?_⟩
  have fits : frames < UInt64.size := told ▸ Nat.lt_of_le_of_lt (heard_le {} events) few
  have grows (h : History) (event : Event) :
      h.uplink.metrics.frames ≤ (h.step event).uplink.metrics.frames :=
    h.frames_step event ▸ Nat.le_add_right _ _
  exact toNat_tracked_of_grows grows rfl fits

end History

end FeedBridge.Uplink
