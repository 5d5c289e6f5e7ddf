import FeedBridge.Uplink.Connection
import Mathlib.Data.List.Basic
import Mathlib.Logic.Relation

namespace FeedBridge.Uplink

variable {u : Uplink}

inductive Moves : UplinkState → UplinkState → Prop
  | dial : Moves .idle .connecting
  | redial : Moves .closed .connecting
  | connected : Moves .connecting .open
  | aborted : Moves .connecting .idle
  | close : Moves .open .closing
  | closed : Moves .closing .closed
  | ended : Moves .open .closed

def connectSections (u : Uplink) (dial : Dial) : List Uplink :=
  match u.beginConnect? with
  | none => []
  | some begun =>
    match dial with
    | .accepted =>
      [begun, begun.storeSink, begun.storeSink.setOpen,
        begun.storeSink.setOpen.storeReader begun.made]
    | .failed _ | .timedOut => [begun, begun.abortConnect]

def endSections (u : Uplink) : List Uplink :=
  match u.endOpen with
  | (true, ended) => [ended, ended.dropSink, ended.dropSink.clearGauge]
  | (false, _) => []

def receiveSections (u : Uplink) (incoming : Incoming) : List Uplink :=
  if incoming.endsConnection then u.endSections else [(u.receive incoming).1]

def closeSections (u : Uplink) : List Uplink :=
  match u.beginClose? with
  | none => []
  | some begun =>
    let taken := begun.takeReader.2
    let reader := if begun.reader.isSome then taken.endSections else []
    let joined := if begun.reader.isSome then taken.endReader else taken
    [begun, taken] ++ reader ++ [joined.dropSink, joined.dropSink.finishClose]

/-- Each section moves the state along one of the moves, or not at all, and the last leads to the
given result. -/
structure Leads (u : Uplink) (sections : List Uplink) (result : Uplink) : Prop where
  moves : (u :: sections).IsChain fun before after =>
    Relation.ReflGen Moves before.state after.state
  last : (u :: sections).getLast? = some result

theorem beginConnect?_cases (u : Uplink) :
    (u.beginConnect? = none ∧ u.state ≠ .idle ∧ u.state ≠ .closed) ∨
      (u.beginConnect? = some { u with state := .connecting } ∧
        (u.state = .idle ∨ u.state = .closed)) := by
  unfold beginConnect?
  cases u.state <;> simp

theorem state_of_beginConnect?_isSome (free : u.beginConnect?.isSome) :
    u.state = .idle ∨ u.state = .closed := by
  rcases u.beginConnect?_cases with ⟨busy, -⟩ | ⟨-, state⟩
  · simp [busy] at free
  · exact state

theorem connectSections_leads (u : Uplink) (url : String) (timeout : Span) (dial : Dial) :
    u.Leads (u.connectSections dial) (u.connect url timeout dial).1 := by
  rcases u.beginConnect?_cases with ⟨busy, -⟩ | ⟨begun, state⟩
  · constructor <;> simp [connectSections, connect, busy]
  · have first : Relation.ReflGen Moves u.state .connecting := by
      rcases state with idle | closed
      · exact idle ▸ .single .dial
      · exact closed ▸ .single .redial
    cases dial with
    | accepted =>
        constructor
        · simp only [connectSections, begun, List.isChain_cons_cons]
          exact ⟨first, .refl, .single .connected, .refl, List.IsChain.singleton _⟩
        · simp [connectSections, connect, begun]
    | failed reason | timedOut =>
        constructor
        · simp only [connectSections, begun, List.isChain_cons_cons]
          exact ⟨first, .single .aborted, List.IsChain.singleton _⟩
        · simp [connectSections, connect, begun]

theorem endSections_leads (u : Uplink) : u.Leads u.endSections u.endReader := by
  cases isOpen : u.isOpen with
  | true =>
      have state : u.state = .open := by simpa [Uplink.isOpen] using isOpen
      constructor
      · simp only [endSections, endOpen, isOpen, if_true, List.isChain_cons_cons]
        exact ⟨state ▸ .single .ended, .refl, .refl, List.IsChain.singleton _⟩
      · simp [endSections, endReader, endOpen, isOpen]
  | false => constructor <;> simp [endSections, endReader, endOpen, isOpen]

theorem receiveSections_leads (u : Uplink) (incoming : Incoming) :
    u.Leads (u.receiveSections incoming) (u.receive incoming).1 := by
  by_cases ends : incoming.endsConnection = true
  · simpa [receiveSections, receive, ends] using u.endSections_leads
  · have same : (u.receive incoming).1.state = u.state := by
      cases incoming <;> simp [receive, ends, countFrame]
    constructor
    · simp [receiveSections, ends, same, Relation.ReflGen.refl]
    · simp [receiveSections, ends]

theorem closeSections_leads (u : Uplink) (farewell : Farewell) :
    u.Leads u.closeSections (u.close farewell).1 := by
  by_cases isOpen : u.state = .open
  · -- the reader that is waited for finds the connection closing and leaves it as it is
    have sections : u.closeSections =
        [{ u with state := .closing }, { u with state := .closing, reader := none },
          { u with state := .closing, reader := none, sink := none },
          { u with state := .closing, reader := none, sink := none }.finishClose] := by
      cases kept : u.reader <;>
        simp [closeSections, beginClose?, takeReader, endSections, endReader, endOpen, dropSink,
          Uplink.isOpen, isOpen, kept]
    rw [sections]
    constructor
    · simp only [List.isChain_cons_cons]
      exact ⟨isOpen ▸ .single .close, .refl, .refl, .single .closed, .singleton _⟩
    · cases kept : u.reader <;>
        simp [close, beginClose?, takeReader, takeSink, endReader, endOpen, dropSink,
          Uplink.isOpen, isOpen, kept]
  · constructor <;> simp [closeSections, close, beginClose?, Uplink.isOpen, isOpen]

structure Rested (u : Uplink) : Prop where
  calm : u.state ≠ .connecting ∧ u.state ≠ .closing
  gauge : u.metrics.connected = u.isOpen
  hooked : u.state = .open →
    ∃ current, current + 1 = u.made ∧ u.sink = some current ∧ u.reader = some current

theorem connect_of_busy (busy : u.state = .connecting ∨ u.state = .open ∨ u.state = .closing)
    (url : String) (timeout : Span) (dial : Dial) :
    u.connect url timeout dial = (u, [], .error .alreadyConnected) := by
  rcases busy with state | state | state <;> simp [connect, beginConnect?, state]

theorem close_of_not_open (shut : u.state ≠ .open) (farewell : Farewell) :
    u.close farewell = (u, [], [], .ok .alreadyClosed) := by
  simp [close, beginClose?, isOpen, shut]

theorem send_eq_ok {text : String} {write : Except String Unit} {frame : Frame}
    (sent : u.send text write = .ok frame) : u.state = .open ∧ frame = .text text := by
  unfold send at sent
  split_ifs at sent with shut
  cases write with
  | error reason => cases sent
  | ok done =>
      cases sent
      simp only [Bool.or_eq_true, Bool.not_eq_true', not_or, Bool.not_eq_false] at shut
      exact ⟨by simpa [isOpen] using shut.1, rfl⟩

theorem receive_cases (u : Uplink) (incoming : Incoming) :
    (incoming.endsConnection = true ∧ u.receive incoming = (u.endReader, endCalls incoming)) ∨
      (incoming.endsConnection = false ∧ ∃ frames calls,
        u.receive incoming = ({ u with metrics := { u.metrics with frames } }, calls)) := by
  cases ends : incoming.endsConnection with
  | true => exact .inl ⟨rfl, by simp [receive, ends]⟩
  | false =>
      refine .inr ⟨rfl, ?_⟩
      cases incoming with
      | message frame =>
          exact ⟨u.metrics.frames + 1, messageCalls frame, by simp [receive, ends, countFrame]⟩
      | control | ended | failed error => exact ⟨u.metrics.frames, [], by simp [receive, ends]⟩

theorem made_endReader (u : Uplink) : u.endReader.made = u.made := by
  cases isOpen : u.isOpen <;> simp [endReader, endOpen, isOpen, dropSink, clearGauge, setGauge]

theorem made_receive (u : Uplink) (incoming : Incoming) :
    (u.receive incoming).1.made = u.made := by
  rcases u.receive_cases incoming with ⟨-, ended⟩ | ⟨-, frames, calls, kept⟩
  · rw [ended]
    exact u.made_endReader
  · rw [kept]

namespace Rested

theorem connect_of_shut (rested : u.Rested) (shut : u.state ≠ .open) (url : String)
    (timeout : Span) (dial : Dial) :
    u.connect url timeout dial =
      match dial with
      | .accepted =>
        ({ u with
            state := .open
            sink := some u.made
            reader := some u.made
            made := u.made + 1
            metrics := { u.metrics with connected := true } }, [.opened], .ok ())
      | .failed reason => ({ u with state := .idle }, [.error], .error (.connectFailed url reason))
      | .timedOut => ({ u with state := .idle }, [.error], .error (.connectTimeout url timeout)) := by
  rcases u.beginConnect?_cases with ⟨-, notIdle, notClosed⟩ | ⟨begun, -⟩
  · have calm := rested.calm
    cases state : u.state <;> simp_all
  · cases dial <;>
      simp [Uplink.connect, begun, storeSink, setOpen, setGauge, storeReader, abortConnect]

theorem close_of_open (rested : u.Rested) (isOpen : u.state = .open) (farewell : Farewell) :
    u.close farewell =
      ({ u with
          state := .closed
          sink := none
          reader := none
          metrics := { u.metrics with connected := false } },
        [.closed], if farewell = .written then [.normalClose] else [],
        farewellResult farewell) := by
  obtain ⟨current, -, hooked, kept⟩ := rested.hooked isOpen
  simp [close, beginClose?, Uplink.isOpen, isOpen, takeReader, kept, hooked, Uplink.endReader,
    endOpen, takeSink, dropSink, finishClose, clearGauge, setGauge]

theorem connect (rested : u.Rested) (url : String) (timeout : Span) (dial : Dial) :
    (u.connect url timeout dial).1.Rested := by
  by_cases isOpen : u.state = .open
  · rwa [connect_of_busy (.inr (.inl isOpen))]
  · rw [rested.connect_of_shut isOpen]
    cases dial with
    | accepted => exact ⟨by simp, rfl, fun _ => ⟨u.made, rfl, rfl, rfl⟩⟩
    | failed reason | timedOut =>
        refine ⟨by simp, ?_, by simp⟩
        simpa [Uplink.isOpen, isOpen] using rested.gauge

theorem endReader (rested : u.Rested) : u.endReader.Rested := by
  cases isOpen : u.isOpen with
  | true =>
      refine ⟨?_, ?_, ?_⟩ <;>
        simp [Uplink.endReader, endOpen, isOpen, dropSink, clearGauge, setGauge]
      simp [Uplink.isOpen]
  | false => simpa [Uplink.endReader, endOpen, isOpen] using rested

theorem receive (rested : u.Rested) (incoming : Incoming) : (u.receive incoming).1.Rested := by
  rcases u.receive_cases incoming with ⟨-, ended⟩ | ⟨-, frames, calls, kept⟩
  · exact ended ▸ rested.endReader
  · exact kept ▸ ⟨rested.calm, rested.gauge, rested.hooked⟩

theorem close (rested : u.Rested) (farewell : Farewell) : (u.close farewell).1.Rested := by
  by_cases isOpen : u.state = .open
  · rw [rested.close_of_open isOpen]
    exact ⟨by simp, rfl, by simp⟩
  · rwa [close_of_not_open isOpen]

theorem made_close (rested : u.Rested) (farewell : Farewell) :
    (u.close farewell).1.made = u.made := by
  by_cases isOpen : u.state = .open
  · rw [rested.close_of_open isOpen]
  · rw [close_of_not_open isOpen]

end Rested

end FeedBridge.Uplink
