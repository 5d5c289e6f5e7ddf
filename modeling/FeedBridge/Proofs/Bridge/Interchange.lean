import FeedBridge.Proofs.Bridge.Lasting
import FeedBridge.Proofs.Bridge.Turns
import FeedBridge.Proofs.Client.InBinary

/-!
# Texts and bytes are interchangeable

The kind of a message frame is invisible behind the place where it is read or written. A text that
arrives as bytes does what the text does (`Service.run_recoded`), and a bridge whose sessions are
in binary does what it does with sessions in text (`Service.inBinary_run`).
-/

namespace FeedBridge

namespace Router

def inBinary (r : Router) : Router := r.onRoster (·.inBinary)

theorem inBinary_purge (r : Router) : r.purge.inBinary = r.inBinary.purge := by
  change (if (r.entries.purge r.roster.isLive).length < r.entries.length then
      r.setEntries (r.entries.purge r.roster.isLive) else r).inBinary =
    if (r.entries.purge r.roster.isLive).length < r.entries.length then
      r.inBinary.setEntries (r.entries.purge r.roster.isLive) else r.inBinary
  split_ifs <;> rfl

theorem inBinary_deliverAll (roster : Roster) (payload : String) (recipients : List SessionId) :
    (deliverAll roster payload recipients).1.inBinary =
        (deliverAll roster.inBinary payload recipients).1 ∧
      (deliverAll roster payload recipients).2 =
        (deliverAll roster.inBinary payload recipients).2 := by
  induction recipients generalizing roster with
  | nil => exact ⟨rfl, rfl⟩
  | cons id rest ih =>
      obtain ⟨after, taken⟩ := ih (roster.deliver id payload)
      simp only [deliverAll, Roster.accepts_inBinary, ← Roster.inBinary_deliver]
      exact ⟨after, congrArg (· + _) taken⟩

theorem inBinary_fanOut (r : Router) (topic : Topic) (payload : String) :
    (r.fanOut topic payload).1.inBinary = (r.inBinary.fanOut topic payload).1 := by
  have same : r.inBinary.entries = r.entries := rfl
  unfold fanOut
  rw [same]
  cases r.entries.matching topic with
  | nil => rfl
  | cons id rest =>
      obtain ⟨after, taken⟩ := inBinary_deliverAll r.roster payload (id :: rest)
      simp only [inBinary, onRoster, ← after, ← taken]
      rfl

theorem inBinary_exchangeText (r : Router) (text : String) :
    (r.exchangeText text).inBinary = r.inBinary.exchangeText text := by
  unfold exchangeText
  split
  · unfold route
    split
    · rfl
    · rw [inBinary_fanOut, inBinary_purge]
  · rfl

theorem inBinary_finishSubscribe (r : Router) (topic : Topic) (session : SessionId)
    (written : Except UplinkError Unit) :
    (r.finishSubscribe topic session written).1.inBinary =
      (r.inBinary.finishSubscribe topic session written).1 := by
  rcases written with cause | ⟨⟩ <;> rfl

end Router

namespace Bridge

def inBinary (b : Bridge) : Bridge :=
  { b with settings := { b.settings with format := .binary }, router := b.router.inBinary }

theorem inBinary_handleAll (b : Bridge) (calls : List HandlerCall) :
    (b.handleAll calls).inBinary = b.inBinary.handleAll calls := by
  induction calls generalizing b with
  | nil => rfl
  | cons call rest ih =>
      refine (ih (b.handle call)).trans (congrArg (fun after : Bridge => after.handleAll rest) ?_)
      cases call with
      | message text =>
          exact congrArg (fun router => { b.inBinary with router })
            (b.router.inBinary_exchangeText text)
      | opened | closed | error => rfl

theorem inBinary_register (b : Bridge) (id : SessionId) :
    (b.register id).inBinary = b.inBinary.register id :=
  congrArg (fun roster => b.inBinary.onRouter (·.onRoster fun _ => roster))
    (b.roster.inBinary_enroll (.fresh id b.settings.format b.settings.outboxCapacity))

theorem inBinary_beginText (b : Bridge) (text : String) :
    b.inBinary.beginText text = ((b.beginText text).1, (b.beginText text).2.inBinary) := by
  unfold beginText Router.beginSubscribe
  cases ClientRequest.parse text with
  | error cause => rfl
  | ok topic =>
      have same : b.inBinary.uplink = b.uplink := rfl
      simp only [same]
      cases b.uplink.isOpen <;> rfl

theorem inBinary_finishText (b : Bridge) (id : SessionId) (topic : Topic)
    (written : Except UplinkError Unit) :
    (b.finishText id topic written).inBinary = b.inBinary.finishText id topic written :=
  congrArg (fun router => { b.inBinary with router })
    (b.router.inBinary_finishSubscribe topic id written)

theorem inBinary_advanceReading (b : Bridge) (id : SessionId) (incoming : Incoming) :
    (b.advanceReading id incoming).1.inBinary = (b.inBinary.advanceReading id incoming).1 ∧
      (b.advanceReading id incoming).2 = (b.inBinary.advanceReading id incoming).2 := by
  unfold advanceReading
  cases incoming with
  | ended | failed | control => exact ⟨rfl, rfl⟩
  | message frame =>
      dsimp only
      split_ifs
      · exact ⟨rfl, rfl⟩
      · cases frame.message? with
        | none => exact ⟨rfl, rfl⟩
        | some text =>
            dsimp only
            rw [inBinary_beginText]
            obtain ⟨_ | ⟨topic, request⟩, after⟩ := b.beginText text <;> exact ⟨rfl, rfl⟩

theorem inBinary_advance (b : Bridge) (point : TaskPoint) (event : TaskEvent) :
    b.inBinary.advance point event =
      ((b.advance point event).1.inBinary, (b.advance point event).2) := by
  cases point with
  | handshake | refused | registered | gone | leaving | unregistered => cases event <;> rfl
  | numbered id =>
      cases event with
      | proceed => exact Prod.ext (b.inBinary_register id).symm rfl
      | _ => rfl
  | reading id =>
      cases event with
      | incoming incoming =>
          obtain ⟨after, rest⟩ := b.inBinary_advanceReading id incoming
          exact Prod.ext after.symm rest.symm
      | _ => rfl
  | writing id topic request =>
      cases event with
      | written result => exact Prod.ext (b.inBinary_finishText id topic result).symm rfl
      | _ => rfl

theorem inBinary_sayFarewell (places : List Nat) (b : Bridge) :
    (places.foldl sayFarewell b).inBinary = places.foldl sayFarewell b.inBinary := by
  induction places generalizing b with
  | nil => rfl
  | cons place rest ih =>
      refine (ih (b.sayFarewell place)).trans (congrArg (rest.foldl sayFarewell) ?_)
      exact congrArg (fun roster => b.inBinary.onRouter (·.onRoster fun _ => roster))
        (b.roster.inBinary_offerAt place .normalClose)

theorem inBinary_stopBroker (b : Bridge) : b.stopBroker.inBinary = b.inBinary.stopBroker := by
  unfold stopBroker
  change _ = if b.brokerStopped then _ else _
  split_ifs
  · rfl
  · exact inBinary_sayFarewell _ _

end Bridge

/-! ## Texts that arrive as bytes -/

theorem Bridge.advance_recoded (b : Bridge) (point : TaskPoint) (payload : String) :
    b.advance point (.incoming (.message (.binary payload.toUTF8))) =
      b.advance point (.incoming (.message (.text payload))) := by
  have same : (Frame.binary payload.toUTF8).message? = (Frame.text payload).message? :=
    Frame.message?_inBinary (.text payload)
  cases point with
  | reading id =>
      simp only [advance, advanceReading, Frame.isClose, same, Bool.false_eq_true, if_false]
  | _ => rfl

theorem Uplink.receive_recoded (u : Uplink) (payload : String) :
    u.receive (.message (.binary payload.toUTF8)) = u.receive (.message (.text payload)) := by
  have same : (Frame.binary payload.toUTF8).message? = (Frame.text payload).message? :=
    Frame.message?_inBinary (.text payload)
  simp only [receive, Incoming.endsConnection, Frame.isClose, messageCalls, same,
    Bool.false_eq_true, if_false]

namespace Service

structure Sight where
  told : List HandlerCall := []
  called : List SessionCall := []
  sent : List Frame := []
  answer : Option Roster.Response := none

def sight (s : Service) : Step → Sight
  | .advance task event => { called := s.callsIn task (.advance task event) }
  | .write task taken =>
    { sent := ((s.write task taken).written.drop s.written.length).map (·.frame) }
  | .finish task => { called := s.callsIn task (.finish task) }
  | .connect url timeout dial => { told := (s.bridge.uplink.connect url timeout dial).2.1 }
  | .receive incoming =>
    { told := if s.bridge.uplink.isOpen then (s.bridge.uplink.receive incoming).2 else [] }
  | .close farewell =>
    { told := (s.bridge.uplink.close farewell).2.1, sent := (s.bridge.closeUplink farewell).2 }
  | .roster step => { answer := (s.bridge.roster.step step).2 }
  | .accept | .stopBroker | .clearRouter => {}

def sights : Service → List Step → List Sight
  | _, [] => []
  | s, step :: rest => s.sight step :: (s.step step).sights rest

/-- A step, or the same step with bytes in place of the text that arrives. -/
inductive Step.Recoded : Step → Step → Prop
  | same (step : Step) : Recoded step step
  | fromClient (task : Nat) (payload : String) :
    Recoded (.advance task (.incoming (.message (.text payload))))
      (.advance task (.incoming (.message (.binary payload.toUTF8))))
  | fromExchange (payload : String) :
    Recoded (.receive (.message (.text payload))) (.receive (.message (.binary payload.toUTF8)))

theorem step_recoded (s : Service) {step step' : Step} (recoded : step.Recoded step') :
    s.step step' = s.step step ∧ s.sight step' = s.sight step := by
  cases recoded with
  | same => exact ⟨rfl, rfl⟩
  | fromClient task payload =>
      simp only [Service.step, Service.advance, sight, callsIn]
      rcases s.tasks[task]? with _ | ⟨point⟩ | _
      · exact ⟨rfl, rfl⟩
      · simp only [Bridge.advance_recoded, and_self]
      · exact ⟨rfl, rfl⟩
  | fromExchange payload =>
      simp only [Service.step, onBridge, Bridge.receive, sight, Uplink.receive_recoded, and_self]

theorem run_recoded (s : Service) {steps steps' : List Step}
    (recoded : List.Forall₂ Step.Recoded steps steps') :
    s.run steps' = s.run steps ∧ s.sights steps' = s.sights steps := by
  induction recoded generalizing s with
  | nil => exact ⟨rfl, rfl⟩
  | cons first _ ih =>
      obtain ⟨after, seen⟩ := s.step_recoded first
      obtain ⟨last, sights⟩ := ih (s.step _)
      exact ⟨(congrArg (Service.run · _) after).trans last,
        congrArg₂ List.cons seen ((congrArg (Service.sights · _) after).trans sights)⟩

/-! ## Bytes that encode no text -/

variable {s : Service} {bytes : ByteArray}

theorem receive_invalid (invalid : ¬ bytes.IsValidUTF8) :
    s.step (.receive (.message (.binary bytes))) =
        (if s.bridge.uplink.isOpen then
          s.onBridge fun b => { b with uplink := b.uplink.countFrame } else s) ∧
      s.sight (.receive (.message (.binary bytes))) = {} := by
  have received : s.bridge.uplink.receive (.message (.binary bytes)) =
      (s.bridge.uplink.countFrame, []) := by
    simp only [Uplink.receive, Incoming.endsConnection, Frame.isClose, Uplink.messageCalls,
      Frame.message?_of_invalid invalid, Bool.false_eq_true, if_false]
  simp only [Service.step, onBridge, Bridge.receive, sight, received]
  exact ⟨rfl, by simp⟩

theorem advance_invalid (invalid : ¬ bytes.IsValidUTF8) (task : Nat) :
    s.step (.advance task (.incoming (.message (.binary bytes)))) = s ∧
      s.sight (.advance task (.incoming (.message (.binary bytes)))) = {} := by
  have advanced (point : TaskPoint) :
      s.bridge.advance point (.incoming (.message (.binary bytes))) = (s.bridge, point, []) := by
    cases point with
    | reading id =>
        simp only [Bridge.advance, Bridge.advanceReading, Frame.isClose,
          Frame.message?_of_invalid invalid, Bool.false_eq_true, if_false]
    | _ => rfl
  simp only [Service.step, Service.advance, sight, callsIn]
  cases located : s.tasks[task]? with
  | none => exact ⟨rfl, rfl⟩
  | some stand =>
      cases stand with
      | standing point => simp [advanced, set_self located]
      | answered => exact ⟨rfl, rfl⟩

/-! ## Sessions in binary -/

def inBinary (s : Service) : Service := s.onBridge (·.inBinary)

def Step.inBinary : Step → Step
  | .roster step => .roster step.inBinary
  | step => step

def Sight.inBinary (seen : Sight) : Sight :=
  { seen with answer := seen.answer.map Roster.Response.inBinary }

theorem inBinary_handled (s : Service) (uplink : Uplink) (calls : List HandlerCall) :
    ({ s.bridge with uplink }.handleAll calls).inBinary =
      { s.inBinary.bridge with uplink }.handleAll calls :=
  Bridge.inBinary_handleAll { s.bridge with uplink } calls

theorem inBinary_advance (s : Service) (task : Nat) (event : TaskEvent) :
    (s.advance task event).inBinary = s.inBinary.advance task event ∧
      s.callsIn task (.advance task event) = s.inBinary.callsIn task (.advance task event) := by
  have tasks : s.inBinary.tasks = s.tasks := rfl
  have bridge : s.inBinary.bridge = s.bridge.inBinary := rfl
  unfold Service.advance callsIn
  rw [tasks]
  rcases s.tasks[task]? with _ | ⟨point⟩ | _
  · cases event <;> exact ⟨rfl, rfl⟩
  · dsimp only
    rw [bridge, Bridge.inBinary_advance]
    cases event with
    | written result => exact ⟨rfl, rfl⟩
    | _ =>
        dsimp only
        rw [Bridge.inBinary_advance]
        exact ⟨rfl, rfl⟩
  · cases event <;> exact ⟨rfl, rfl⟩

theorem inBinary_finish (s : Service) (task : Nat) :
    (s.finish task).inBinary = s.inBinary.finish task ∧
      s.callsIn task (.finish task) = s.inBinary.callsIn task (.finish task) := by
  have tasks : s.inBinary.tasks = s.tasks := rfl
  have bridge : s.inBinary.bridge = s.bridge.inBinary := rfl
  unfold Service.finish callsIn
  rw [tasks]
  rcases s.tasks[task]? with _ | _ | ⟨id, topic, request, result⟩
  · exact ⟨rfl, rfl⟩
  · exact ⟨rfl, rfl⟩
  · dsimp only
    rw [bridge, Bridge.inBinary_advance]
    exact ⟨rfl, rfl⟩

theorem inBinary_write (s : Service) (task : Nat) (taken : Except String Unit) :
    (s.write task taken).inBinary = s.inBinary.write task taken := by
  have same : s.inBinary.tasks = s.tasks := rfl
  have uplink (request : String) :
      s.inBinary.bridge.sendUplink request taken = s.bridge.sendUplink request taken := rfl
  unfold Service.write
  rw [same]
  split
  · rw [uplink]
    split <;> rfl
  · rfl

theorem inBinary_connect (s : Service) (url : String) (timeout : Span) (dial : Dial) :
    (s.connect url timeout dial).inBinary = s.inBinary.connect url timeout dial := by
  have handled := s.inBinary_handled (s.bridge.uplink.connect url timeout dial).1
    (s.bridge.uplink.connect url timeout dial).2.1
  unfold Service.connect Bridge.connectUplink
  have same : s.inBinary.bridge.uplink = s.bridge.uplink := rfl
  simp only [same, ← handled]
  rcases (s.bridge.uplink.connect url timeout dial).2.2 with cause | ⟨⟩ <;> rfl

theorem inBinary_step (s : Service) (step : Step) :
    (s.step step).inBinary = s.inBinary.step step.inBinary ∧
      (s.sight step).inBinary = s.inBinary.sight step.inBinary := by
  cases step with
  | accept => exact ⟨rfl, rfl⟩
  | advance task event =>
      obtain ⟨after, called⟩ := s.inBinary_advance task event
      exact ⟨after, congrArg (fun called => ({ called } : Sight)) called⟩
  | write task taken =>
      have after := s.inBinary_write task taken
      have written := congrArg Service.written after
      refine ⟨after, ?_⟩
      exact congrArg (fun written => ({ sent :=
        (written.drop s.written.length).map (·.frame) } : Sight)) written
  | finish task =>
      obtain ⟨after, called⟩ := s.inBinary_finish task
      exact ⟨after, congrArg (fun called => ({ called } : Sight)) called⟩
  | connect url timeout dial => exact ⟨s.inBinary_connect url timeout dial, rfl⟩
  | receive incoming =>
      refine ⟨?_, rfl⟩
      have received := s.inBinary_handled (s.bridge.uplink.receive incoming).1
        (s.bridge.uplink.receive incoming).2
      have same : s.inBinary.bridge.uplink = s.bridge.uplink := rfl
      simp only [Service.step, Step.inBinary, same]
      split_ifs
      · exact congrArg (fun bridge => s.onBridge fun _ => bridge) received
      · rfl
  | close farewell =>
      refine ⟨?_, rfl⟩
      have closed := s.inBinary_handled (s.bridge.uplink.close farewell).1
        (s.bridge.uplink.close farewell).2.1
      exact congrArg (fun bridge => s.onBridge fun _ => bridge) closed
  | roster step =>
      obtain ⟨after, answer⟩ := s.bridge.roster.inBinary_step step
      refine ⟨?_, ?_⟩
      · exact congrArg (fun roster => s.inBinary.onBridge
          (·.onRouter (·.onRoster fun _ => roster))) after
      · exact congrArg (fun answer => ({ answer := some answer } : Sight)) answer
  | stopBroker =>
      exact ⟨congrArg (fun bridge => s.onBridge fun _ => bridge) s.bridge.inBinary_stopBroker, rfl⟩
  | clearRouter => exact ⟨rfl, rfl⟩

theorem inBinary_run (s : Service) (steps : List Step) :
    (s.run steps).inBinary = s.inBinary.run (steps.map Step.inBinary) ∧
      (s.sights steps).map Sight.inBinary = s.inBinary.sights (steps.map Step.inBinary) := by
  induction steps generalizing s with
  | nil => exact ⟨rfl, rfl⟩
  | cons step rest ih =>
      obtain ⟨after, seen⟩ := s.inBinary_step step
      obtain ⟨last, sights⟩ := ih (s.step step)
      rw [after] at last sights
      exact ⟨last, congrArg₂ List.cons seen sights⟩

def Step.Textual : Step → Prop
  | .roster step => step.Textual
  | _ => True

theorem textual_lasting {settings : BrokerSettings} (format : settings.format = .text) :
    Roster.Lasting settings Roster.Textual where
  metrics _ textual := textual
  enroll _ textual := Roster.Textual.create textual ⟨format, nofun⟩
  unregister _ textual := textual
  deliver id payload textual := Roster.Textual.deliver textual id payload
  closeAt place textual := Roster.Textual.offerAt textual place rfl
  clear textual := textual

theorem textual_run {settings : BrokerSettings} (format : settings.format = .text)
    (keeps : s.bridge.Keeps settings Roster.Textual) {steps : List Step}
    (textual : ∀ step ∈ steps, step.Textual) :
    (s.run steps).bridge.roster.Textual ∧
      ∀ seen ∈ s.sights steps, ∀ answer, seen.answer = some answer → answer.Textual := by
  induction steps generalizing s with
  | nil => exact ⟨keeps.roster, nofun⟩
  | cons step rest ih =>
      obtain ⟨first, others⟩ := List.forall_mem_cons.mp textual
      have next : (s.step step).bridge.Keeps settings Roster.Textual :=
        lasts_step (textual_lasting format) keeps fun change isRoster => by
          subst isRoster
          exact (keeps.roster.step first).1
      obtain ⟨last, sights⟩ := ih next others
      refine ⟨last, fun seen member answer answered => ?_⟩
      rcases List.mem_cons.mp member with rfl | later
      · cases step with
        | roster change =>
            cases answered
            exact (keeps.roster.step first).2
        | _ => cases answered
      · exact sights seen later answer answered

/-- A text that arrives as bytes leads to the same state, and everything that is seen from outside
is the same. Bytes that encode no text change nothing, except that a frame of the exchange is
counted. A bridge with sessions in text and one with sessions in binary hold the same bytes for
every session, in texts here and in binary there, and do not differ in anything else. -/
theorem frames_interchangeable :
    (∀ (s : Service) (steps steps' : List Step), List.Forall₂ Step.Recoded steps steps' →
      s.run steps' = s.run steps ∧ s.sights steps' = s.sights steps) ∧
    (∀ (s : Service) (bytes : ByteArray), ¬ bytes.IsValidUTF8 →
      let arrival : Incoming := .message (.binary bytes)
      (s.step (.receive arrival) =
          if s.bridge.uplink.isOpen then
            s.onBridge fun b => { b with uplink := { b.uplink with metrics :=
              { b.uplink.metrics with frames := b.uplink.metrics.frames + 1 } } }
          else s) ∧
        s.sight (.receive arrival) = {} ∧
        ∀ task, s.step (.advance task (.incoming arrival)) = s ∧
          s.sight (.advance task (.incoming arrival)) = {}) ∧
    (∀ (settings : BrokerSettings) (interval : String) (steps : List Step),
      settings.format = .text → (∀ step ∈ steps, step.Textual) →
      let texts := start settings interval
      let binaries := start { settings with format := .binary } interval
      binaries.run (steps.map Step.inBinary) = (texts.run steps).inBinary ∧
        binaries.sights (steps.map Step.inBinary) = (texts.sights steps).map Sight.inBinary ∧
        (∀ seen ∈ texts.sights steps, ∀ answer, seen.answer = some answer → answer.Textual) ∧
        ∀ (place : Nat) (session : Session),
          (texts.run steps).bridge.roster.sessions[place]? = some session →
          session.Textual ∧ ∃ twin : Session,
            (binaries.run (steps.map Step.inBinary)).bridge.roster.sessions[place]? = some twin ∧
            twin.id = session.id ∧ twin.format = .binary ∧
            twin.outbox.waiting = session.outbox.waiting.map Frame.inBinary ∧
            twin.outbox.waiting.map Frame.bytes = session.outbox.waiting.map Frame.bytes) := by
  refine ⟨fun s steps steps' recoded => s.run_recoded recoded, fun s bytes invalid => ?_,
    fun settings interval steps format textual => ?_⟩
  · obtain ⟨received, seen⟩ := receive_invalid (s := s) invalid
    exact ⟨received, seen, advance_invalid invalid⟩
  · intro texts binaries
    obtain ⟨run, sights⟩ := texts.inBinary_run steps
    obtain ⟨roster, answers⟩ := textual_run (s := texts) format ⟨rfl, nofun⟩ textual
    refine ⟨run.symm, sights.symm, answers, fun place session located => ?_⟩
    refine ⟨roster session (List.mem_of_getElem? located), session.inBinary, ?_, rfl, rfl, rfl, ?_⟩
    · have twins := (texts.run steps).bridge.roster.located_inBinary place
      rw [located] at twins
      exact (congrArg (fun t : Service => t.bridge.roster.sessions[place]?) run).symm.trans twins
    · simp [Session.inBinary, Outbox.inBinary, Function.comp_def]

theorem frames_interchangeable_of_one_client :
    let settings : BrokerSettings := ⟨⟨.v4 [127, 0, 0, 1], 9000⟩, .text, 65536, 4⟩
    let enter : List Step := [.accept, .advance 0 .handshakeDone, .advance 0 .proceed]
    let hear (frame : Frame) : Step := .advance 0 (.incoming (.message frame))
    let asking (frame : Frame) : List Step := enter ++ [.advance 0 .proceed, hear frame]
    let payload := "[\"subscribe_orderbook\",\"A\"]"
    let steps : List Step := enter ++ [.roster (.broadcast "hi"), .stopBroker]
    let s := start settings "100ms"
    s.run (asking (.binary payload.toUTF8)) = s.run (asking (.text payload)) ∧
      s.step (hear (.binary ⟨#[0xff]⟩)) = s ∧
      (∀ step ∈ steps, step.Textual) ∧
      ∃ twin : Session, ((start { settings with format := .binary } "100ms").run
          steps).bridge.roster.sessions[0]? = some twin ∧
        twin.outbox.waiting = [.binary "hi".toUTF8, .normalClose] := by
  intro settings enter hear asking payload steps s
  obtain ⟨recoded, invalid, binaries⟩ := frames_interchangeable
  have textual : ∀ step ∈ steps, step.Textual := by
    simp [steps, enter, Step.Textual, Roster.Step.Textual]
  have located : (s.run steps).bridge.roster.sessions[0]? =
      some ⟨⟨1⟩, .text, { capacity := 4, waiting := [.text "hi", .normalClose] }⟩ := by
    decide +kernel
  refine ⟨(recoded s _ _ ?_).1, ((invalid s _ (by decide +kernel)).2.2 0).1, textual, ?_⟩
  · exact .cons (.same _) (.cons (.same _) (.cons (.same _) (.cons (.same _)
      (.cons (.fromClient 0 payload) .nil))))
  · obtain ⟨-, -, -, twins⟩ := binaries settings "100ms" steps rfl textual
    obtain ⟨-, twin, seated, -, -, waiting, -⟩ := twins 0 _ located
    exact ⟨twin, seated, waiting⟩

end Service

end FeedBridge
