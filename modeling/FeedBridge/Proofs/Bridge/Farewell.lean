import FeedBridge.Proofs.Bridge.Turns
import FeedBridge.Proofs.Client.Writer

namespace FeedBridge

/-- No farewell waits, and no more frames than there is room for. -/
structure Outbox.Plain (o : Outbox) : Prop where
  payloads : ∀ frame ∈ o.waiting, frame.isClose = false
  fits : o.waiting.length ≤ o.capacity

theorem writtenFrames_of_payloads {waiting : List Frame}
    (payloads : ∀ frame ∈ waiting, frame.isClose = false) (later : List Frame) :
    writtenFrames (waiting ++ .normalClose :: later) = waiting ++ [.normalClose] :=
  writtenFrames_append payloads _

theorem WireFormat.isClose_frame (format : WireFormat) (payload : String) :
    (format.frame payload).isClose = false := by
  cases format <;> rfl

/-- A farewell waits behind all that waited before, and is the last thing written whatever comes
after it. -/
def Outbox.BidsFarewell (before after : Outbox) : Prop :=
  after.waiting = before.waiting ++ [.normalClose] ∧
    ∀ later, writtenFrames (after.waiting ++ later) = before.waiting ++ [.normalClose]

namespace Outbox.Plain

variable {o : Outbox}

theorem bidsFarewell_iff (plain : o.Plain) (alive : o.writerAlive = true) :
    o.BidsFarewell (o.offer .normalClose) ↔ o.waiting.length < o.capacity := by
  unfold BidsFarewell Outbox.offer Outbox.answer
  simp only [alive, Bool.not_true, Bool.false_eq_true, if_false]
  split_ifs with room
  · refine iff_of_true ⟨rfl, fun later => ?_⟩ room
    rw [List.append_assoc]
    exact writtenFrames_of_payloads plain.payloads later
  · exact iff_of_false (fun bids => by simp at bids) room

theorem offer (plain : o.Plain) {frame : Frame} (payload : frame.isClose = false) :
    (o.offer frame).Plain := by
  unfold Outbox.offer Outbox.answer
  obtain ⟨payloads, fits⟩ := plain
  split_ifs with gone room
  · exact ⟨payloads, fits⟩
  · refine ⟨?_, by simpa using Nat.succ_le_of_lt room⟩
    intro other waits
    rcases List.mem_append.mp waits with earlier | last
    · exact payloads other earlier
    · rwa [List.mem_singleton.mp last]
  · exact ⟨payloads, fits⟩

theorem take (plain : o.Plain) (count : Nat) : (o.take count).2.Plain := by
  refine ⟨fun frame waits => plain.payloads frame (List.mem_of_mem_drop waits), ?_⟩
  have fits := plain.fits
  simp only [Outbox.take, List.length_drop]
  omega

end Outbox.Plain

namespace Roster

structure Plain (r : Roster) : Prop where
  queues : ∀ (place : Nat) (session : Session), r.sessions[place]? = some session →
    session.outbox.Plain
  distinct : (r.registered.map (·.2)).Nodup
  placed : ∀ entry ∈ r.registered, ∃ session, r.sessions[entry.2]? = some session ∧
    session.id = entry.1

def Step.isRoutine : Step → Bool
  | .create _ | .enroll _ | .close _ => false
  | _ => true

namespace Plain

variable {r : Roster}

theorem congr (plain : r.Plain) {other : Roster} (sessions : other.sessions = r.sessions)
    (registered : other.registered.Sublist r.registered) : other.Plain := by
  refine ⟨?_, plain.distinct.sublist (registered.map _), ?_⟩
  · rw [sessions]
    exact plain.queues
  · rw [sessions]
    exact fun entry listed => plain.placed entry (registered.subset listed)

theorem setOutbox (plain : r.Plain) (place : Nat) (change : Outbox → Outbox)
    (keeps : ∀ session, r.sessions[place]? = some session → (change session.outbox).Plain) :
    (r.setOutbox place change).Plain := by
  refine ⟨?_, plain.distinct, ?_⟩
  · intro other session located
    simp only [Roster.setOutbox, List.getElem?_modify] at located
    obtain ⟨before, found, rfl⟩ := Option.map_eq_some_iff.mp located
    split_ifs with here
    · subst here
      exact keeps before found
    · exact plain.queues other before found
  · intro entry listed
    obtain ⟨session, located, id⟩ := plain.placed entry listed
    simp only [Roster.setOutbox, List.getElem?_modify, located]
    refine ⟨_, rfl, ?_⟩
    split_ifs <;> exact id

theorem offerAt (plain : r.Plain) (place : Nat) {frame : Frame} (payload : frame.isClose = false) :
    (r.offerAt place frame).Plain := by
  have offered : (r.setOutbox place (·.offer frame)).Plain :=
    plain.setOutbox place _ fun session located =>
      (plain.queues place session located).offer payload
  refine offered.congr (r.sessions_offerAt place frame) ?_
  rw [registered_offerAt]
  exact List.Sublist.refl _

theorem sendAt (plain : r.Plain) (place : Nat) (payload : String) :
    (r.sendAt place payload).Plain := by
  unfold Roster.sendAt
  cases r.sessions[place]? with
  | none => exact plain
  | some session => exact plain.offerAt place (session.format.isClose_frame payload)

theorem deliver (plain : r.Plain) (id : SessionId) (payload : String) :
    (r.deliver id payload).Plain := by
  unfold Roster.deliver
  cases r.find? id with
  | none => exact plain
  | some place => exact plain.sendAt place payload

theorem sendAll (plain : r.Plain) (payload : String) (places : List Nat) :
    (r.sendAll payload places).1.Plain := by
  induction places generalizing r with
  | nil => exact plain
  | cons place rest ih => exact ih (plain.sendAt place payload)

theorem enroll (plain : r.Plain) {session : Session} (fresh : session.outbox.Plain) :
    (r.enroll session).Plain := by
  have earlier (entry : SessionId × Nat)
      (kept : entry ∈ r.registered.filter fun entry => entry.1 != session.id) :
      ∃ seated, r.sessions[entry.2]? = some seated ∧ seated.id = entry.1 :=
    plain.placed entry (List.mem_filter.mp kept).1
  refine ⟨?_, ?_, ?_⟩
  · intro place found located
    simp only [Roster.enroll, Roster.register, Roster.create, Roster.setRegistered] at located
    rcases List.mem_append.mp (List.mem_of_getElem? located) with old | new
    · obtain ⟨other, seated⟩ := List.mem_iff_getElem?.mp old
      exact plain.queues other found seated
    · rw [List.mem_singleton.mp new]
      exact fresh
  · have kept := plain.distinct.sublist
      ((List.filter_sublist (p := fun entry : SessionId × Nat => entry.1 != session.id)).map (·.2))
    simp only [Roster.enroll, Roster.register, Roster.setRegistered, List.map_append, List.map_cons,
      List.map_nil]
    refine List.nodup_append.mpr ⟨kept, List.nodup_singleton _, ?_⟩
    intro place listed last single same
    obtain ⟨entry, filtered, rfl⟩ := List.mem_map.mp listed
    obtain ⟨seated, located, -⟩ := earlier entry filtered
    rw [same, List.mem_singleton.mp single] at located
    simp at located
  · intro entry listed
    simp only [Roster.enroll, Roster.register, Roster.create, Roster.setRegistered] at listed ⊢
    rcases List.mem_append.mp listed with old | new
    · obtain ⟨seated, located, id⟩ := earlier entry old
      refine ⟨seated, ?_, id⟩
      rwa [List.getElem?_append_left (List.getElem?_eq_some_iff.mp located).1]
    · rw [List.mem_singleton.mp new]
      exact ⟨session, by simp, rfl⟩

theorem step (plain : r.Plain) {step : Step} (routine : step.isRoutine = true) :
    (r.step step).1.Plain := by
  cases step with
  | create | enroll | close => cases routine
  | find | isLive => exact plain
  | unregister id => exact plain.congr rfl List.filter_sublist
  | clear => exact plain.congr rfl (List.nil_sublist _)
  | deliver id payload => exact plain.deliver id payload
  | broadcast payload => exact plain.sendAll payload _
  | send id payload =>
      unfold Roster.step Roster.offerLatest
      dsimp only
      cases r.latest? id with
      | none => exact plain
      | some place => exact plain.sendAt place payload
  | take id limit =>
      rcases takeLatest_cases r id limit with ⟨same, -⟩ | ⟨place, session, -, located, -, same, -⟩
      · simpa [Roster.step, same] using plain
      · have taken := (plain.queues place session located).take
          (limit.getD session.outbox.waiting.length)
        simpa only [Roster.step, same] using plain.setOutbox place (fun _ => _) fun _ _ => taken
  | dropWriter id =>
      rcases dropLatest_cases r id with ⟨-, same⟩ | ⟨place, session, -, -, same⟩
      · simpa [Roster.step, same] using plain
      · have dropped := plain.setOutbox place Outbox.dropWriter fun found located =>
          ⟨(plain.queues place found located).payloads, (plain.queues place found located).fits⟩
        simpa only [Roster.step, same] using dropped

end Plain

end Roster

namespace Router

variable {r : Router}

theorem plain_deliverAll {roster : Roster} (plain : roster.Plain) (payload : String)
    (recipients : List SessionId) : (deliverAll roster payload recipients).1.Plain := by
  induction recipients generalizing roster with
  | nil => exact plain
  | cons id rest ih => exact ih (plain.deliver id payload)

theorem plain_exchangeText (plain : r.roster.Plain) (text : String) :
    (r.exchangeText text).roster.Plain := by
  have purged : r.purge.roster.Plain := by
    dsimp only [purge]
    split_ifs
    · exact plain.congr rfl (List.Sublist.refl _)
    · exact plain
  unfold exchangeText route fanOut
  split
  · split
    · exact plain
    · split
      · exact purged
      · exact (plain_deliverAll purged _ _).congr rfl (List.Sublist.refl _)
  · exact plain

end Router

/-! ## A broker that is not stopped -/

structure Bridge.Attentive (b : Bridge) : Prop where
  stopped : b.brokerStopped = false
  plain : b.roster.Plain

namespace Bridge.Attentive

variable {b : Bridge}

theorem congr (attentive : b.Attentive) {other : Bridge}
    (stopped : other.brokerStopped = b.brokerStopped)
    (sessions : other.roster.sessions = b.roster.sessions)
    (registered : other.roster.registered.Sublist b.roster.registered) : other.Attentive :=
  ⟨stopped.trans attentive.stopped, attentive.plain.congr sessions registered⟩

theorem handleAll (attentive : b.Attentive) (calls : List HandlerCall) :
    (b.handleAll calls).Attentive := by
  induction calls generalizing b with
  | nil => exact attentive
  | cons call rest ih =>
      apply ih
      cases call with
      | message text => exact ⟨attentive.stopped, Router.plain_exchangeText attentive.plain text⟩
      | closed | opened | error => exact attentive.congr rfl rfl (List.Sublist.refl _)

theorem handled (attentive : b.Attentive) (uplink : Uplink) (calls : List HandlerCall) :
    ({ b with uplink }.handleAll calls).Attentive := by
  have attached : Attentive { b with uplink } := attentive.congr rfl rfl (List.Sublist.refl _)
  exact attached.handleAll calls

theorem beginText (attentive : b.Attentive) (text : String) : (b.beginText text).2.Attentive := by
  unfold Bridge.beginText Router.beginSubscribe
  cases ClientRequest.parse text with
  | error cause => exact attentive
  | ok topic =>
      cases b.uplink.isOpen with
      | false => exact attentive
      | true => exact attentive.congr rfl rfl (List.Sublist.refl _)

theorem finishText (attentive : b.Attentive) (id : SessionId) (topic : Topic)
    (written : Except UplinkError Unit) : (b.finishText id topic written).Attentive := by
  cases written <;> exact attentive.congr rfl rfl (List.Sublist.refl _)

theorem register (attentive : b.Attentive) (id : SessionId) : (b.register id).Attentive :=
  ⟨attentive.stopped, attentive.plain.enroll ⟨nofun, Nat.zero_le _⟩⟩

theorem advanceReading (attentive : b.Attentive) (id : SessionId) (incoming : Incoming) :
    (b.advanceReading id incoming).1.Attentive := by
  unfold Bridge.advanceReading
  cases incoming with
  | ended | failed | control => exact attentive
  | message frame =>
      dsimp only
      split_ifs
      · exact attentive
      · cases frame.message? with
        | none => exact attentive
        | some text =>
            have begun := attentive.beginText text
            dsimp only
            generalize b.beginText text = after at begun ⊢
            obtain ⟨_ | ⟨topic, request⟩, after⟩ := after <;> exact begun

theorem advance (attentive : b.Attentive) (point : TaskPoint) (event : TaskEvent) :
    (b.advance point event).1.Attentive := by
  -- one case for each section, from the handshake to the end of the task; the last is any misfit
  unfold Bridge.advance
  split
  case h_1 => exact attentive.congr rfl rfl (List.Sublist.refl _)
  case h_2 | h_4 | h_6 | h_10 => exact attentive
  case h_3 => exact attentive.register _
  case h_5 => exact attentive.advanceReading _ _
  case h_7 => exact attentive.finishText _ _ _
  case h_8 => exact attentive.congr rfl rfl List.filter_sublist
  case h_9 => exact attentive.congr rfl rfl (List.Sublist.refl _)

end Bridge.Attentive

namespace Service

def Step.isRoutine : Step → Bool
  | .roster step => step.isRoutine
  | .stopBroker => false
  | _ => true

theorem attentive_start (settings : BrokerSettings) (interval : String) :
    (start settings interval).bridge.Attentive :=
  ⟨rfl, nofun, List.nodup_nil, nofun⟩

theorem attentive_step {s : Service} (attentive : s.bridge.Attentive) {step : Step}
    (routine : step.isRoutine = true) : (s.step step).bridge.Attentive := by
  cases step with
  | accept => exact attentive
  | advance task event =>
      dsimp only [Service.step, Service.advance]
      split
      · exact attentive
      · exact attentive.advance _ _
      · exact attentive
  | write task taken =>
      dsimp only [Service.step, Service.write]
      split
      · split <;> exact attentive
      · exact attentive
  | finish task =>
      dsimp only [Service.step, Service.finish]
      split
      · exact attentive.advance _ _
      · exact attentive
  | connect url timeout dial =>
      have connected : (s.bridge.connectUplink url timeout dial).1.Attentive :=
        attentive.handled _ _
      dsimp only [Service.step, Service.connect]
      generalize s.bridge.connectUplink url timeout dial = after at connected ⊢
      obtain ⟨bridge, cause | _⟩ := after <;> exact connected
  | receive incoming =>
      dsimp only [Service.step]
      split_ifs
      · exact attentive.handled _ _
      · exact attentive
  | close farewell => exact attentive.handled _ _
  | roster step => exact ⟨attentive.stopped, attentive.plain.step routine⟩
  | stopBroker => cases routine
  | clearRouter => exact attentive.congr rfl rfl (List.Sublist.refl _)

theorem attentive_run {s : Service} (attentive : s.bridge.Attentive) {steps : List Step}
    (routine : ∀ step ∈ steps, step.isRoutine = true) : (s.run steps).bridge.Attentive := by
  induction steps generalizing s with
  | nil => exact attentive
  | cons step rest ih =>
      obtain ⟨first, others⟩ := List.forall_mem_cons.mp routine
      exact ih (attentive_step attentive first) others

end Service

/-! ## The stop -/

theorem Bridge.sessions_sayFarewell {places : List Nat} (distinct : places.Nodup) (b : Bridge)
    (place : Nat) :
    (places.foldl sayFarewell b).roster.sessions[place]? =
      if place ∈ places then
        (b.roster.sessions[place]?).map fun session =>
          { session with outbox := session.outbox.offer .normalClose }
      else b.roster.sessions[place]? := by
  induction places generalizing b with
  | nil => rfl
  | cons first rest ih =>
      obtain ⟨fresh, others⟩ := List.nodup_cons.mp distinct
      have said : (b.sayFarewell first).roster.sessions =
          (b.roster.setOutbox first (·.offer .normalClose)).sessions := b.roster.sessions_offerAt _ _
      rw [List.foldl_cons, ih others, said]
      simp only [Roster.setOutbox, List.getElem?_modify, List.mem_cons]
      by_cases here : place = first
      · subst here
        simp [fresh]
      · have elsewhere : first ≠ place := fun same => here same.symm
        simp [here, elsewhere]

namespace Service

/-- At a first stop, whatever came before: every registered session leaves the registry, and one
whose writer is there is bidden farewell if its queue has room. If it has none, the farewell is
counted as dropped and the queue holds payloads only, as before. -/
theorem bids_farewell_iff_room (settings : BrokerSettings) (interval : String) {steps : List Step}
    (routine : ∀ step ∈ steps, step.isRoutine = true) :
    let before := ((start settings interval).run steps).bridge
    let after := before.stopBroker
    after.roster.registered = [] ∧
      ∀ entry ∈ before.roster.registered, ∃ session told,
        before.roster.sessions[entry.2]? = some session ∧ session.id = entry.1 ∧
        after.roster.sessions[entry.2]? = some told ∧
        (session.outbox.writerAlive = true →
          (session.outbox.BidsFarewell told.outbox ↔
            session.outbox.waiting.length < session.outbox.capacity) ∧
          (session.outbox.waiting.length = session.outbox.capacity →
            told.outbox.waiting = session.outbox.waiting ∧
            told.outbox.dropped = session.outbox.dropped + 1)) ∧
        session.outbox.Plain := by
  intro before after
  have attentive : before.Attentive := attentive_run (attentive_start settings interval) routine
  obtain ⟨stopped, plain⟩ := attentive
  have stops : after = (before.roster.registered.map (·.2)).foldl Bridge.sayFarewell
      ({ before with brokerStopped := true, listening := false }.onRouter
        (·.onRoster (·.clear))) := by
    dsimp only [after, Bridge.stopBroker]
    rw [if_neg (by simp [stopped])]
    rfl
  refine ⟨?_, fun entry listed => ?_⟩
  · rw [stops]
    exact (Bridge.Aloof.sayFarewell _ _).registered
  · obtain ⟨session, located, id⟩ := plain.placed entry listed
    have queue := plain.queues entry.2 session located
    have offered : after.roster.sessions[entry.2]? =
        some { session with outbox := session.outbox.offer .normalClose } := by
      rw [stops, Bridge.sessions_sayFarewell plain.distinct, if_pos (List.mem_map_of_mem listed)]
      exact congrArg (Option.map _) located
    refine ⟨session, _, located, id, offered, fun alive => ?_, queue⟩
    refine ⟨queue.bidsFarewell_iff alive, fun full => ?_⟩
    simp [Outbox.offer, Outbox.answer, alive, full]

theorem bids_farewell_to_swift_only :
    let settings : BrokerSettings := ⟨⟨.v4 [127, 0, 0, 1], 9000⟩, .text, 65536, 1⟩
    let enter (task : Nat) : List Step :=
      [.accept, .advance task .handshakeDone, .advance task .proceed]
    let steps : List Step := enter 0 ++ enter 1 ++
      [.roster (.broadcast "a"), .roster (.take ⟨2⟩ none)]
    let before := ((start settings Topic.defaultInterval).run steps).bridge
    let waiting (place : Nat) : Option (List Frame) :=
      (before.stopBroker.roster.sessions[place]?).map (·.outbox.waiting)
    (∀ step ∈ steps, step.isRoutine = true) ∧
      before.roster.registered = [(⟨1⟩, 0), (⟨2⟩, 1)] ∧
      before.stopBroker.roster.registered = [] ∧
      waiting 0 = some [.text "a"] ∧ waiting 1 = some [.normalClose] := by
  intro settings enter steps before waiting
  have routine : ∀ step ∈ steps, step.isRoutine = true := by decide
  obtain ⟨closed, -⟩ := bids_farewell_iff_room settings Topic.defaultInterval routine
  exact ⟨routine, by decide +kernel, closed, by decide +kernel, by decide +kernel⟩

/-- A registered session whose writer is there is not told that the broker stops. -/
theorem farewell_lost_in_full_queue :
    let settings : BrokerSettings := ⟨⟨.v4 [127, 0, 0, 1], 9000⟩, .text, 65536, 1⟩
    let steps : List Step :=
      [.accept, .advance 0 .handshakeDone, .advance 0 .proceed, .roster (.broadcast "a")]
    let before := ((start settings Topic.defaultInterval).run steps).bridge
    (⟨1⟩, 0) ∈ before.roster.registered ∧ before.roster.hasWriter 0 = true ∧
      (before.stopBroker.roster.sessions[0]?).map (·.outbox.waiting) = some [.text "a"] := by
  decide +kernel

end Service

end FeedBridge
