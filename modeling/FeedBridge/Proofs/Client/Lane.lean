import FeedBridge.Proofs.Client.Tidy

namespace FeedBridge

namespace Roster

variable {r : Roster} {id : SessionId} {place : Nat} {session : Session}

theorem latest?_of_ids {r r' : Roster} (ids : r'.sessions.map (·.id) = r.sessions.map (·.id))
    (id : SessionId) : r'.latest? id = r.latest? id := by
  have byIds (q : Roster) : q.latest? id =
      (((q.sessions.map (·.id)).zipIdx.filter fun entry => entry.1 = id).getLast?.map (·.2)) := by
    rw [List.zipIdx_map, List.filter_map, List.getLast?_map, Option.map_map]
    rfl
  rw [byIds, byIds, ids]

theorem session?_create (r : Roster) (session : Session) :
    (r.create session).session? session.id = some session := by
  have latest : (r.create session).latest? session.id = some r.sessions.length := by
    simp [latest?, create, List.zipIdx_append]
  rw [session?, latest, Option.bind_some]
  exact List.getElem?_concat_length

theorem session?_eq (latest : r.latest? id = some place)
    (located : r.sessions[place]? = some session) : r.session? id = some session := by
  rw [session?, latest, Option.bind_some, located]

theorem session?_setOutbox (latest : r.latest? id = some place)
    (located : r.sessions[place]? = some session) (change : Outbox → Outbox) :
    (r.setOutbox place change).session? id = some { session with outbox := change session.outbox } := by
  have still : (r.setOutbox place change).latest? id = some place := by
    rw [latest?_of_ids (ids_setOutbox r place change), latest]
  exact session?_eq still (by simp [setOutbox, located])

theorem messagesDropped_offerAt (located : r.sessions[place]? = some session) (frame : Frame) :
    (r.offerAt place frame).metrics.messagesDropped =
      r.metrics.messagesDropped + if session.outbox.answer = .full then 1 else 0 := by
  have answer : r.answerAt place = session.outbox.answer := by rw [answerAt, located]
  unfold offerAt
  rw [answer]
  cases session.outbox.answer <;> rfl

end Roster

/-! ## Acts of both ends -/

inductive Lane.Act
  | send (payload : String)
  | close
  | receive
  | dropReceiver

structure Lane where
  id : SessionId
  format : WireFormat
  roster : Roster
  accepted : List Frame := []
  received : List Frame := []

namespace Lane

def Act.frame? (format : WireFormat) : Act → Option Frame
  | send payload => some (format.frame payload)
  | close => some .normalClose
  | receive | dropReceiver => none

def Act.step (id : SessionId) : Act → Roster.Step
  | send payload => .send id payload
  | close => .close id
  | receive => .take id (some 1)
  | dropReceiver => .dropWriter id

def response (lane : Lane) (act : Act) : Roster.Response := (lane.roster.step (act.step lane.id)).2

def act (lane : Lane) (act : Act) : Lane :=
  { lane with
    roster := (lane.roster.step (act.step lane.id)).1
    accepted := lane.accepted ++
      match lane.response act with
      | .accepted (some true) => (act.frame? lane.format).toList
      | _ => []
    received := lane.received ++
      match lane.response act with
      | .frames frames => frames
      | _ => [] }

def run (lane : Lane) (acts : List Act) : Lane := acts.foldl act lane

def fresh (r : Roster) (id : SessionId) (format : WireFormat) (capacity : Nat) : Lane where
  id
  format
  roster := r.create (.fresh id format capacity)

/-- What was received and what waits is what was accepted, and no more waits than there is room
for. What waits when the receiver goes away is left there for good. -/
structure Honest (room : Nat) (lane : Lane) (o : Outbox) : Prop where
  seated : lane.roster.session? lane.id = some ⟨lane.id, lane.format, o⟩
  order : lane.received ++ o.waiting = lane.accepted
  capacity : o.capacity = room
  fits : o.waiting.length ≤ room

inductive Acted (room : Nat) (format : WireFormat) (o : Outbox) :
    Act → Roster.Response → Outbox → Nat → Prop
  | accept {act : Act} {frame : Frame} (offers : act.frame? format = some frame)
      (alive : o.writerAlive = true) (free : o.waiting.length < room) :
      Acted room format o act (.accepted (some true))
        { o with waiting := o.waiting ++ [frame] } 0
  | full {act : Act} {frame : Frame} (offers : act.frame? format = some frame)
      (alive : o.writerAlive = true) (full : room ≤ o.waiting.length) :
      Acted room format o act (.accepted (some false)) { o with dropped := o.dropped + 1 } 1
  | gone {act : Act} {frame : Frame} (offers : act.frame? format = some frame)
      (dead : o.writerAlive = false) : Acted room format o act (.accepted (some false)) o 0
  | receive (alive : o.writerAlive = true) :
      Acted room format o .receive (.frames (o.waiting.take 1))
        { o with waiting := o.waiting.drop 1 } 0
  | nobody (dead : o.writerAlive = false) : Acted room format o .receive .noWriter o 0
  | dropReceiver : Acted room format o .dropReceiver (.writerDropped o.writerAlive)
      { o with writerAlive := false } 0

variable {lane : Lane} {room : Nat} {o : Outbox}

theorem honest_fresh (r : Roster) (id : SessionId) (format : WireFormat) (capacity : Nat) :
    (fresh r id format capacity).Honest (max capacity 1) (.empty capacity) :=
  ⟨r.session?_create (.fresh id format capacity), rfl, rfl, Nat.zero_le _⟩

theorem step_offer {place : Nat} (latest : lane.roster.latest? lane.id = some place)
    (located : lane.roster.sessions[place]? = some ⟨lane.id, lane.format, o⟩) {act : Act}
    {frame : Frame} (offers : act.frame? lane.format = some frame) :
    lane.roster.step (act.step lane.id) =
      (lane.roster.offerAt place frame, .accepted (some (o.answer = .accepted))) := by
  cases act with
  | send payload | close =>
      cases offers
      simp [Act.step, Roster.step, Roster.offerLatest, latest, Roster.sendAt, Roster.closeAt, located,
        Roster.acceptsAt, Roster.answerAt]
  | receive | dropReceiver => cases offers

theorem step_receive {place : Nat} (latest : lane.roster.latest? lane.id = some place)
    (located : lane.roster.sessions[place]? = some ⟨lane.id, lane.format, o⟩) :
    lane.roster.step (Act.receive.step lane.id) =
      if o.writerAlive then
        (lane.roster.setOutbox place fun _ => { o with waiting := o.waiting.drop 1 },
          .frames (o.waiting.take 1))
      else (lane.roster, .noWriter) := by
  cases alive : o.writerAlive <;>
    simp [Act.step, Roster.step, Roster.takeLatest, latest, Roster.hasWriter, located, alive,
      Roster.takeUpTo, Roster.takeAt, Outbox.take]

theorem step_dropReceiver {place : Nat} (latest : lane.roster.latest? lane.id = some place)
    (located : lane.roster.sessions[place]? = some ⟨lane.id, lane.format, o⟩) :
    lane.roster.step (Act.dropReceiver.step lane.id) =
      (lane.roster.setOutbox place (·.dropWriter), .writerDropped o.writerAlive) := by
  simp [Act.step, Roster.step, Roster.dropLatest, latest, Roster.hasWriter, located,
    Roster.dropWriterAt]

theorem acted_offer {act : Act} {frame : Frame} (offers : act.frame? lane.format = some frame) :
    Acted o.capacity lane.format o act (.accepted (some (o.answer = .accepted))) (o.offer frame)
      (if o.answer = .full then 1 else 0) := by
  cases alive : o.writerAlive with
  | false =>
      have answer : o.answer = .closed := by simp [Outbox.answer, alive]
      simpa [Outbox.offer, answer] using Acted.gone offers alive
  | true =>
      by_cases free : o.waiting.length < o.capacity
      · have answer : o.answer = .accepted := by simp [Outbox.answer, alive, free]
        simpa [Outbox.offer, answer] using Acted.accept offers alive free
      · have answer : o.answer = .full := by simp [Outbox.answer, alive, free]
        simpa [Outbox.offer, answer] using Acted.full offers alive (Nat.le_of_not_lt free)

structure Proceeds (room : Nat) (lane : Lane) (o : Outbox) (act : Act) (o' : Outbox) (drops : Nat) :
    Prop where
  seated : (lane.act act).roster.session? lane.id = some ⟨lane.id, lane.format, o'⟩
  acted : Acted room lane.format o act (lane.response act) o' drops
  counted : (lane.act act).roster.metrics.messagesDropped =
    lane.roster.metrics.messagesDropped + drops

theorem proceeds_of_step {act : Act} {after : Roster} {response : Roster.Response} {o' : Outbox}
    {drops : Nat} (stepped : lane.roster.step (act.step lane.id) = (after, response))
    (seated : after.session? lane.id = some ⟨lane.id, lane.format, o'⟩)
    (acted : Acted o.capacity lane.format o act response o' drops)
    (counted : after.metrics.messagesDropped = lane.roster.metrics.messagesDropped + drops) :
    lane.Proceeds o.capacity o act o' drops := by
  have next : (lane.act act).roster = after := congrArg Prod.fst stepped
  have told : lane.response act = response := congrArg Prod.snd stepped
  exact ⟨next.symm ▸ seated, told.symm ▸ acted, next.symm ▸ counted⟩

theorem proceeds (seated : lane.roster.session? lane.id = some ⟨lane.id, lane.format, o⟩)
    (act : Act) : ∃ o' drops, lane.Proceeds o.capacity o act o' drops := by
  obtain ⟨place, latest, located⟩ := Option.bind_eq_some_iff.mp seated
  have changed := Roster.session?_setOutbox latest located
  cases offers : act.frame? lane.format with
  | some frame =>
      refine ⟨_, _, proceeds_of_step (step_offer latest located offers) ?_ (acted_offer offers)
        (Roster.messagesDropped_offerAt located frame)⟩
      rw [Roster.session?_congr (Roster.sessions_offerAt _ _ _)]
      exact changed (·.offer frame)
  | none =>
      cases act with
      | send payload | close => cases offers
      | receive =>
          have stepped := step_receive latest located
          cases alive : o.writerAlive with
          | false =>
              rw [if_neg (by simp [alive])] at stepped
              exact ⟨o, 0, proceeds_of_step stepped seated (.nobody alive) rfl⟩
          | true =>
              rw [if_pos alive] at stepped
              exact ⟨_, 0, proceeds_of_step stepped (changed _) (.receive alive) rfl⟩
      | dropReceiver =>
          exact ⟨_, 0, proceeds_of_step (step_dropReceiver latest located) (changed _)
            .dropReceiver rfl⟩

theorem Acted.writerAlive {format : WireFormat} {act : Act} {response : Roster.Response}
    {o' : Outbox} {drops : Nat} (acted : Acted room format o act response o' drops) :
    o'.writerAlive = true ↔ o.writerAlive = true ∧ act ≠ .dropReceiver := by
  cases acted with
  | accept offers | full offers | gone offers =>
      have other : act ≠ .dropReceiver := by
        rintro rfl
        cases offers
      simp [other]
  | receive | nobody | dropReceiver => simp

theorem Acted.answer {format : WireFormat} {act : Act} {response : Roster.Response} {o' : Outbox}
    {drops : Nat} (acted : Acted room format o act response o' drops) {frame : Frame}
    (offers : act.frame? format = some frame) :
    response = .accepted (some (o.writerAlive && o.waiting.length < room)) := by
  cases acted with
  | accept _ alive free => simp [alive, free]
  | full _ alive full => simp [alive, full]
  | gone _ dead => simp [dead]
  | receive | nobody | dropReceiver => cases offers

theorem Honest.act (honest : lane.Honest room o) (act : Act) :
    ∃ o' drops, (lane.act act).Honest room o' ∧ lane.Proceeds room o act o' drops := by
  obtain ⟨seated, order, rfl, fits⟩ := honest
  obtain ⟨o', drops, proceeds⟩ := proceeds seated act
  refine ⟨o', drops, ⟨proceeds.seated, ?_, ?_, ?_⟩, proceeds⟩ <;>
    have acted := proceeds.acted
  · simp only [Lane.act]
    generalize lane.response act = response at acted ⊢
    cases acted with
    | accept offers => simp [offers, ← order]
    | receive alive => simp only [List.append_nil, List.append_assoc, List.take_append_drop, order]
    | _ => simpa using order
  · generalize lane.response act = response at acted
    cases acted <;> rfl
  · generalize lane.response act = response at acted
    cases acted with
    | accept _ _ free => simpa using Nat.succ_le_of_lt free
    | receive alive => exact Nat.le_trans (by simp) fits
    | _ => exact fits

theorem Honest.offer (honest : lane.Honest room o) {act : Act} {frame : Frame}
    (offers : act.frame? lane.format = some frame) :
    ∃ o', (lane.act act).Honest room o' ∧ (lane.act act).received = lane.received ∧
      o'.writerAlive = o.writerAlive ∧
      (o.writerAlive = false → o' = o ∧ (lane.act act).accepted = lane.accepted) := by
  obtain ⟨o', _, honest', proceeds⟩ := honest.act act
  have acted := proceeds.acted
  refine ⟨o', honest', ?_⟩
  simp only [Lane.act]
  generalize lane.response act = response at acted ⊢
  cases acted with
  | accept _ alive => simp [alive]
  | full _ alive => simp [alive]
  | gone => simp
  | receive | nobody | dropReceiver => cases offers

theorem received_act (lane : Lane) (act : Act) : (lane.act act).received = lane.received ++
    match lane.response act with
    | .frames frames => frames
    | _ => [] := rfl

theorem Honest.receive (honest : lane.Honest room o) (alive : o.writerAlive = true) :
    lane.response .receive = .frames (o.waiting.take 1) ∧
      (lane.act .receive).Honest room { o with waiting := o.waiting.drop 1 } ∧
      (lane.act .receive).received = lane.received ++ o.waiting.take 1 := by
  obtain ⟨o', _, honest', proceeds⟩ := honest.act .receive
  have acted := proceeds.acted
  rw [received_act]
  generalize lane.response .receive = response at acted ⊢
  cases acted with
  | receive => exact ⟨rfl, honest', rfl⟩
  | nobody dead => simp [alive] at dead
  | accept offers | full offers | gone offers => cases offers

theorem Honest.dropReceiver (honest : lane.Honest room o) :
    (lane.act .dropReceiver).Honest room { o with writerAlive := false } ∧
      (lane.act .dropReceiver).received = lane.received := by
  obtain ⟨o', _, honest', proceeds⟩ := honest.act .dropReceiver
  have acted := proceeds.acted
  rw [received_act]
  generalize lane.response .dropReceiver = response at acted ⊢
  cases acted with
  | dropReceiver => exact ⟨honest', List.append_nil _⟩
  | accept offers | full offers | gone offers => cases offers

theorem Honest.run (honest : lane.Honest room o) (acts : List Act) :
    ∃ o', (lane.run acts).Honest room o' ∧
      (o'.writerAlive = true ↔ o.writerAlive = true ∧ .dropReceiver ∉ acts) := by
  induction acts generalizing lane o with
  | nil => exact ⟨o, honest, by simp⟩
  | cons act rest ih =>
      obtain ⟨o', _, honest', proceeds⟩ := honest.act act
      obtain ⟨last, honestLast, alive⟩ := ih honest'
      refine ⟨last, honestLast, alive.trans ?_⟩
      rw [proceeds.acted.writerAlive, List.mem_cons, not_or, and_assoc, ne_comm]

theorem run_same (lane : Lane) (acts : List Act) :
    (lane.run acts).id = lane.id ∧ (lane.run acts).format = lane.format := by
  induction acts generalizing lane with
  | nil => exact ⟨rfl, rfl⟩
  | cons act rest ih => exact ih (lane.act act)

end Lane

end FeedBridge
