import FeedBridge.Proofs.Client.Tidy

namespace FeedBridge

/-! ## What a frame holds -/

namespace Frame

def format? : Frame → Option WireFormat
  | text _ => some .text
  | binary _ => some .binary
  | close _ => none

/-- A message of a kind that is read as a payload, and whose bytes are those of the payload. -/
structure Holds (frame : Frame) (format : WireFormat) (payload : String) : Prop where
  kind : frame.format? = some format
  message : frame.message? = some payload
  bytes : frame.bytes = payload.toUTF8

variable {frame : Frame} {format : WireFormat} {payload : String}

theorem message?_binary (payload : String) : (binary payload.toUTF8).message? = some payload := by
  change String.fromUTF8? payload.toUTF8 = some payload
  unfold String.fromUTF8?
  rw [String.toUTF8_eq_toByteArray, dif_pos payload.isValidUTF8]
  rfl

theorem holds_frame (format : WireFormat) (payload : String) :
    (format.frame payload).Holds format payload := by
  cases format with
  | text => exact ⟨rfl, rfl, rfl⟩
  | binary => exact ⟨rfl, message?_binary payload, rfl⟩

/-- No other frame holds a payload than the one that wraps it. -/
theorem holds_iff : frame.Holds format payload ↔ frame = format.frame payload := by
  constructor
  · rintro ⟨kind, message, bytes⟩
    cases frame with
    | text content =>
        cases kind
        cases message
        rfl
    | binary content =>
        cases kind
        cases bytes
        rfl
    | close reason => cases kind
  · rintro rfl
    exact holds_frame format payload

end Frame

structure Offered where
  place : Nat
  session : SessionId
  frame : Frame
  answer : Offer
deriving DecidableEq

namespace Offered

def acceptedAt (place : Nat) (log : List Offered) : List Frame :=
  (log.filter fun offered => offered.place = place ∧ offered.answer = .accepted).map (·.frame)

theorem acceptedAt_append (place : Nat) (log later : List Offered) :
    acceptedAt place (log ++ later) = acceptedAt place log ++ acceptedAt place later := by
  simp [acceptedAt]

end Offered

namespace Roster

def offered (r : Roster) (place : Nat) (frame : Frame) : List Offered :=
  match r.sessions[place]? with
  | some session => [⟨place, session.id, frame, session.outbox.answer⟩]
  | none => []

def payloadOffered (r : Roster) (place : Nat) (payload : String) : List Offered :=
  match r.sessions[place]? with
  | some session => r.offered place (session.format.frame payload)
  | none => []

def deliveryOffered (r : Roster) (id : SessionId) (payload : String) : List Offered :=
  match r.find? id with
  | some place => r.payloadOffered place payload
  | none => []

def offeredToAll (r : Roster) (payload : String) : List Nat → List Offered
  | [] => []
  | place :: rest =>
    r.payloadOffered place payload ++ (r.sendAt place payload).offeredToAll payload rest

def offers (r : Roster) : Step → List Offered
  | .deliver id payload => r.deliveryOffered id payload
  | .broadcast payload => r.offeredToAll payload (r.registered.map (·.2))
  | .send id payload => (r.latest? id).elim [] (r.payloadOffered · payload)
  | .close id => (r.latest? id).elim [] (r.offered · .normalClose)
  | _ => []

def takenAt (r : Roster) (place : Nat) : Step → List Frame
  | .take id limit =>
    if r.latest? id = some place ∧ r.hasWriter place then (r.takeUpTo place limit).1 else []
  | _ => []

def Grows (before after : Roster) (log : List Offered) : Prop :=
  ∀ place session, before.sessions[place]? = some session →
    ∃ outbox, after.sessions[place]? = some { session with outbox } ∧
      outbox.waiting = session.outbox.waiting ++ Offered.acceptedAt place log

namespace Grows

theorem of_sessions {before after : Roster} (same : after.sessions = before.sessions) :
    before.Grows after [] := by
  intro place session located
  exact ⟨session.outbox, same ▸ located, by simp [Offered.acceptedAt]⟩

theorem trans {before between after : Roster} {log later : List Offered}
    (first : before.Grows between log) (second : between.Grows after later) :
    before.Grows after (log ++ later) := by
  intro place session located
  obtain ⟨outbox, seated, grown⟩ := first place session located
  obtain ⟨last, found, more⟩ := second place _ seated
  refine ⟨last, found, ?_⟩
  rw [more, grown, Offered.acceptedAt_append, List.append_assoc]

theorem offerAt (r : Roster) (place : Nat) (frame : Frame) :
    r.Grows (r.offerAt place frame) (r.offered place frame) := by
  intro other session located
  simp only [sessions_offerAt, setOutbox, List.getElem?_modify, located]
  by_cases here : place = other
  · subst here
    refine ⟨session.outbox.offer frame, by simp, ?_⟩
    cases answer : session.outbox.answer <;>
      simp [offered, located, Offered.acceptedAt, Outbox.offer, answer]
  · refine ⟨session.outbox, by simp [here], ?_⟩
    unfold offered
    split <;> simp [Offered.acceptedAt, here]

theorem sendAt (r : Roster) (place : Nat) (payload : String) :
    r.Grows (r.sendAt place payload) (r.payloadOffered place payload) := by
  unfold Roster.sendAt payloadOffered
  cases r.sessions[place]? with
  | none => exact of_sessions rfl
  | some session => exact offerAt r place _

theorem deliver (r : Roster) (id : SessionId) (payload : String) :
    r.Grows (r.deliver id payload) (r.deliveryOffered id payload) := by
  unfold Roster.deliver deliveryOffered
  cases r.find? id with
  | none => exact of_sessions rfl
  | some place => exact sendAt r place payload

theorem sendAll (r : Roster) (payload : String) (places : List Nat) :
    r.Grows (r.sendAll payload places).1 (r.offeredToAll payload places) := by
  induction places generalizing r with
  | nil => exact of_sessions rfl
  | cons place rest ih => exact (sendAt r place payload).trans (ih _)

theorem accounts {before after : Roster} {log : List Offered} (grows : before.Grows after log)
    {place : Nat} {session : Session} (located : before.sessions[place]? = some session) :
    ∃ outbox, after.sessions[place]? = some { session with outbox } ∧
      session.outbox.waiting ++ Offered.acceptedAt place log = [] ++ outbox.waiting := by
  obtain ⟨outbox, seated, grown⟩ := grows place session located
  exact ⟨outbox, seated, grown.symm⟩

end Grows

theorem takeLatest_accounts (r : Roster) (id : SessionId) (limit : Option Nat) {place : Nat}
    {session : Session} (located : r.sessions[place]? = some session) :
    ∃ outbox, (r.takeLatest id limit).1.sessions[place]? = some { session with outbox } ∧
      session.outbox.waiting = r.takenAt place (.take id limit) ++ outbox.waiting := by
  have idle (elsewhere : r.latest? id ≠ some place) : r.takenAt place (.take id limit) = [] :=
    if_neg fun h => elsewhere h.1
  cases latest : r.latest? id with
  | none => exact ⟨session.outbox, by simpa [takeLatest, latest] using located,
      by simp [idle, latest]⟩
  | some taken =>
      by_cases here : taken = place
      · subst here
        cases writer : session.outbox.writerAlive with
        | false => exact ⟨session.outbox, by simp [takeLatest, latest, hasWriter, located, writer],
            by simp [takenAt, hasWriter, located, writer]⟩
        | true =>
            refine ⟨(session.outbox.take (limit.getD session.outbox.waiting.length)).2, ?_, ?_⟩ <;>
              simp [takeLatest, takenAt, latest, hasWriter, located, writer, takeUpTo, takeAt,
                setOutbox, Outbox.take]
      · refine ⟨session.outbox, ?_, by simp [idle, latest, here]⟩
        simp only [takeLatest, latest]
        split_ifs
        · cases other : r.sessions[taken]? with
          | none => simp [takeUpTo, other, located]
          | some seated => simp [takeUpTo, takeAt, other, setOutbox, here, located]
        · exact located

theorem step_accounts (r : Roster) (step : Step) {place : Nat} {session : Session}
    (located : r.sessions[place]? = some session) :
    ∃ outbox, (r.step step).1.sessions[place]? = some { session with outbox } ∧
      session.outbox.waiting ++ Offered.acceptedAt place (r.offers step) =
        r.takenAt place step ++ outbox.waiting := by
  have earlier : ∀ newcomer : Session, (r.sessions ++ [newcomer])[place]? = some session := by
    intro newcomer
    rw [List.getElem?_append_left (List.getElem?_eq_some_iff.mp located).1]
    exact located
  cases step with
  | create newcomer | enroll newcomer =>
      exact ⟨session.outbox, earlier newcomer, by simp [offers, takenAt, Offered.acceptedAt]⟩
  | unregister id | find id | isLive id | clear => exact (Grows.of_sessions rfl).accounts located
  | deliver id payload => exact (Grows.deliver r id payload).accounts located
  | broadcast payload => exact (Grows.sendAll r payload _).accounts located
  | send id payload =>
      dsimp only [Roster.step, offerLatest, offers]
      cases r.latest? id with
      | none => exact (Grows.of_sessions rfl).accounts located
      | some latest => exact (Grows.sendAt r latest payload).accounts located
  | close id =>
      dsimp only [Roster.step, offerLatest, offers]
      cases r.latest? id with
      | none => exact (Grows.of_sessions rfl).accounts located
      | some latest => exact (Grows.offerAt r latest .normalClose).accounts located
  | take id limit =>
      have accounts := r.takeLatest_accounts id limit located
      simpa [Roster.step, offers, Offered.acceptedAt] using accounts
  | dropWriter id =>
      dsimp only [Roster.step, dropLatest]
      cases r.latest? id with
      | none => exact (Grows.of_sessions rfl).accounts located
      | some latest =>
          by_cases here : latest = place
          · subst here
            exact ⟨session.outbox.dropWriter, by simp [dropWriterAt, setOutbox, located],
              by simp [offers, takenAt, Offered.acceptedAt, Outbox.dropWriter]⟩
          · exact ⟨session.outbox, by simp [dropWriterAt, setOutbox, here, located],
              by simp [offers, takenAt, Offered.acceptedAt]⟩

end Roster

end FeedBridge
