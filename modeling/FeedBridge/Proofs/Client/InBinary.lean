import FeedBridge.Proofs.Client.Likeness

namespace FeedBridge

namespace Frame

def inBinary : Frame → Frame
  | text payload => .binary payload.toUTF8
  | frame => frame

def isTextual : Frame → Bool
  | binary _ => false
  | _ => true

@[simp]
theorem bytes_inBinary (frame : Frame) : frame.inBinary.bytes = frame.bytes := by
  cases frame <;> rfl

theorem message?_inBinary (frame : Frame) : frame.inBinary.message? = frame.message? := by
  cases frame with
  | text payload => exact message?_binary payload
  | binary | close => rfl

theorem message?_of_invalid {payload : ByteArray} (invalid : ¬ payload.IsValidUTF8) :
    (Frame.binary payload).message? = none := by
  exact dif_neg invalid

end Frame

@[simp]
theorem WireFormat.inBinary_frame (format : WireFormat) (payload : String) :
    (format.frame payload).inBinary = WireFormat.binary.frame payload := by
  cases format <;> rfl

namespace Outbox

def inBinary (o : Outbox) : Outbox := { o with waiting := o.waiting.map Frame.inBinary }

@[simp]
theorem answer_inBinary (o : Outbox) : o.inBinary.answer = o.answer := by
  simp [answer, inBinary]

theorem inBinary_offer (o : Outbox) (frame : Frame) :
    (o.offer frame).inBinary = o.inBinary.offer frame.inBinary := by
  unfold offer
  rw [answer_inBinary]
  cases o.answer <;> simp [inBinary]

theorem inBinary_take (o : Outbox) (count : Nat) :
    (o.take count).1.map Frame.inBinary = (o.inBinary.take count).1 ∧
      (o.take count).2.inBinary = (o.inBinary.take count).2 := by
  simp [take, inBinary, List.map_take, List.map_drop]

end Outbox

namespace Session

def inBinary (session : Session) : Session :=
  { session with format := .binary, outbox := session.outbox.inBinary }

structure Textual (session : Session) : Prop where
  format : session.format = .text
  waiting : ∀ frame ∈ session.outbox.waiting, frame.isTextual = true

end Session

namespace Roster

def inBinary (r : Roster) : Roster := { r with sessions := r.sessions.map Session.inBinary }

def Step.inBinary : Step → Step
  | .create session => .create session.inBinary
  | .enroll session => .enroll session.inBinary
  | step => step

def Response.inBinary : Response → Response
  | .frames taken => .frames (taken.map Frame.inBinary)
  | response => response

theorem located_inBinary (r : Roster) (place : Nat) :
    r.inBinary.sessions[place]? = r.sessions[place]?.map Session.inBinary := List.getElem?_map

@[simp]
theorem answerAt_inBinary (r : Roster) (place : Nat) :
    r.inBinary.answerAt place = r.answerAt place := by
  unfold answerAt
  rw [located_inBinary]
  cases r.sessions[place]? with
  | none => rfl
  | some session => exact session.outbox.answer_inBinary

@[simp]
theorem acceptsAt_inBinary (r : Roster) (place : Nat) :
    r.inBinary.acceptsAt place = r.acceptsAt place := by
  simp [acceptsAt]

@[simp]
theorem accepts_inBinary (r : Roster) (id : SessionId) : r.inBinary.accepts id = r.accepts id := by
  unfold accepts
  simp only [acceptsAt_inBinary]
  rfl

@[simp]
theorem hasWriter_inBinary (r : Roster) (place : Nat) :
    r.inBinary.hasWriter place = r.hasWriter place := by
  unfold hasWriter
  rw [located_inBinary]
  cases r.sessions[place]? <;> rfl

@[simp]
theorem latest?_inBinary (r : Roster) (id : SessionId) : r.inBinary.latest? id = r.latest? id := by
  have filtered : (r.inBinary.sessions.zipIdx.filter fun entry => entry.1.id = id) =
      (r.sessions.zipIdx.filter fun entry => entry.1.id = id).map
        (Prod.map Session.inBinary fun place => place) := by
    rw [inBinary, List.zipIdx_map, List.filter_map]
    rfl
  unfold latest?
  rw [filtered, List.getLast?_map, Option.map_map]
  rfl

theorem inBinary_setOutbox (r : Roster) (place : Nat) {change change' : Outbox → Outbox}
    (commutes : ∀ o, (change o).inBinary = change' o.inBinary) :
    (r.setOutbox place change).inBinary = r.inBinary.setOutbox place change' := by
  unfold setOutbox inBinary
  congr 1
  apply List.ext_getElem?
  intro i
  rw [List.getElem?_map, List.getElem?_modify, List.getElem?_modify, List.getElem?_map]
  cases r.sessions[i]? with
  | none => rfl
  | some session =>
      by_cases here : place = i
      · simp [here, Session.inBinary, commutes]
      · simp [here]

theorem inBinary_offerAt (r : Roster) (place : Nat) (frame : Frame) :
    (r.offerAt place frame).inBinary = r.inBinary.offerAt place frame.inBinary := by
  have offered : (r.setOutbox place (·.offer frame)).inBinary =
      r.inBinary.setOutbox place (·.offer frame.inBinary) :=
    r.inBinary_setOutbox place (Outbox.inBinary_offer · frame)
  unfold offerAt
  rw [answerAt_inBinary]
  dsimp only
  rw [← offered]
  cases r.answerAt place <;> rfl

theorem inBinary_sendAt (r : Roster) (place : Nat) (payload : String) :
    (r.sendAt place payload).inBinary = r.inBinary.sendAt place payload := by
  unfold sendAt
  rw [located_inBinary]
  cases r.sessions[place]? with
  | none => rfl
  | some session => simp [inBinary_offerAt, Session.inBinary]

theorem inBinary_deliver (r : Roster) (id : SessionId) (payload : String) :
    (r.deliver id payload).inBinary = r.inBinary.deliver id payload := by
  have found : r.inBinary.find? id = r.find? id := rfl
  unfold deliver
  rw [found]
  cases r.find? id with
  | none => rfl
  | some place => exact r.inBinary_sendAt place payload

theorem inBinary_sendAll (r : Roster) (payload : String) (places : List Nat) :
    (r.sendAll payload places).1.inBinary = (r.inBinary.sendAll payload places).1 ∧
      (r.sendAll payload places).2 = (r.inBinary.sendAll payload places).2 := by
  induction places generalizing r with
  | nil => exact ⟨rfl, rfl⟩
  | cons place rest ih =>
      obtain ⟨after, taken⟩ := ih (r.sendAt place payload)
      simp only [sendAll, acceptsAt_inBinary, ← inBinary_sendAt]
      exact ⟨after, congrArg (· + _) taken⟩

theorem inBinary_offerLatest (r : Roster) (id : SessionId) {offer offer' : Nat → Roster}
    (commutes : ∀ place, (offer place).inBinary = offer' place) :
    (r.offerLatest id offer).1.inBinary = (r.inBinary.offerLatest id offer').1 ∧
      (r.offerLatest id offer).2.inBinary = (r.inBinary.offerLatest id offer').2 := by
  unfold offerLatest
  rw [latest?_inBinary]
  cases r.latest? id with
  | none => exact ⟨rfl, rfl⟩
  | some place => exact ⟨commutes place, by simp [Response.inBinary]⟩

theorem inBinary_takeUpTo (r : Roster) (place : Nat) (limit : Option Nat) :
    (r.takeUpTo place limit).1.map Frame.inBinary = (r.inBinary.takeUpTo place limit).1 ∧
      (r.takeUpTo place limit).2.inBinary = (r.inBinary.takeUpTo place limit).2 := by
  unfold takeUpTo takeAt
  rw [located_inBinary]
  cases located : r.sessions[place]? with
  | none => exact ⟨rfl, rfl⟩
  | some session =>
      have length : session.outbox.inBinary.waiting.length = session.outbox.waiting.length :=
        List.length_map _
      obtain ⟨frames, rest⟩ := session.outbox.inBinary_take
        (limit.getD session.outbox.waiting.length)
      simp only [Option.map_some, Session.inBinary, length]
      exact ⟨frames, r.inBinary_setOutbox place fun _ => rest⟩

theorem inBinary_takeLatest (r : Roster) (id : SessionId) (limit : Option Nat) :
    (r.takeLatest id limit).1.inBinary = (r.inBinary.takeLatest id limit).1 ∧
      (r.takeLatest id limit).2.inBinary = (r.inBinary.takeLatest id limit).2 := by
  unfold takeLatest
  rw [latest?_inBinary]
  cases r.latest? id with
  | none => exact ⟨rfl, rfl⟩
  | some place =>
      obtain ⟨frames, after⟩ := r.inBinary_takeUpTo place limit
      dsimp only
      rw [hasWriter_inBinary]
      split_ifs
      · exact ⟨after, congrArg Response.frames frames⟩
      · exact ⟨rfl, rfl⟩

theorem inBinary_dropLatest (r : Roster) (id : SessionId) :
    (r.dropLatest id).1.inBinary = (r.inBinary.dropLatest id).1 ∧
      (r.dropLatest id).2.inBinary = (r.inBinary.dropLatest id).2 := by
  unfold dropLatest
  rw [latest?_inBinary]
  cases r.latest? id with
  | none => exact ⟨rfl, rfl⟩
  | some place =>
      exact ⟨r.inBinary_setOutbox place fun _ => rfl, by simp [Response.inBinary]⟩

theorem inBinary_create (r : Roster) (session : Session) :
    (r.create session).inBinary = r.inBinary.create session.inBinary := by
  simp [create, inBinary]

theorem inBinary_enroll (r : Roster) (session : Session) :
    (r.enroll session).inBinary = r.inBinary.enroll session.inBinary := by
  simp [enroll, create, register, setRegistered, inBinary, Session.inBinary]

theorem inBinary_step (r : Roster) (step : Step) :
    (r.step step).1.inBinary = (r.inBinary.step step.inBinary).1 ∧
      (r.step step).2.inBinary = (r.inBinary.step step.inBinary).2 := by
  cases step with
  | create session => exact ⟨r.inBinary_create session, rfl⟩
  | enroll session => exact ⟨r.inBinary_enroll session, rfl⟩
  | unregister | find | isLive | clear => exact ⟨rfl, rfl⟩
  | deliver id payload => exact ⟨r.inBinary_deliver id payload, by
      simp [Roster.step, Step.inBinary, Response.inBinary]⟩
  | broadcast payload =>
      obtain ⟨after, taken⟩ := r.inBinary_sendAll payload (r.registered.map (·.2))
      exact ⟨after, congrArg Response.count taken⟩
  | send id payload => exact r.inBinary_offerLatest id (r.inBinary_sendAt · payload)
  | close id => exact r.inBinary_offerLatest id (r.inBinary_offerAt · .normalClose)
  | take id limit => exact r.inBinary_takeLatest id limit
  | dropWriter id => exact r.inBinary_dropLatest id

def Textual (r : Roster) : Prop := ∀ session ∈ r.sessions, session.Textual

def Step.Textual : Step → Prop
  | .create session | .enroll session => session.Textual
  | _ => True

def Response.Textual : Response → Prop
  | .frames taken => ∀ frame ∈ taken, frame.isTextual = true
  | _ => True

namespace Textual

variable {r : Roster}

theorem setOutbox (textual : r.Textual) (place : Nat) {change : Outbox → Outbox}
    (keeps : ∀ o : Outbox, (∀ frame ∈ o.waiting, frame.isTextual = true) →
      ∀ frame ∈ (change o).waiting, frame.isTextual = true) :
    (r.setOutbox place change).Textual := by
  intro session member
  obtain ⟨i, located⟩ := List.getElem?_of_mem member
  simp only [Roster.setOutbox, List.getElem?_modify] at located
  obtain ⟨old, found, rfl⟩ := Option.map_eq_some_iff.mp located
  obtain ⟨format, waiting⟩ := textual old (List.mem_of_getElem? found)
  split_ifs
  · exact ⟨format, keeps old.outbox waiting⟩
  · exact ⟨format, waiting⟩

theorem offerAt (textual : r.Textual) (place : Nat) {frame : Frame}
    (text : frame.isTextual = true) : (r.offerAt place frame).Textual := by
  have offered : (r.setOutbox place (·.offer frame)).Textual := by
    refine textual.setOutbox place fun o all => ?_
    unfold Outbox.offer
    cases o.answer with
    | accepted =>
        intro other member
        rcases List.mem_append.mp member with old | new
        · exact all other old
        · exact List.mem_singleton.mp new ▸ text
    | full | closed => exact all
  intro session member
  rw [sessions_offerAt] at member
  exact offered session member

theorem sendAt (textual : r.Textual) (place : Nat) (payload : String) :
    (r.sendAt place payload).Textual := by
  unfold Roster.sendAt
  cases located : r.sessions[place]? with
  | none => exact textual
  | some session =>
      refine textual.offerAt place ?_
      rw [(textual session (List.mem_of_getElem? located)).format]
      rfl

theorem deliver (textual : r.Textual) (id : SessionId) (payload : String) :
    (r.deliver id payload).Textual := by
  unfold Roster.deliver
  cases r.find? id with
  | none => exact textual
  | some place => exact textual.sendAt place payload

theorem sendAll (textual : r.Textual) (payload : String) (places : List Nat) :
    (r.sendAll payload places).1.Textual := by
  induction places generalizing r with
  | nil => exact textual
  | cons place rest ih => exact ih (textual.sendAt place payload)

theorem create (textual : r.Textual) {session : Session} (text : session.Textual) :
    (r.create session).Textual := by
  intro other member
  rcases List.mem_append.mp member with old | new
  · exact textual other old
  · exact List.mem_singleton.mp new ▸ text

theorem offerLatest (textual : r.Textual) {offer : Nat → Roster}
    (each : ∀ place, (offer place).Textual) (id : SessionId) :
    (r.offerLatest id offer).1.Textual ∧ (r.offerLatest id offer).2.Textual := by
  unfold Roster.offerLatest
  cases r.latest? id with
  | none => exact ⟨textual, trivial⟩
  | some place => exact ⟨each place, trivial⟩

theorem takeLatest (textual : r.Textual) (id : SessionId) (limit : Option Nat) :
    (r.takeLatest id limit).1.Textual ∧ (r.takeLatest id limit).2.Textual := by
  rcases takeLatest_cases r id limit with
    ⟨same, -⟩ | ⟨place, session, -, located, -, same, frames⟩
  · rw [same]
    exact ⟨textual, trivial⟩
  · have waiting := (textual session (List.mem_of_getElem? located)).waiting
    rw [same, frames]
    exact ⟨textual.setOutbox place fun _ _ frame member =>
      waiting frame (List.mem_of_mem_drop member), fun frame member =>
      waiting frame (List.mem_of_mem_take member)⟩

theorem step (textual : r.Textual) {step : Step} (text : step.Textual) :
    (r.step step).1.Textual ∧ (r.step step).2.Textual := by
  cases step with
  | create session => exact ⟨textual.create text, trivial⟩
  | enroll session => exact ⟨textual.create text, trivial⟩
  | unregister | find | isLive | clear => exact ⟨textual, trivial⟩
  | deliver id payload => exact ⟨textual.deliver id payload, trivial⟩
  | broadcast payload => exact ⟨textual.sendAll payload _, trivial⟩
  | send id payload => exact textual.offerLatest (textual.sendAt · payload) id
  | close id => exact textual.offerLatest (textual.offerAt · rfl) id
  | take id limit => exact textual.takeLatest id limit
  | dropWriter id =>
      dsimp only [Roster.step, Roster.dropLatest]
      cases r.latest? id with
      | none => exact ⟨textual, trivial⟩
      | some place => exact ⟨textual.setOutbox place fun _ all => all, trivial⟩

end Textual

end Roster

end FeedBridge
