import FeedBridge.Proofs.Client.Offers

namespace FeedBridge

def Session.hide (id : SessionId) (session : Session) : Session :=
  if session.id = id then { session with outbox := .empty 0 } else session

namespace Session

variable {id : SessionId} {session other : Session}

@[simp]
theorem id_hide : (session.hide id).id = session.id := by
  unfold hide
  split_ifs <;> rfl

@[simp]
theorem format_hide : (session.hide id).format = session.format := by
  unfold hide
  split_ifs <;> rfl

theorem hide_of_ne (stranger : session.id ≠ id) : session.hide id = session := if_neg stranger

theorem of_hide_eq (alike : other.hide id = session.hide id) :
    other.id = session.id ∧ other.format = session.format ∧ (session.id ≠ id → other = session) := by
  have number : other.id = session.id := by simpa using congrArg Session.id alike
  have format : other.format = session.format := by simpa using congrArg Session.format alike
  refine ⟨number, format, fun stranger => ?_⟩
  rwa [hide_of_ne stranger, hide_of_ne (number ▸ stranger)] at alike

end Session

def strangers (id : SessionId) (log : List Offered) : List Offered :=
  log.filter fun offered => offered.session != id

theorem strangers_append (id : SessionId) (log later : List Offered) :
    strangers id (log ++ later) = strangers id log ++ strangers id later :=
  List.filter_append _ _

namespace Roster

theorem setOutbox_self (r : Roster) (place : Nat) : r.setOutbox place (fun o => o) = r := by
  change { r with sessions := r.sessions.modify place id } = r
  rw [List.modify_id]

theorem takeLatest_eq (r : Roster) (id : SessionId) (limit : Option Nat) :
    (r.takeLatest id limit).1 = match r.latest? id with
      | some place => r.setOutbox place fun o =>
          if o.writerAlive then (o.take (limit.getD o.waiting.length)).2 else o
      | none => r := by
  unfold takeLatest
  cases latest : r.latest? id with
  | none => rfl
  | some place =>
      obtain ⟨session, located, -⟩ := latest?_eq_some latest
      have only (change : Outbox → Outbox) :
          r.setOutbox place change = r.setOutbox place fun _ => change session.outbox := by
        unfold setOutbox
        congr 1
        apply List.ext_getElem?
        intro i
        by_cases here : place = i
        · subst here
          simp [located]
        · simp [here]
      dsimp only
      rw [only]
      cases writer : session.outbox.writerAlive with
      | false =>
          have same := only fun o => o
          simp [hasWriter, located, writer, ← same, setOutbox_self]
      | true => simp [hasWriter, located, writer, takeUpTo, takeAt]

/-- Two rosters differ at most in the queues of the sessions of a number. -/
structure Like (id : SessionId) (r r' : Roster) : Prop where
  registered : r'.registered = r.registered
  sessions : r'.sessions.map (·.hide id) = r.sessions.map (·.hide id)

namespace Like

variable {id : SessionId} {r r' : Roster}

theorem refl (id : SessionId) (r : Roster) : r.Like id r := ⟨rfl, rfl⟩

theorem symm (like : r.Like id r') : r'.Like id r := ⟨like.registered.symm, like.sessions.symm⟩

theorem trans {r'' : Roster} (first : r.Like id r') (second : r'.Like id r'') : r.Like id r'' :=
  ⟨second.registered.trans first.registered, second.sessions.trans first.sessions⟩

theorem congr {after after' : Roster} (like : r.Like id r')
    (sessions : after.sessions = r.sessions) (sessions' : after'.sessions = r'.sessions)
    (registered : after'.registered = after.registered) : after.Like id after' :=
  ⟨registered, by rw [sessions, sessions', like.sessions]⟩

theorem find? (like : r.Like id r') (other : SessionId) : r'.find? other = r.find? other := by
  rw [Roster.find?, Roster.find?, like.registered]

theorem isLive (like : r.Like id r') : r'.isLive = r.isLive :=
  funext fun other => isLive_congr like.registered other

theorem located (like : r.Like id r') (place : Nat) :
    (r.sessions[place]? = none ∧ r'.sessions[place]? = none) ∨
    ∃ session session', r.sessions[place]? = some session ∧
      r'.sessions[place]? = some session' ∧ session'.hide id = session.hide id := by
  have same := congrArg (·[place]?) like.sessions
  simp only [List.getElem?_map] at same
  cases here : r.sessions[place]? with
  | none =>
      rw [here] at same
      exact .inl ⟨rfl, Option.map_eq_none_iff.mp same⟩
  | some session =>
      rw [here, Option.map_some] at same
      obtain ⟨session', found, alike⟩ := Option.map_eq_some_iff.mp same
      exact .inr ⟨session, session', rfl, found, alike⟩

theorem latest? (like : r.Like id r') (other : SessionId) : r'.latest? other = r.latest? other := by
  have ids : r'.sessions.map (·.id) = r.sessions.map (·.id) := by
    have same := congrArg (List.map (·.id)) like.sessions
    simpa [Function.comp_def] using same
  have of_ids (roster : Roster) : roster.latest? other =
      (((roster.sessions.map (·.id)).zipIdx.filter fun entry => entry.1 = other).getLast?.map
        (·.2)) := by
    rw [List.zipIdx_map, List.filter_map, List.getLast?_map, Option.map_map]
    rfl
  rw [of_ids, of_ids, ids]

theorem setOutbox (like : r.Like id r') (place : Nat) {change change' : Outbox → Outbox}
    (same : ∀ session, r.sessions[place]? = some session → session.id ≠ id →
      change' session.outbox = change session.outbox) :
    (r.setOutbox place change).Like id (r'.setOutbox place change') := by
  refine ⟨like.registered, ?_⟩
  apply List.ext_getElem?
  intro i
  simp only [Roster.setOutbox, List.getElem?_map, List.getElem?_modify]
  rcases like.located i with ⟨absent, absent'⟩ | ⟨session, session', here, here', alike⟩
  · simp [absent, absent']
  · obtain ⟨number, format, equal⟩ := Session.of_hide_eq alike
    by_cases changed : place = i
    · subst changed
      by_cases stranger : session.id = id
      · simp [here, here', Session.hide, stranger, number, format]
      · rw [equal stranger] at here'
        simp [here, here', same session here stranger]
    · simp [here, here', changed, alike]

theorem offered (like : r.Like id r') (place : Nat) (frame : Frame) :
    strangers id (r'.offered place frame) = strangers id (r.offered place frame) := by
  unfold Roster.offered
  rcases like.located place with ⟨absent, absent'⟩ | ⟨session, session', here, here', alike⟩
  · simp [absent, absent']
  · obtain ⟨number, format, equal⟩ := Session.of_hide_eq alike
    by_cases stranger : session.id = id
    · simp [here, here', strangers, stranger, number]
    · rw [here, here', equal stranger]

theorem offerAt (like : r.Like id r') (place : Nat) (frame : Frame) :
    (r.offerAt place frame).Like id (r'.offerAt place frame) := by
  have queued : (r.setOutbox place (·.offer frame)).Like id (r'.setOutbox place (·.offer frame)) :=
    like.setOutbox place fun _ _ _ => rfl
  exact queued.congr (sessions_offerAt _ _ _) (sessions_offerAt _ _ _)
    (by rw [registered_offerAt, registered_offerAt, like.registered])

theorem sendAt (like : r.Like id r') (place : Nat) (payload : String) :
    (r.sendAt place payload).Like id (r'.sendAt place payload) ∧
      strangers id (r'.payloadOffered place payload) =
        strangers id (r.payloadOffered place payload) := by
  unfold Roster.sendAt payloadOffered
  rcases like.located place with ⟨absent, absent'⟩ | ⟨session, session', here, here', alike⟩
  · simp only [absent, absent']
    exact ⟨like, trivial⟩
  · simp only [here, here', (Session.of_hide_eq alike).2.1]
    exact ⟨like.offerAt _ _, like.offered _ _⟩

theorem deliver (like : r.Like id r') (other : SessionId) (payload : String) :
    (r.deliver other payload).Like id (r'.deliver other payload) ∧
      strangers id (r'.deliveryOffered other payload) =
        strangers id (r.deliveryOffered other payload) := by
  unfold Roster.deliver deliveryOffered
  rw [like.find?]
  cases r.find? other with
  | none => exact ⟨like, rfl⟩
  | some place => exact like.sendAt place payload

theorem sendAll (like : r.Like id r') (payload : String) (places : List Nat) :
    (r.sendAll payload places).1.Like id (r'.sendAll payload places).1 ∧
      strangers id (r'.offeredToAll payload places) =
        strangers id (r.offeredToAll payload places) := by
  induction places generalizing r r' with
  | nil => exact ⟨like, rfl⟩
  | cons place rest ih =>
      obtain ⟨sent, logged⟩ := like.sendAt place payload
      obtain ⟨after, later⟩ := ih sent
      refine ⟨after, ?_⟩
      rw [offeredToAll, offeredToAll, strangers_append, strangers_append, logged, later]

theorem takeLatest (like : r.Like id r') (other : SessionId) (limit : Option Nat) :
    (r.takeLatest other limit).1.Like id (r'.takeLatest other limit).1 := by
  rw [takeLatest_eq, takeLatest_eq, like.latest?]
  cases r.latest? other with
  | none => exact like
  | some place => exact like.setOutbox place fun _ _ _ => rfl

theorem dropLatest (like : r.Like id r') (other : SessionId) :
    (r.dropLatest other).1.Like id (r'.dropLatest other).1 := by
  unfold Roster.dropLatest
  rw [like.latest?]
  cases r.latest? other with
  | none => exact like
  | some place => exact like.setOutbox place fun _ _ _ => rfl

theorem unregister (like : r.Like id r') (other : SessionId) :
    (r.unregister other).Like id (r'.unregister other) :=
  like.congr rfl rfl (by simp [Roster.unregister, setRegistered, like.registered])

theorem enroll (like : r.Like id r') {session session' : Session}
    (alike : session'.hide id = session.hide id) :
    (r.enroll session).Like id (r'.enroll session') := by
  have count : r'.sessions.length = r.sessions.length := by
    simpa using congrArg List.length like.sessions
  constructor
  · simp only [Roster.enroll, register, create, setRegistered, like.registered, count,
      (Session.of_hide_eq alike).1]
  · simp only [Roster.enroll, register, create, setRegistered, List.map_append, like.sessions,
      List.map_cons, List.map_nil, alike]

end Like

def Step.receives (id : SessionId) : Step → Bool
  | .take other _ | .dropWriter other => other = id
  | _ => false

def Step.blind (id : SessionId) : Step → Step
  | .create session => .create (session.hide id)
  | .enroll session => .enroll (session.hide id)
  | step => step

theorem Step.blind_cases {id : SessionId} {step step' : Step} (same : step'.blind id = step.blind id) :
    step' = step ∨
    (∃ session session', step = .create session ∧ step' = .create session' ∧
      session'.hide id = session.hide id) ∨
    ∃ session session', step = .enroll session ∧ step' = .enroll session' ∧
      session'.hide id = session.hide id := by
  cases step <;> cases step' <;> simp_all [blind]

theorem like_of_receives {id : SessionId} (r : Roster) {step : Step}
    (receives : step.receives id = true) :
    r.Like id (r.step step).1 ∧ r.offers step = [] := by
  have own {place : Nat} (change : Outbox → Outbox) (latest : r.latest? id = some place) :
      r.Like id (r.setOutbox place change) := by
    obtain ⟨session, located, number⟩ := latest?_eq_some latest
    have changed : (r.setOutbox place fun o => o).Like id (r.setOutbox place change) := by
      refine (Like.refl id r).setOutbox place fun other here stranger => ?_
      rw [located] at here
      cases here
      exact absurd number stranger
    rwa [setOutbox_self] at changed
  cases step with
  | take other limit =>
      obtain rfl : id = other := (of_decide_eq_true receives).symm
      refine ⟨?_, rfl⟩
      change r.Like id (r.takeLatest id limit).1
      rw [takeLatest_eq]
      cases latest : r.latest? id with
      | none => exact .refl _ r
      | some place => exact own _ latest
  | dropWriter other =>
      obtain rfl : id = other := (of_decide_eq_true receives).symm
      refine ⟨?_, rfl⟩
      change r.Like id (r.dropLatest id).1
      unfold dropLatest
      cases latest : r.latest? id with
      | none => exact .refl _ r
      | some place => exact own _ latest
  | _ => cases receives

def Step.sendsTo? : Step → Option SessionId
  | .send other _ | .close other => some other
  | _ => none

theorem Like.told {id other : SessionId} {r r' : Roster} (like : r.Like id r') {step : Step}
    (sends : step.sendsTo? = some other) (differ : other ≠ id) :
    (r'.step step).2 = (r.step step).2 := by
  have accepts {place : Nat} (latest : r.latest? other = some place) :
      r'.acceptsAt place = r.acceptsAt place := by
    obtain ⟨session, located, number⟩ := latest?_eq_some latest
    rcases like.located place with ⟨absent, -⟩ | ⟨seated, seated', here, here', alike⟩
    · simp [located] at absent
    · rw [located] at here
      cases here
      have same := (Session.of_hide_eq alike).2.2 (number ▸ differ)
      rw [acceptsAt, acceptsAt, answerAt, answerAt, located, here', same]
  have offer (offered offered' : Nat → Roster) :
      (r'.offerLatest other offered').2 = (r.offerLatest other offered).2 := by
    unfold offerLatest
    rw [like.latest?]
    cases latest : r.latest? other with
    | none => rfl
    | some place => exact congrArg (fun taken => Response.accepted (some taken)) (accepts latest)
  cases step with
  | send | close =>
      cases sends
      exact offer _ _
  | _ => cases sends

theorem Like.step {id : SessionId} {r r' : Roster} (like : r.Like id r') {step step' : Step}
    (same : step'.blind id = step.blind id) :
    (r.step step).1.Like id (r'.step step').1 ∧
      strangers id (r'.offers step') = strangers id (r.offers step) := by
  rcases Step.blind_cases same with rfl | ⟨session, session', rfl, rfl, alike⟩ |
    ⟨session, session', rfl, rfl, alike⟩
  · cases step' with
    | create session => exact ⟨⟨like.registered, by simp [Roster.step, create, like.sessions]⟩, rfl⟩
    | enroll session => exact ⟨like.enroll rfl, rfl⟩
    | unregister other => exact ⟨like.unregister other, rfl⟩
    | find other | isLive other => exact ⟨like, rfl⟩
    | deliver other payload => exact like.deliver other payload
    | broadcast payload =>
        have sent := like.sendAll payload (r.registered.map (·.2))
        simpa only [Roster.step, broadcast, offers, like.registered] using sent
    | clear => exact ⟨like.congr rfl rfl rfl, rfl⟩
    | send other payload =>
        simp only [Roster.step, offerLatest, offers, like.latest?]
        cases r.latest? other with
        | none => exact ⟨like, rfl⟩
        | some place => exact like.sendAt place payload
    | close other =>
        simp only [Roster.step, offerLatest, offers, like.latest?]
        cases r.latest? other with
        | none => exact ⟨like, rfl⟩
        | some place => exact ⟨like.offerAt place _, like.offered place _⟩
    | take other limit => exact ⟨like.takeLatest other limit, rfl⟩
    | dropWriter other => exact ⟨like.dropLatest other, rfl⟩
  · exact ⟨⟨like.registered, by simp [Roster.step, create, like.sessions, alike]⟩, rfl⟩
  · exact ⟨like.enroll alike, rfl⟩

end Roster

end FeedBridge
