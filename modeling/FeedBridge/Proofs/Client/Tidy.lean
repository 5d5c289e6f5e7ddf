import FeedBridge.Client.RosterStep
import Mathlib.Data.List.Nodup

namespace FeedBridge.Roster

def session? (r : Roster) (id : SessionId) : Option Session := (r.latest? id).bind (r.sessions[·]?)

structure Tidy (r : Roster) : Prop where
  distinct : (r.sessions.map (·.id)).Nodup
  placed : ∀ entry ∈ r.registered, ∃ session, r.sessions[entry.2]? = some session ∧
    session.id = entry.1

theorem Tidy.place_unique {r : Roster} (tidy : r.Tidy) {i j : Nat} {s t : Session}
    (hi : r.sessions[i]? = some s) (hj : r.sessions[j]? = some t) (same : s.id = t.id) : i = j := by
  obtain ⟨boundI, rfl⟩ := List.getElem?_eq_some_iff.mp hi
  obtain ⟨boundJ, rfl⟩ := List.getElem?_eq_some_iff.mp hj
  have boundI' : i < (r.sessions.map (·.id)).length := by simpa using boundI
  have boundJ' : j < (r.sessions.map (·.id)).length := by simpa using boundJ
  have ids : (r.sessions.map (·.id))[i] = (r.sessions.map (·.id))[j] := by simpa using same
  exact tidy.distinct.getElem_inj_iff.mp ids

theorem latest?_eq_some {r : Roster} {id : SessionId} {place : Nat} (h : r.latest? id = some place) :
    ∃ session, r.sessions[place]? = some session ∧ session.id = id := by
  unfold latest? at h
  obtain ⟨entry, last, rfl⟩ := Option.map_eq_some_iff.mp h
  have member := List.mem_filter.mp (List.mem_of_getLast? last)
  have located := List.mem_zipIdx' member.1
  exact ⟨entry.1, by rw [located.2]; exact List.getElem?_eq_getElem located.1,
    by simpa using member.2⟩

theorem Tidy.latest?_eq {r : Roster} (tidy : r.Tidy) {place : Nat} {session : Session}
    (located : r.sessions[place]? = some session) : r.latest? session.id = some place := by
  cases found : r.latest? session.id with
  | none =>
      exfalso
      unfold latest? at found
      rw [Option.map_eq_none_iff, List.getLast?_eq_none_iff, List.filter_eq_nil_iff] at found
      exact found (session, place) (List.mem_zipIdx_iff_getElem?.mpr located) (by simp)
  | some other =>
      obtain ⟨same, hSame, hId⟩ := latest?_eq_some found
      rw [tidy.place_unique hSame located hId]

theorem session?_id {r : Roster} {id : SessionId} {session : Session}
    (h : r.session? id = some session) : session.id = id := by
  obtain ⟨place, latest, located⟩ := Option.bind_eq_some_iff.mp h
  obtain ⟨same, hSame, hId⟩ := latest?_eq_some latest
  rw [located] at hSame
  cases hSame
  exact hId

theorem Tidy.session?_eq_some {r : Roster} (tidy : r.Tidy) {id : SessionId} {session : Session} :
    r.session? id = some session ↔ session ∈ r.sessions ∧ session.id = id := by
  constructor
  · intro h
    obtain ⟨place, -, located⟩ := Option.bind_eq_some_iff.mp h
    exact ⟨List.mem_of_getElem? located, session?_id h⟩
  · rintro ⟨member, rfl⟩
    obtain ⟨place, located⟩ := List.mem_iff_getElem?.mp member
    simp [session?, tidy.latest?_eq located, located]

theorem Tidy.session?_eq_none {r : Roster} (tidy : r.Tidy) {id : SessionId} :
    r.session? id = none ↔ ∀ session ∈ r.sessions, session.id ≠ id := by
  rw [← Option.not_isSome_iff_eq_none, Option.isSome_iff_exists]
  simp only [tidy.session?_eq_some, not_exists, not_and]

theorem Tidy.find?_eq {r : Roster} (tidy : r.Tidy) {id : SessionId} {place : Nat}
    (h : r.find? id = some place) : ∃ session, r.sessions[place]? = some session ∧
      session.id = id ∧ r.latest? id = some place := by
  obtain ⟨before, after, split, -⟩ := List.lookup_eq_some_iff.mp h
  obtain ⟨session, located, hId⟩ := tidy.placed (id, place) (by simp [split])
  have latest := tidy.latest?_eq located
  rw [hId] at latest
  exact ⟨session, located, hId, latest⟩

@[simp]
theorem registered_setOutbox (r : Roster) (place : Nat) (change : Outbox → Outbox) :
    (r.setOutbox place change).registered = r.registered := rfl

theorem ids_setOutbox (r : Roster) (place : Nat) (change : Outbox → Outbox) :
    (r.setOutbox place change).sessions.map (·.id) = r.sessions.map (·.id) := by
  apply List.ext_getElem?
  intro i
  simp only [setOutbox, List.getElem?_map, List.getElem?_modify]
  cases r.sessions[i]? with
  | none => rfl
  | some session => by_cases same : place = i <;> simp [same]

theorem Tidy.setOutbox {r : Roster} (tidy : r.Tidy) (place : Nat) (change : Outbox → Outbox) :
    (r.setOutbox place change).Tidy := by
  constructor
  · rw [ids_setOutbox]
    exact tidy.distinct
  · intro entry member
    obtain ⟨session, located, hId⟩ := tidy.placed entry member
    have ids := congrArg (·[entry.2]?) (ids_setOutbox r place change)
    simp only [List.getElem?_map, located, Option.map_some] at ids
    obtain ⟨after, found, same⟩ := Option.map_eq_some_iff.mp ids
    exact ⟨after, found, same.trans hId⟩

theorem Tidy.session?_setOutbox {r : Roster} (tidy : r.Tidy) {place : Nat} {seated : Session}
    (located : r.sessions[place]? = some seated) (change : Outbox → Outbox) (id : SessionId) :
    (r.setOutbox place change).session? id =
      if id = seated.id then some { seated with outbox := change seated.outbox }
      else r.session? id := by
  have after := tidy.setOutbox place change
  have changed : (r.setOutbox place change).sessions[place]? =
      some { seated with outbox := change seated.outbox } := by
    simp [Roster.setOutbox, located]
  split_ifs with same
  · rw [after.session?_eq_some]
    exact ⟨List.mem_of_getElem? changed, same.symm⟩
  · apply Option.ext
    intro session
    rw [after.session?_eq_some, tidy.session?_eq_some]
    apply and_congr_left
    intro hId
    have elsewhere (i : Nat) (h : place = i) : r.sessions[i]? ≠ some session ∧
        (r.setOutbox place change).sessions[i]? ≠ some session := by
      subst h
      rw [located, changed]
      constructor <;> rintro h <;> cases h <;> exact same hId.symm
    simp only [List.mem_iff_getElem?]
    apply exists_congr
    intro i
    by_cases h : place = i
    · simp only [(elsewhere i h).1, (elsewhere i h).2]
    · simp [Roster.setOutbox, h]

theorem session?_congr {r r' : Roster} (sessions : r'.sessions = r.sessions) (id : SessionId) :
    r'.session? id = r.session? id := by
  unfold session? latest?
  rw [sessions]

theorem isLive_congr {r r' : Roster} (registered : r'.registered = r.registered) (id : SessionId) :
    r'.isLive id = r.isLive id := by
  unfold isLive find?
  rw [registered]

theorem Tidy.congr {r r' : Roster} (tidy : r.Tidy) (sessions : r'.sessions = r.sessions)
    (registered : ∀ entry ∈ r'.registered, entry ∈ r.registered) : r'.Tidy := by
  constructor
  · rw [sessions]
    exact tidy.distinct
  · intro entry member
    rw [sessions]
    exact tidy.placed entry (registered entry member)

theorem sessions_offerAt (r : Roster) (place : Nat) (frame : Frame) :
    (r.offerAt place frame).sessions = (r.setOutbox place (·.offer frame)).sessions := by
  unfold offerAt
  split <;> rfl

theorem registered_offerAt (r : Roster) (place : Nat) (frame : Frame) :
    (r.offerAt place frame).registered = r.registered := by
  unfold offerAt
  split <;> rfl

theorem registered_deliver (r : Roster) (id : SessionId) (payload : String) :
    (r.deliver id payload).registered = r.registered := by
  unfold deliver sendAt
  split
  · split
    · exact registered_offerAt _ _ _
    · rfl
  · rfl

theorem Tidy.deliver_cases {r : Roster} (tidy : r.Tidy) (id : SessionId) (payload : String) :
    (r.isLive id = false ∧ r.deliver id payload = r) ∨
    ∃ place session, r.isLive id = true ∧ r.sessions[place]? = some session ∧ session.id = id ∧
      r.deliver id payload = r.offerAt place (session.format.frame payload) := by
  cases found : r.find? id with
  | none => exact .inl ⟨by simp [isLive, found], by simp [Roster.deliver, found]⟩
  | some place =>
      obtain ⟨session, located, hId, -⟩ := tidy.find?_eq found
      exact .inr ⟨place, session, by simp [isLive, found], located, hId,
        by simp [Roster.deliver, found, sendAt, located]⟩

theorem Tidy.deliver {r : Roster} (tidy : r.Tidy) (id : SessionId) (payload : String) :
    (r.deliver id payload).Tidy := by
  rcases tidy.deliver_cases id payload with ⟨-, same⟩ | ⟨place, session, -, -, -, same⟩
  · rwa [same]
  · rw [same]
    apply (tidy.setOutbox place (·.offer (session.format.frame payload))).congr
    · exact sessions_offerAt _ _ _
    · simp [registered_offerAt]

theorem Tidy.session?_deliver {r : Roster} (tidy : r.Tidy) (id other : SessionId)
    (payload : String) :
    (r.deliver id payload).session? other =
      if other = id ∧ r.isLive id then
        (r.session? id).map fun s => { s with outbox := s.outbox.offer (s.format.frame payload) }
      else r.session? other := by
  rcases tidy.deliver_cases id payload with ⟨gone, same⟩ | ⟨place, session, live, located, hId, same⟩
  · simp [gone, same]
  · have seated : r.session? id = some session :=
      tidy.session?_eq_some.mpr ⟨List.mem_of_getElem? located, hId⟩
    rw [same, session?_congr (sessions_offerAt r place _), tidy.session?_setOutbox located, seated]
    simp [live, hId]

theorem isLive_unregister (r : Roster) (id other : SessionId) :
    (r.unregister id).isLive other = (r.isLive other && other != id) := by
  change ((r.registered.filter fun entry => entry.1 != id).lookup other).isSome =
    ((r.registered.lookup other).isSome && other != id)
  induction r.registered with
  | nil => rfl
  | cons entry rest ih =>
      obtain ⟨key, place⟩ := entry
      by_cases gone : key = id
      · rw [List.filter_cons_of_neg (by simp [gone]), ih, List.lookup_cons]
        by_cases same : other = id
        · simp [same]
        · have differ : (other == key) = false := by simpa [gone] using same
          simp only [differ]
      · rw [List.filter_cons_of_pos (by simp [gone]), List.lookup_cons, List.lookup_cons]
        by_cases same : other = key
        · simp [same, gone]
        · have differ : (other == key) = false := by simpa using same
          simp only [differ]
          exact ih

theorem Tidy.unregister {r : Roster} (tidy : r.Tidy) (id : SessionId) : (r.unregister id).Tidy := by
  have kept (entry : SessionId × Nat) (member : entry ∈ (r.unregister id).registered) :
      entry ∈ r.registered := (List.mem_filter.mp member).1
  exact tidy.congr rfl kept

theorem Tidy.enroll {r : Roster} (tidy : r.Tidy) {session : Session}
    (fresh : r.session? session.id = none) : (r.enroll session).Tidy := by
  rw [tidy.session?_eq_none] at fresh
  constructor
  · simp only [Roster.enroll, Roster.register, create, setRegistered, List.map_append, List.map_cons,
      List.map_nil]
    apply List.nodup_append.mpr
    refine ⟨tidy.distinct, List.nodup_singleton _, ?_⟩
    intro a member b single same
    obtain ⟨earlier, hEarlier, rfl⟩ := List.mem_map.mp member
    exact fresh earlier hEarlier (same.trans (List.mem_singleton.mp single))
  · intro entry member
    simp only [Roster.enroll, Roster.register, create, setRegistered, List.mem_append,
      List.mem_filter, List.mem_singleton] at member ⊢
    rcases member with ⟨old, -⟩ | rfl
    · obtain ⟨seated, located, hId⟩ := tidy.placed entry old
      refine ⟨seated, ?_, hId⟩
      rw [List.getElem?_append_left (List.getElem?_eq_some_iff.mp located).1]
      exact located
    · exact ⟨session, by simp, rfl⟩

theorem Tidy.session?_enroll {r : Roster} (tidy : r.Tidy) {session : Session}
    (fresh : r.session? session.id = none) (id : SessionId) :
    (r.enroll session).session? id = if id = session.id then some session else r.session? id := by
  have after := tidy.enroll fresh
  have sessions : (r.enroll session).sessions = r.sessions ++ [session] := rfl
  split_ifs with same
  · rw [after.session?_eq_some, sessions]
    exact ⟨by simp, same.symm⟩
  · apply Option.ext
    intro found
    rw [after.session?_eq_some, tidy.session?_eq_some, sessions, List.mem_append,
      List.mem_singleton]
    constructor
    · rintro ⟨old | rfl, hId⟩
      · exact ⟨old, hId⟩
      · exact absurd hId.symm same
    · rintro ⟨old, hId⟩
      exact ⟨.inl old, hId⟩

theorem isLive_enroll (r : Roster) (session : Session) (id : SessionId) :
    (r.enroll session).isLive id = (r.isLive id || id == session.id) := by
  have removed := isLive_unregister r session.id id
  change ((r.registered.filter fun entry => entry.1 != session.id).lookup id).isSome =
    (r.isLive id && id != session.id) at removed
  change ((r.registered.filter fun entry => entry.1 != session.id) ++
    [(session.id, r.sessions.length)] |>.lookup id).isSome = (r.isLive id || id == session.id)
  rw [List.lookup_append, Option.isSome_or, removed]
  by_cases same : id = session.id
  · simp [same]
  · have differ : (id == session.id) = false := by simpa using same
    simp [List.lookup_cons, differ, bne]

theorem takeLatest_cases (r : Roster) (id : SessionId) (limit : Option Nat) :
    (r.takeLatest id limit = (r, .noWriter) ∧
      ∀ session, r.session? id = some session → session.outbox.writerAlive = false) ∨
    ∃ place session, r.session? id = some session ∧ r.sessions[place]? = some session ∧
      session.outbox.writerAlive = true ∧
      (r.takeLatest id limit).1 = r.setOutbox place
        (fun _ => (session.outbox.take (limit.getD session.outbox.waiting.length)).2) ∧
      (r.takeLatest id limit).2 =
        .frames (session.outbox.take (limit.getD session.outbox.waiting.length)).1 := by
  unfold session? takeLatest
  cases latest : r.latest? id with
  | none => exact .inl ⟨rfl, by simp⟩
  | some place =>
      obtain ⟨session, located, -⟩ := latest?_eq_some latest
      cases writer : session.outbox.writerAlive with
      | false => exact .inl ⟨by simp [hasWriter, located, writer], by simp [located, writer]⟩
      | true =>
          refine .inr ⟨place, session, by simp [located], located, writer, ?_, ?_⟩ <;>
            simp [hasWriter, located, writer, takeUpTo, takeAt]

theorem Tidy.takeLatest {r : Roster} (tidy : r.Tidy) (id : SessionId) (limit : Option Nat) :
    (r.takeLatest id limit).1.Tidy := by
  rcases takeLatest_cases r id limit with ⟨same, -⟩ | ⟨place, session, -, -, -, same, -⟩
  · rwa [same]
  · rw [same]
    exact tidy.setOutbox _ _

theorem registered_takeLatest (r : Roster) (id : SessionId) (limit : Option Nat) :
    (r.takeLatest id limit).1.registered = r.registered := by
  rcases takeLatest_cases r id limit with ⟨same, -⟩ | ⟨place, session, -, -, -, same, -⟩ <;> rw [same]
  exact registered_setOutbox _ _ _

theorem Tidy.session?_takeLatest {r : Roster} (tidy : r.Tidy) (id other : SessionId)
    (limit : Option Nat) (elsewhere : other ≠ id) :
    (r.takeLatest id limit).1.session? other = r.session? other := by
  rcases takeLatest_cases r id limit with ⟨same, -⟩ | ⟨place, session, seated, located, -, same, -⟩
  · rw [same]
  · rw [same, tidy.session?_setOutbox located, session?_id seated, if_neg elsewhere]

theorem dropLatest_cases (r : Roster) (id : SessionId) :
    (r.session? id = none ∧ (r.dropLatest id).1 = r) ∨
    ∃ place session, r.session? id = some session ∧ r.sessions[place]? = some session ∧
      (r.dropLatest id).1 = r.setOutbox place (·.dropWriter) := by
  unfold session? dropLatest
  cases latest : r.latest? id with
  | none => exact .inl ⟨rfl, rfl⟩
  | some place =>
      obtain ⟨session, located, -⟩ := latest?_eq_some latest
      exact .inr ⟨place, session, by simp [located], located, rfl⟩

theorem Tidy.dropLatest {r : Roster} (tidy : r.Tidy) (id : SessionId) :
    (r.dropLatest id).1.Tidy := by
  rcases dropLatest_cases r id with ⟨-, same⟩ | ⟨place, session, -, -, same⟩
  · rwa [same]
  · rw [same]
    exact tidy.setOutbox _ _

theorem registered_dropLatest (r : Roster) (id : SessionId) :
    (r.dropLatest id).1.registered = r.registered := by
  rcases dropLatest_cases r id with ⟨-, same⟩ | ⟨place, session, -, -, same⟩ <;> rw [same]
  exact registered_setOutbox _ _ _

theorem Tidy.session?_dropLatest {r : Roster} (tidy : r.Tidy) (id other : SessionId) :
    (r.dropLatest id).1.session? other =
      if other = id then (r.session? id).map fun s => { s with outbox := s.outbox.dropWriter }
      else r.session? other := by
  rcases dropLatest_cases r id with ⟨absent, same⟩ | ⟨place, session, seated, located, same⟩
  · rw [same, absent]
    split_ifs with h
    · rw [h, absent]
      rfl
    · rfl
  · rw [same, tidy.session?_setOutbox located, seated]
    simp [session?_id seated]

def Step.registers : Step → Bool
  | .enroll _ | .unregister _ | .clear => true
  | _ => false

theorem registered_sendAt (r : Roster) (place : Nat) (payload : String) :
    (r.sendAt place payload).registered = r.registered := by
  unfold sendAt
  cases r.sessions[place]? with
  | none => rfl
  | some session => exact registered_offerAt _ _ _

theorem registered_sendAll (r : Roster) (payload : String) (places : List Nat) :
    (r.sendAll payload places).1.registered = r.registered := by
  induction places generalizing r with
  | nil => rfl
  | cons place rest ih => exact (ih _).trans (r.registered_sendAt place payload)

theorem registered_offerLatest {r : Roster} {offer : Nat → Roster}
    (same : ∀ place, (offer place).registered = r.registered) (id : SessionId) :
    (r.offerLatest id offer).1.registered = r.registered := by
  unfold offerLatest
  cases r.latest? id with
  | none => rfl
  | some place => exact same place

theorem registered_step (r : Roster) {step : Step} (spares : step.registers = false) :
    (r.step step).1.registered = r.registered := by
  cases step with
  | enroll | unregister | clear => cases spares
  | create | find | isLive => rfl
  | deliver id payload => exact r.registered_deliver id payload
  | broadcast payload => exact r.registered_sendAll payload _
  | send id payload => exact registered_offerLatest (r.registered_sendAt · payload) id
  | close id => exact registered_offerLatest (r.registered_offerAt · .normalClose) id
  | take id limit => exact r.registered_takeLatest id limit
  | dropWriter id => exact r.registered_dropLatest id

end FeedBridge.Roster
