import FeedBridge.Proofs.Basic
import FeedBridge.Proofs.Client.Offers
import Mathlib.Data.List.Induction
import Mathlib.Tactic.SplitIfs

namespace FeedBridge

inductive Note
  | inserted (id : SessionId) (place : Nat)
  | removed (id : SessionId)
  | drained

namespace Note

def Touches (id : SessionId) : Note → Prop
  | inserted other _ | removed other => other = id
  | drained => True

/-- The session in a place was the last one that was inserted under a number, and it was neither
removed nor drained since. -/
def Current (notes : List Note) (id : SessionId) (place : Nat) : Prop :=
  ∃ before after, notes = before ++ inserted id place :: after ∧ ∀ note ∈ after, ¬note.Touches id

def apply (registered : List (SessionId × Nat)) : Note → List (SessionId × Nat)
  | inserted id place => registered.filter (fun entry => entry.1 != id) ++ [(id, place)]
  | removed id => registered.filter fun entry => entry.1 != id
  | drained => []

variable {notes : List Note} {note : Note} {id : SessionId} {place : Nat}
  {registered : List (SessionId × Nat)}

theorem current_concat : Current (notes ++ [note]) id place ↔
    note = inserted id place ∨ (¬note.Touches id ∧ Current notes id place) := by
  constructor
  · rintro ⟨before, after, split, untouched⟩
    rcases List.eq_nil_or_concat after with rfl | ⟨between, last, rfl⟩
    · obtain ⟨-, same⟩ := List.append_inj' split rfl
      exact .inl (List.singleton_inj.mp same)
    · rw [List.concat_eq_append, ← List.cons_append, ← List.append_assoc] at split
      obtain ⟨earlier, same⟩ := List.append_inj' split rfl
      obtain rfl := List.singleton_inj.mp same
      rw [List.concat_eq_append, List.forall_mem_append] at untouched
      exact .inr ⟨untouched.2 note (List.mem_singleton_self _), before, between, earlier, untouched.1⟩
  · rintro (rfl | ⟨stays, before, after, rfl, untouched⟩)
    · exact ⟨notes, [], rfl, nofun⟩
    · refine ⟨before, after ++ [note], by simp, ?_⟩
      exact List.forall_mem_append.mpr ⟨untouched, by simpa using stays⟩

theorem mem_apply : (id, place) ∈ apply registered note ↔
    note = inserted id place ∨ (¬note.Touches id ∧ (id, place) ∈ registered) := by
  cases note with
  | inserted other seat =>
      simp only [apply, Touches, List.mem_append, List.mem_filter, List.mem_singleton, bne_iff_ne,
        Prod.mk.injEq, inserted.injEq]
      tauto
  | removed other =>
      simp only [apply, Touches, List.mem_filter, bne_iff_ne, reduceCtorEq, false_or]
      tauto
  | drained => simp [apply, Touches]

theorem mem_foldl_apply : (id, place) ∈ notes.foldl apply [] ↔ Current notes id place := by
  induction notes using List.reverseRecOn with
  | nil => simp [Current]
  | append_singleton notes note ih =>
      rw [List.foldl_append, List.foldl_cons, List.foldl_nil, mem_apply, current_concat, ih]

theorem distinct_apply (distinct : (registered.map Prod.fst).Nodup) (note : Note) :
    ((apply registered note).map Prod.fst).Nodup := by
  have fewer (id : SessionId) :
      ((registered.filter fun entry => entry.1 != id).map Prod.fst).Nodup :=
    distinct.sublist (List.filter_sublist.map _)
  cases note with
  | inserted id place =>
      rw [apply, List.map_append, List.nodup_append]
      refine ⟨fewer id, List.nodup_singleton _, ?_⟩
      rintro key listed _ last rfl
      obtain ⟨entry, kept, rfl⟩ := List.mem_map.mp listed
      have other : entry.1 ≠ id := by simpa using (List.mem_filter.mp kept).2
      exact other (List.mem_singleton.mp last)
  | removed id => exact fewer id
  | drained => exact List.nodup_nil

theorem mem_foldl_apply_cases (listed : (id, place) ∈ notes.foldl apply registered) :
    (id, place) ∈ registered ∨ inserted id place ∈ notes := by
  induction notes using List.reverseRecOn with
  | nil => exact .inl listed
  | append_singleton notes note ih =>
      rw [List.foldl_append, List.foldl_cons, List.foldl_nil, mem_apply] at listed
      rcases listed with rfl | ⟨-, earlier⟩
      · exact .inr (List.mem_append_right _ (List.mem_singleton_self _))
      · exact (ih earlier).imp_right (List.mem_append_left _)

theorem distinct_foldl_apply (distinct : (registered.map Prod.fst).Nodup) (notes : List Note) :
    ((notes.foldl apply registered).map Prod.fst).Nodup := by
  induction notes generalizing registered with
  | nil => exact distinct
  | cons note rest ih => exact ih (distinct_apply distinct note)

end Note

namespace Roster

/-! ## Histories -/

inductive Move
  | step (step : Step)
  | insert (place : Nat)

def move (r : Roster) : Move → Roster
  | .step step => (r.step step).1
  | .insert place =>
    match r.sessions[place]? with
    | some session => r.register session.id place
    | none => r

def play (r : Roster) (moves : List Move) : Roster := moves.foldl move r

def notes (r : Roster) : Move → List Note
  | .step (.enroll session) => [.inserted session.id r.sessions.length]
  | .step (.unregister id) => [.removed id]
  | .step .clear => [.drained]
  | .insert place =>
    match r.sessions[place]? with
    | some session => [.inserted session.id place]
    | none => []
  | _ => []

def history (r : Roster) : List Move → List Note
  | [] => []
  | move :: rest => r.notes move ++ (r.move move).history rest

theorem registered_move (r : Roster) (move : Move) :
    (r.move move).registered = (r.notes move).foldl Note.apply r.registered := by
  cases move with
  | step step =>
      cases step with
      | enroll | unregister | clear => rfl
      | _ => exact r.registered_step rfl
  | insert place =>
      simp only [Roster.move, notes]
      cases r.sessions[place]? <;> rfl

theorem registered_play (r : Roster) (moves : List Move) :
    (r.play moves).registered = (r.history moves).foldl Note.apply r.registered := by
  induction moves generalizing r with
  | nil => rfl
  | cons move rest ih =>
      rw [history, List.foldl_append, ← registered_move]
      exact ih (r.move move)

structure Housed (r : Roster) : Prop where
  distinct : (r.registered.map Prod.fst).Nodup
  placed : ∀ entry ∈ r.registered, ∃ session, r.sessions[entry.2]? = some session ∧
    session.id = entry.1

theorem located_move {r : Roster} {place : Nat} {session : Session}
    (located : r.sessions[place]? = some session) (move : Move) :
    ∃ after, (r.move move).sessions[place]? = some after ∧ after.id = session.id := by
  cases move with
  | step step =>
      obtain ⟨outbox, there, -⟩ := r.step_accounts step located
      exact ⟨_, there, rfl⟩
  | insert other =>
      refine ⟨session, ?_, rfl⟩
      simp only [Roster.move]
      cases r.sessions[other]? <;> exact located

theorem located_of_inserted {r : Roster} {move : Move} {id : SessionId} {place : Nat}
    (inserted : .inserted id place ∈ r.notes move) :
    ∃ session, (r.move move).sessions[place]? = some session ∧ session.id = id := by
  cases move with
  | step step =>
      cases step with
      | enroll session =>
          cases List.mem_singleton.mp inserted
          exact ⟨session, List.getElem?_concat_length, rfl⟩
      | unregister | clear => cases List.mem_singleton.mp inserted
      | _ => cases inserted
  | insert other =>
      simp only [notes] at inserted
      cases located : r.sessions[other]? with
      | none =>
          rw [located] at inserted
          cases inserted
      | some session =>
          rw [located] at inserted
          cases List.mem_singleton.mp inserted
          exact ⟨session, by simp only [Roster.move, located]; exact located, rfl⟩

theorem Housed.move {r : Roster} (housed : r.Housed) (move : Move) : (r.move move).Housed := by
  have registered := r.registered_move move
  refine ⟨registered ▸ Note.distinct_foldl_apply housed.distinct _, fun entry listed => ?_⟩
  rw [registered] at listed
  rcases Note.mem_foldl_apply_cases listed with old | new
  · obtain ⟨session, located, same⟩ := housed.placed entry old
    obtain ⟨after, there, kept⟩ := located_move located move
    exact ⟨after, there, kept.trans same⟩
  · exact located_of_inserted new

theorem Housed.play {r : Roster} (housed : r.Housed) (moves : List Move) : (r.play moves).Housed := by
  induction moves generalizing r with
  | nil => exact housed
  | cons move rest ih => exact ih (housed.move move)

theorem housed_empty : ({} : Roster).Housed := ⟨List.nodup_nil, nofun⟩

theorem Housed.places {r : Roster} (housed : r.Housed) : (r.registered.map Prod.snd).Nodup := by
  refine List.Nodup.map_on ?_ (List.Nodup.of_map _ housed.distinct)
  rintro ⟨id, place⟩ listed ⟨other, _⟩ listed' rfl
  obtain ⟨session, located, rfl⟩ := housed.placed _ listed
  obtain ⟨session', located', rfl⟩ := housed.placed _ listed'
  rw [located] at located'
  cases located'
  rfl

end Roster

/-! ## Being reached -/

namespace Session

def takes (s : Session) : Bool := s.outbox.writerAlive && s.outbox.waiting.length < s.outbox.capacity

def overflows (s : Session) : Bool :=
  s.outbox.writerAlive && s.outbox.capacity ≤ s.outbox.waiting.length

def receiving (s : Session) (frame : Frame) : Session :=
  { s with
    outbox := { s.outbox with
      waiting := if s.takes then s.outbox.waiting ++ [frame] else s.outbox.waiting
      dropped := if s.overflows then s.outbox.dropped + 1 else s.outbox.dropped } }

variable (s : Session)

theorem answer_eq : s.outbox.answer =
    if s.takes then .accepted else if s.overflows then .full else .closed := by
  unfold Outbox.answer takes overflows
  cases s.outbox.writerAlive with
  | false => rfl
  | true => by_cases room : s.outbox.waiting.length < s.outbox.capacity <;> simp [room]

theorem accepted_iff : decide (s.outbox.answer = .accepted) = s.takes := by
  rw [answer_eq]
  cases s.takes <;> cases s.overflows <;> rfl

theorem full_iff : decide (s.outbox.answer = .full) = s.overflows := by
  have apart : s.takes = true → s.overflows = false := by
    unfold takes overflows
    simp only [Bool.and_eq_true, decide_eq_true_eq, Bool.and_eq_false_iff, decide_eq_false_iff_not,
      Nat.not_le]
    exact fun room => .inr room.2
  rw [answer_eq]
  cases takes : s.takes with
  | true => simp [apart takes]
  | false => cases s.overflows <;> rfl

theorem receiving_eq (frame : Frame) :
    { s with outbox := s.outbox.offer frame } = s.receiving frame := by
  have accepted := s.accepted_iff
  have full := s.full_iff
  unfold receiving Outbox.offer
  rw [← accepted, ← full]
  cases s.outbox.answer <;> rfl

end Session

namespace Roster

/-- A frame that holds a payload was offered once to each session in some places, in the format of
the session, and to no other one, and so many of them took it. -/
structure Sent (r : Roster) (payload : String) (places : List Nat) (after : Roster) (count : Nat) :
    Prop where
  reached : ∀ place ∈ places, ∀ session, r.sessions[place]? = some session →
    ∃ frame : Frame, frame.Holds session.format payload ∧
      after.sessions[place]? = some (session.receiving frame)
  others : ∀ place, place ∉ places ∨ r.sessions[place]? = none →
    after.sessions[place]? = r.sessions[place]?
  registered : after.registered = r.registered
  metrics : after.metrics = { r.metrics with
    messagesDropped := r.metrics.messagesDropped +
      places.countP fun place => (r.sessions[place]?).any Session.overflows }
  count : count = places.countP fun place => (r.sessions[place]?).any Session.takes

theorem acceptsAt_eq (r : Roster) (place : Nat) :
    r.acceptsAt place = (r.sessions[place]?).any Session.takes := by
  unfold acceptsAt answerAt
  cases r.sessions[place]? with
  | none => rfl
  | some session => exact session.accepted_iff

namespace Sent

variable {r after after' : Roster} {payload : String} {places places' : List Nat}
  {count count' place : Nat}

theorem nil : r.Sent payload [] r 0 := ⟨nofun, fun _ _ => rfl, rfl, rfl, rfl⟩

theorem sendAt (r : Roster) (payload : String) (place : Nat) :
    r.Sent payload [place] (r.sendAt place payload) (if r.acceptsAt place then 1 else 0) := by
  rw [acceptsAt_eq]
  unfold Roster.sendAt
  cases located : r.sessions[place]? with
  | none => exact ⟨by simp [located], fun _ _ => rfl, rfl, by simp [located], by simp [located]⟩
  | some session =>
      refine ⟨?_, ?_, registered_offerAt _ _ _, ?_, by simp [located, List.countP_singleton]⟩
      · intro other here session' located'
        obtain rfl := List.mem_singleton.mp here
        obtain rfl := Option.some_inj.mp (located.symm.trans located')
        refine ⟨_, Frame.holds_frame session.format payload, ?_⟩
        rw [sessions_offerAt, ← session.receiving_eq]
        simp [setOutbox, located]
      · intro other elsewhere
        have apart : place ≠ other := by
          rintro rfl
          rcases elsewhere with absent | nobody
          · exact absent (List.mem_singleton_self _)
          · rw [located] at nobody
            cases nobody
        rw [sessions_offerAt]
        simp [setOutbox, apart]
      · have full := session.full_iff
        unfold offerAt answerAt
        simp only [located, List.countP_singleton, Option.any_some, ← full]
        cases session.outbox.answer <;> rfl

theorem cons {between : Roster} {more : Nat} (first : r.Sent payload [place] between more)
    (fresh : place ∉ places) (rest : between.Sent payload places after count) :
    r.Sent payload (place :: places) after (count + more) := by
  have same {other : Nat} (listed : other ∈ places) :
      between.sessions[other]? = r.sessions[other]? :=
    first.others other (.inl fun here => fresh (List.mem_singleton.mp here ▸ listed))
  have counted (chosen : Session → Bool) :
      (place :: places).countP (fun other => (r.sessions[other]?).any chosen) =
        [place].countP (fun other => (r.sessions[other]?).any chosen) +
          places.countP fun other => (between.sessions[other]?).any chosen := by
    have later : places.countP (fun other => (between.sessions[other]?).any chosen) =
        places.countP fun other => (r.sessions[other]?).any chosen :=
      List.countP_congr fun other listed => by rw [same listed]
    rw [later, ← List.countP_append, List.singleton_append]
  refine ⟨?_, ?_, rest.registered.trans first.registered, ?_, ?_⟩
  · intro other listed session located
    rcases List.mem_cons.mp listed with rfl | later
    · rw [rest.others other (.inl fresh)]
      exact first.reached other (List.mem_singleton_self _) session located
    · exact rest.reached other later session ((same later).trans located)
  · intro other untouched
    have before : between.sessions[other]? = r.sessions[other]? :=
      first.others other (untouched.imp_left fun absent here =>
        absent (List.mem_singleton.mp here ▸ List.mem_cons_self))
    rw [← before]
    exact rest.others other (untouched.imp (mt (List.mem_cons_of_mem _)) before.trans)
  · rw [rest.metrics, first.metrics, counted, Nat.add_assoc]
  · rw [rest.count, first.count, counted, Nat.add_comm]

theorem sendAll (distinct : places.Nodup) :
    r.Sent payload places (r.sendAll payload places).1 (r.sendAll payload places).2 := by
  induction places generalizing r with
  | nil => exact nil
  | cons place rest ih =>
      obtain ⟨fresh, others⟩ := List.nodup_cons.mp distinct
      exact (sendAt r payload place).cons fresh (ih others)

theorem perm (sent : r.Sent payload places after count) (reordered : places.Perm places') :
    r.Sent payload places' after count := by
  refine ⟨fun place listed => sent.reached place (reordered.mem_iff.mpr listed),
    fun place untouched => sent.others place (untouched.imp_left (mt reordered.mem_iff.mp)),
    sent.registered, ?_, ?_⟩
  · rw [sent.metrics, reordered.countP_eq]
  · rw [sent.count, reordered.countP_eq]

theorem unique (sent : r.Sent payload places after count)
    (sent' : r.Sent payload places after' count') : after = after' ∧ count = count' := by
  have sessions : after.sessions = after'.sessions := by
    apply List.ext_getElem?
    intro place
    by_cases listed : place ∈ places
    · cases located : r.sessions[place]? with
      | none => rw [sent.others place (.inr located), sent'.others place (.inr located)]
      | some session =>
          obtain ⟨frame, holds, reached⟩ := sent.reached place listed session located
          obtain ⟨frame', holds', reached'⟩ := sent'.reached place listed session located
          rw [reached, reached', Frame.holds_iff.mp holds, Frame.holds_iff.mp holds']
    · rw [sent.others place (.inl listed), sent'.others place (.inl listed)]
  have registered := sent.registered.trans sent'.registered.symm
  have metrics := sent.metrics.trans sent'.metrics.symm
  obtain ⟨_, _, _⟩ := after
  obtain ⟨_, _, _⟩ := after'
  cases sessions
  cases registered
  cases metrics
  exact ⟨rfl, sent.count.trans sent'.count.symm⟩

end Sent

/-- After whatever happened to sessions: registered are those that were inserted last under their
numbers and neither removed nor drained since. A broadcast offers its payload once to each of them
and to no other session, counts those that take it, and comes to the same in whatever order they are
gone through. A delivery offers its payload to the registered session of its number, if there is
one, and is nothing at all otherwise. -/
theorem reaches_registered (moves : List Move) :
    let r := play {} moves
    let current := Note.Current (history {} moves)
    let places := r.registered.map Prod.snd
    (∀ id place, (id, place) ∈ r.registered ↔ current id place) ∧
      (r.registered.map Prod.fst).Nodup ∧ places.Nodup ∧
      (∀ id place, current id place → ∃ session, r.sessions[place]? = some session ∧
        session.id = id) ∧
      ∀ payload,
        (∃ after count, r.step (.broadcast payload) = (after, .count count) ∧
          r.Sent payload places after count ∧
          ∀ order : List Nat, order.Perm places → r.sendAll payload order = (after, count)) ∧
        ∀ id, ∃ after taken, r.step (.deliver id payload) = (after, .accepted (some taken)) ∧
          (∀ place, current id place → r.Sent payload [place] after (if taken then 1 else 0)) ∧
          ((∀ place, ¬current id place) → after = r ∧ taken = false) := by
  intro r current places
  have housed : r.Housed := housed_empty.play moves
  have registered (id : SessionId) (place : Nat) :
      (id, place) ∈ r.registered ↔ current id place := by
    rw [registered_play]
    exact Note.mem_foldl_apply
  refine ⟨registered, housed.distinct, housed.places, fun id place here => ?_, fun payload => ⟨?_, ?_⟩⟩
  · exact housed.placed (id, place) ((registered id place).mpr here)
  · have sent : r.Sent payload places _ _ := Sent.sendAll housed.places
    refine ⟨_, _, rfl, sent, fun order reordered => ?_⟩
    have other : r.Sent payload order _ _ := Sent.sendAll (reordered.nodup_iff.mpr housed.places)
    exact Prod.ext_iff.mpr ((other.perm reordered).unique sent)
  · intro id
    have found (place : Nat) : r.find? id = some place ↔ current id place :=
      (lookup_iff_mem housed.distinct id place).trans (registered id place)
    refine ⟨_, _, rfl, fun place here => ?_, fun nowhere => ?_⟩
    · have there := (found place).mpr here
      simp only [deliver, accepts, there]
      exact Sent.sendAt r payload place
    · have absent : r.find? id = none :=
        Option.eq_none_iff_forall_ne_some.mpr fun place => mt (found place).mp (nowhere place)
      simp only [deliver, accepts, absent, and_self]

theorem reaches_registered_of_six :
    let enroll (id : UInt64) (format : WireFormat) (capacity : Nat) : Move :=
      .step (.enroll (.fresh ⟨id⟩ format capacity))
    let moves : List Move := [enroll 1 .text 4, enroll 2 .binary 4, enroll 3 .text 4,
      enroll 4 .text 1, enroll 5 .text 4, enroll 1 .text 4, .step (.unregister ⟨3⟩),
      .step (.deliver ⟨4⟩ "old"), .step (.dropWriter ⟨5⟩)]
    let r := play {} moves
    let queues (r : Roster) : List (List Frame) := r.sessions.map (·.outbox.waiting)
    r.registered = [(⟨2⟩, 1), (⟨4⟩, 3), (⟨5⟩, 4), (⟨1⟩, 5)] ∧
      (∃ after, r.step (.broadcast "hi") = (after, .count 2) ∧
        queues after = [[], [.binary "hi".toUTF8], [], [.text "old"], [], [.text "hi"]] ∧
        ∀ order : List Nat, order.Perm [1, 3, 4, 5] → r.sendAll "hi" order = (after, 2)) ∧
      queues (r.step (.deliver ⟨1⟩ "hi")).1 = [[], [], [], [.text "old"], [], [.text "hi"]] ∧
      r.step (.deliver ⟨3⟩ "hi") = (r, .accepted (some false)) := by
  intro enroll moves r queues
  have listed : r.registered = [(⟨2⟩, 1), (⟨4⟩, 3), (⟨5⟩, 4), (⟨1⟩, 5)] := by decide +kernel
  obtain ⟨registered, -, -, -, reached⟩ := reaches_registered moves
  change ∀ id place, (id, place) ∈ r.registered ↔ _ at registered
  obtain ⟨⟨after, count, sends, -, orders⟩, delivered⟩ := reached "hi"
  obtain ⟨same, taken, sent, -, nobody⟩ := delivered ⟨3⟩
  change ∀ order : List Nat, order.Perm (r.registered.map Prod.snd) →
    r.sendAll "hi" order = (after, count) at orders
  rw [listed] at registered orders
  have sentAll : r.sendAll "hi" [1, 3, 4, 5] = (after, count) := orders _ (.refl _)
  have two : (r.sendAll "hi" [1, 3, 4, 5]).2 = 2 := by decide +kernel
  obtain rfl : count = 2 := by rwa [sentAll] at two
  have waiting : queues (r.sendAll "hi" [1, 3, 4, 5]).1 =
      [[], [.binary "hi".toUTF8], [], [.text "old"], [], [.text "hi"]] := by decide +kernel
  rw [sentAll] at waiting
  refine ⟨listed, ⟨after, sends, waiting, orders⟩, by decide +kernel, ?_⟩
  obtain ⟨rfl, rfl⟩ := nobody fun place => by
    rw [← registered]
    simp
  exact sent

end Roster

end FeedBridge
