import FeedBridge.Proofs.Bridge.Turns

namespace FeedBridge

def Incoming.messageOf? (id : SessionId) : Incoming → Option SessionCall
  | message frame => frame.message?.map (.message id)
  | _ => none

def SessionCall.complaint (id : SessionId) (reads : List Incoming) : List SessionCall :=
  match reads.getLast? with
  | some (.failed reason) => if reason.isNoise then [] else [.error id]
  | _ => []

def SessionCall.conversation (id : SessionId) (reads : List Incoming) : List SessionCall :=
  .connected id :: reads.filterMap (Incoming.messageOf? id)

open SessionCall (complaint conversation)

/-- What the handler should have been told at a point. -/
def TaskPoint.due (reads : List Incoming) : TaskPoint → List SessionCall
  | handshake | refused | numbered _ | registered _ => []
  | reading id | writing id _ _ => conversation id reads
  | leaving id | unregistered id => conversation id reads ++ complaint id reads
  | gone id => conversation id reads ++ complaint id reads ++ [.disconnected id]

def TaskPoint.Unbroken (reads : List Incoming) : TaskPoint → Prop
  | handshake | refused | numbered _ | registered _ => reads = []
  | reading _ | writing _ _ _ => ∀ incoming ∈ reads, incoming.endsConnection = false
  | leaving _ | unregistered _ | gone _ =>
    ∀ incoming ∈ reads.dropLast, incoming.endsConnection = false

namespace TaskStand

def due (reads : List Incoming) : TaskStand → List SessionCall
  | standing point => point.due reads
  | answered id _ _ _ => conversation id reads

def Unbroken (reads : List Incoming) : TaskStand → Prop
  | standing point => point.Unbroken reads
  | answered _ _ _ _ => ∀ incoming ∈ reads, incoming.endsConnection = false

variable {id : SessionId} {stand : TaskStand} {reads : List Incoming}

theorem due_of_hears? (hears : stand.hears? = some id) :
    stand.due reads = conversation id reads := by
  cases stand with
  | answered => cases hears; rfl
  | standing point => cases point <;> cases hears <;> rfl

theorem unbroken_of_hears? (hears : stand.hears? = some id)
    (goesOn : ∀ incoming ∈ reads, incoming.endsConnection = false) : stand.Unbroken reads := by
  cases stand with
  | answered => exact goesOn
  | standing point =>
      cases point with
      | reading | writing => exact goesOn
      | _ => cases hears

end TaskStand

theorem complaint_of_goesOn {id : SessionId} {reads : List Incoming}
    (goesOn : ∀ incoming ∈ reads, incoming.endsConnection = false) : complaint id reads = [] := by
  unfold complaint
  cases last : reads.getLast? with
  | none => rfl
  | some incoming =>
      have quiet := goesOn incoming (List.mem_of_getLast? last)
      cases incoming with
      | failed error => cases quiet
      | message frame | control | ended => rfl

theorem conversation_concat (id : SessionId) (reads : List Incoming) (incoming : Incoming) :
    conversation id (reads ++ [incoming]) ++ complaint id (reads ++ [incoming]) =
      conversation id reads ++ Service.told id incoming := by
  cases incoming with
  | message frame =>
      cases text : frame.message? <;>
        simp [conversation, complaint, Service.told, Incoming.messageOf?, text]
  | control | ended => simp [conversation, complaint, Service.told, Incoming.messageOf?]
  | failed error =>
      cases noise : error.isNoise <;>
        simp [conversation, complaint, Service.told, Incoming.messageOf?, noise]

namespace Service

variable {s : Service}

theorem Turn.due {b after : Bridge} {task : Nat} {step : Step} {stand next : TaskStand}
    {calls : List SessionCall} {reads : List Incoming}
    (turn : Turn b task step stand after next calls reads) {past : List Incoming}
    (unbroken : stand.Unbroken past) :
    next.due (past ++ reads) = stand.due past ++ calls ∧ next.Unbroken (past ++ reads) := by
  cases turn with
  | number | refuse | register =>
      cases unbroken
      exact ⟨rfl, rfl⟩
  | greet id =>
      cases unbroken
      exact ⟨rfl, by simp [TaskStand.Unbroken, TaskPoint.Unbroken]⟩
  | @hear id incoming goesOn after aloof next hears =>
      have quiet : ∀ other ∈ past ++ [incoming], other.endsConnection = false := by
        intro other member
        rcases List.mem_append.mp member with old | new
        · exact unbroken other old
        · exact List.mem_singleton.mp new ▸ goesOn
      have told := conversation_concat id past incoming
      rw [complaint_of_goesOn quiet, List.append_nil] at told
      exact ⟨(TaskStand.due_of_hears? hears).trans told, TaskStand.unbroken_of_hears? hears quiet⟩
  | @hangUp id incoming ends =>
      refine ⟨conversation_concat id past incoming, ?_⟩
      simpa [TaskStand.Unbroken, TaskPoint.Unbroken] using unbroken
  | cancel id =>
      rw [List.append_nil, List.append_nil]
      refine ⟨?_, fun incoming member => unbroken incoming (List.dropLast_subset _ member)⟩
      change conversation id past ++ complaint id past = conversation id past
      rw [complaint_of_goesOn unbroken, List.append_nil]
  | forget id =>
      rw [List.append_nil]
      exact ⟨rfl, unbroken⟩
  | write | finish | unregister | idle =>
      rw [List.append_nil, List.append_nil]
      exact ⟨rfl, unbroken⟩

structure Attended (s : Service) (calls : Nat → List SessionCall) (reads : Nat → List Incoming) :
    Prop where
  present : ∀ task stand, s.tasks[task]? = some stand →
    calls task = stand.due (reads task) ∧ stand.Unbroken (reads task)
  absent : ∀ task, s.tasks[task]? = none → calls task = [] ∧ reads task = []

variable {calls : Nat → List SessionCall} {reads : Nat → List Incoming}

theorem Attended.step (attended : s.Attended calls reads) (step : Step) :
    (s.step step).Attended (fun task => calls task ++ s.callsIn task step)
      (fun task => reads task ++ s.readIn task step) := by
  cases s.step_change step with
  | @turn task stand next own located turn tasks =>
      have other {another : Nat} (differ : task ≠ another) :
          s.callsIn another step = [] ∧ s.readIn another step = [] :=
        silent_of_other (by simpa [own] using differ)
      obtain ⟨here, elsewhere⟩ := tasks_set located tasks
      constructor
      · intro another stand' located'
        by_cases differ : task = another
        · subst differ
          rw [here] at located'
          cases located'
          obtain ⟨told, unbroken⟩ := attended.present task stand located
          obtain ⟨due, still⟩ := turn.due unbroken
          exact ⟨by rw [told, due], still⟩
        · rw [elsewhere another differ] at located'
          simpa [other differ] using attended.present another stand' located'
      · intro another missing
        have differ : task ≠ another := by
          rintro rfl
          rw [here] at missing
          cases missing
        rw [elsewhere another differ] at missing
        simpa [other differ] using attended.absent another missing
  | arrival tasks bridge silent =>
      simp only [silent, List.append_nil]
      constructor
      · intro task stand located
        rcases tasks_append_cases tasks located with old | ⟨new, rfl⟩
        · exact attended.present task stand old
        · exact attended.absent task new
      · intro task missing
        rw [tasks, List.getElem?_eq_none_iff, List.length_append] at missing
        exact attended.absent task (List.getElem?_eq_none_iff.mpr (by omega))
  | outside tasks bridge silent =>
      simp only [silent, List.append_nil]
      exact ⟨by rw [tasks]; exact attended.present, by rw [tasks]; exact attended.absent⟩

def callsOf (task : Nat) : Service → List Step → List SessionCall
  | _, [] => []
  | s, step :: rest => s.callsIn task step ++ callsOf task (s.step step) rest

def readsOf (task : Nat) : Service → List Step → List Incoming
  | _, [] => []
  | s, step :: rest => s.readIn task step ++ readsOf task (s.step step) rest

theorem Attended.run (attended : s.Attended calls reads) (steps : List Step) :
    (s.run steps).Attended (fun task => calls task ++ s.callsOf task steps)
      (fun task => reads task ++ s.readsOf task steps) := by
  induction steps generalizing s calls reads with
  | nil => simpa [Service.run, callsOf, readsOf] using attended
  | cons step rest ih =>
      change ((s.step step).run rest).Attended _ _
      simpa [callsOf, readsOf] using ih (attended.step step)

end Service

/-! ## When sessions are registered -/

/-- The number of a session that should be registered. -/
def TaskStand.seat? : TaskStand → Option SessionId
  | standing (.registered id) | standing (.leaving id) => some id
  | stand => stand.hears?

namespace TaskStand

theorem seat?_of_hears? {stand : TaskStand} {id : SessionId} (hears : stand.hears? = some id) :
    stand.seat? = some id := by
  cases stand with
  | answered => exact hears
  | standing point =>
      cases point with
      | reading | writing => exact hears
      | _ => cases hears

theorem number?_of_seat? {stand : TaskStand} {id : SessionId} (seat : stand.seat? = some id) :
    stand.number? = some id := by
  cases stand with
  | answered => exact seat
  | standing point =>
      cases point with
      | registered | reading | writing | leaving => exact seat
      | _ => cases seat

end TaskStand

namespace Service

variable {s : Service}

theorem Turn.seat? {b after : Bridge} {task : Nat} {step : Step} {stand next : TaskStand}
    {calls : List SessionCall} {reads : List Incoming}
    (turn : Turn b task step stand after next calls reads) :
    after.brokerStopped = b.brokerStopped ∧
      (next.seat? = stand.seat? ∧ after.roster.isLive = b.roster.isLive ∨
        (∃ id, stand.seat? = none ∧ next.seat? = some id ∧
          ∀ other, after.roster.isLive other = (b.roster.isLive other || other == id)) ∨
        ∃ id, stand.seat? = some id ∧ next.seat? = none ∧
          ∀ other, after.roster.isLive other = (b.roster.isLive other && other != id)) := by
  cases turn with
  | register id =>
      exact ⟨rfl, .inr (.inl ⟨id, rfl, rfl, fun other => Roster.isLive_enroll _ _ other⟩)⟩
  | unregister id =>
      exact ⟨rfl, .inr (.inr ⟨id, rfl, rfl, fun other => Roster.isLive_unregister _ _ other⟩)⟩
  | hear id goesOn aloof hears =>
      exact ⟨aloof.brokerStopped, .inl ⟨TaskStand.seat?_of_hears? hears,
        funext fun other => Roster.isLive_congr aloof.registered other⟩⟩
  | finish id topic request result => cases result <;> exact ⟨rfl, .inl ⟨rfl, rfl⟩⟩
  | number | refuse | greet | hangUp | cancel | write | forget | idle =>
      exact ⟨rfl, .inl ⟨rfl, rfl⟩⟩

structure Seated (s : Service) : Prop where
  served : ∀ id, s.bridge.roster.isLive id = true →
    ∃ (task : Nat) (stand : TaskStand), s.tasks[task]? = some stand ∧ stand.seat? = some id
  live : s.numbers.Nodup → s.bridge.brokerStopped = false →
    ∀ (task : Nat) (stand : TaskStand), s.tasks[task]? = some stand →
      ∀ id, stand.seat? = some id → s.bridge.roster.isLive id = true

section

variable {step : Step} {task : Nat} {stand next : TaskStand} {calls : List SessionCall}
  {reads : List Incoming}

theorem Seated.served_turn (seated : s.Seated) (located : s.tasks[task]? = some stand)
    (turn : Turn s.bridge task step stand (s.step step).bridge next calls reads)
    (tasks : (s.step step).tasks = s.tasks.set task next) {id : SessionId}
    (live : (s.step step).bridge.roster.isLive id = true) :
    ∃ (task : Nat) (stand : TaskStand),
      (s.step step).tasks[task]? = some stand ∧ stand.seat? = some id := by
  obtain ⟨here, elsewhere⟩ := tasks_set located tasks
  have stays (before : s.bridge.roster.isLive id = true)
      (keeps : stand.seat? = some id → next.seat? = some id) :
      ∃ (task : Nat) (stand : TaskStand),
        (s.step step).tasks[task]? = some stand ∧ stand.seat? = some id := by
    obtain ⟨other, holder, seat, holds⟩ := seated.served id before
    by_cases differ : task = other
    · subst differ
      rw [located] at seat
      cases seat
      exact ⟨task, next, here, keeps holds⟩
    · exact ⟨other, holder, (elsewhere other differ).trans seat, holds⟩
  rcases turn.seat?.2 with ⟨same, lives⟩ | ⟨newcomer, free, taken, lives⟩ | ⟨leaver, sat, -, lives⟩
  · exact stays (lives ▸ live) same.trans
  · rw [lives, Bool.or_eq_true, beq_iff_eq] at live
    rcases live with before | rfl
    · exact stays before fun sat => by simp [free] at sat
    · exact ⟨task, next, here, taken⟩
  · rw [lives, Bool.and_eq_true, bne_iff_ne] at live
    exact stays live.1 fun own => absurd (Option.some.inj (own.symm.trans sat)) live.2

theorem Seated.live_turn (seated : s.Seated) (located : s.tasks[task]? = some stand)
    (turn : Turn s.bridge task step stand (s.step step).bridge next calls reads)
    (tasks : (s.step step).tasks = s.tasks.set task next) (distinct : s.numbers.Nodup)
    (running : (s.step step).bridge.brokerStopped = false) {other : Nat} {holder : TaskStand}
    (seat : (s.step step).tasks[other]? = some holder) {id : SessionId}
    (holds : holder.seat? = some id) : (s.step step).bridge.roster.isLive id = true := by
  obtain ⟨here, elsewhere⟩ := tasks_set located tasks
  obtain ⟨stopped, seats⟩ := turn.seat?
  have lived := seated.live distinct (stopped ▸ running)
  by_cases differ : task = other
  · subst differ
    rw [here] at seat
    cases seat
    rcases seats with ⟨same, lives⟩ | ⟨newcomer, -, taken, lives⟩ | ⟨leaver, -, free, -⟩
    · exact lives ▸ lived task stand located id (same ▸ holds)
    · rw [taken] at holds
      cases holds
      simp [lives]
    · rw [free] at holds
      cases holds
  · rw [elsewhere other differ] at seat
    have before := lived other holder seat id holds
    rcases seats with ⟨-, lives⟩ | ⟨newcomer, -, -, lives⟩ | ⟨leaver, sat, -, lives⟩
    · exact lives ▸ before
    · simp [lives, before]
    · rw [lives, before, Bool.true_and, bne_iff_ne]
      -- the one who leaves has a number of its own, so nobody else loses the seat
      rintro rfl
      exact differ (eq_of_number distinct located seat (TaskStand.number?_of_seat? sat)
        (TaskStand.number?_of_seat? holds))

end

theorem Seated.step (seated : s.Seated) {step : Step} (spares : step.registers = false) :
    (s.step step).Seated := by
  cases s.step_change step with
  | turn own located turn tasks =>
      exact ⟨fun _ live => seated.served_turn located turn tasks live,
        fun distinct running _ _ seat _ holds => seated.live_turn located turn tasks
          (distinct_of_step distinct) running seat holds⟩
  | arrival tasks bridge =>
      constructor
      · intro id live
        rw [bridge] at live
        obtain ⟨task, stand, seat, holds⟩ := seated.served id live
        exact ⟨task, stand, tasks_append tasks seat, holds⟩
      · intro distinct running task stand seat id holds
        rw [bridge] at running ⊢
        rcases tasks_append_cases tasks seat with old | ⟨-, rfl⟩
        · exact seated.live (distinct_of_step distinct) running task stand old id holds
        · cases holds
  | outside tasks bridge =>
      -- a stop empties the roster, whatever the tasks are at, and nothing else touches it
      rcases bridge.registered spares with same | ⟨stopped, empty⟩
      · have lives := Roster.isLive_congr same
        constructor
        · rw [tasks]
          exact fun id live => seated.served id (lives id ▸ live)
        · intro distinct running task stand seat id holds
          have before : s.bridge.brokerStopped = false := by
            cases early : s.bridge.brokerStopped with
            | false => rfl
            | true => rw [bridge.stopped early] at running; cases running
          rw [tasks] at seat
          exact lives id ▸ seated.live (distinct_of_step distinct) before task stand seat id holds
      · constructor
        · intro id live
          simp [Roster.isLive, Roster.find?, empty] at live
        · intro distinct running
          rw [stopped] at running
          cases running

theorem Seated.run (seated : s.Seated) {steps : List Step}
    (spares : ∀ step ∈ steps, step.registers = false) : (s.run steps).Seated := by
  induction steps generalizing s with
  | nil => exact seated
  | cons step rest ih =>
      exact ih (seated.step (spares step List.mem_cons_self)) fun other member =>
        spares other (List.mem_cons_of_mem _ member)

theorem registered_eq_nil {r : Roster} (empty : ∀ id, r.isLive id = false) : r.registered = [] := by
  cases listed : r.registered with
  | nil => rfl
  | cons entry rest =>
      have live := empty entry.1
      simp [Roster.isLive, Roster.find?, listed] at live

/-- How sessions are served as long as nobody but their tasks and the broker registers and
unregisters them. The handler was told what it should have been told; whoever is registered is
served; nobody is registered once all are done; and before all numbers are used up, no two tasks
ever have the same, a number is registered only while its task is served, and then it is until the
broker is stopped. -/
theorem sessions_served (settings : BrokerSettings) (interval : String) {steps : List Step}
    (spares : ∀ step ∈ steps, step.registers = false) :
    let first := start settings interval
    let s := first.run steps
    (∀ task stand, s.tasks[task]? = some stand →
      first.callsOf task steps = stand.due (first.readsOf task steps) ∧
        stand.Unbroken (first.readsOf task steps)) ∧
      (∀ id, s.bridge.roster.isLive id = true →
        ∃ (task : Nat) (stand : TaskStand), s.tasks[task]? = some stand ∧ stand.seat? = some id) ∧
      ((∀ stand ∈ s.tasks, stand = .standing .refused ∨ ∃ id, stand = .standing (.gone id)) →
        s.bridge.roster.registered = []) ∧
      ∀ (task : Nat) (stand : TaskStand) (id : SessionId),
        s.tasks[task]? = some stand → stand.number? = some id →
          (∀ later, let t := first.run (steps ++ later)
            t.numbers.length ≤ UInt64.size → ∀ (other : Nat) (stand' : TaskStand),
              t.tasks[other]? = some stand' → stand'.number? = some id → other = task) ∧
          (s.numbers.length ≤ UInt64.size →
            (s.bridge.roster.isLive id = true → stand.seat? = some id) ∧
              (stand.seat? = some id → s.bridge.brokerStopped = false →
                s.bridge.roster.isLive id = true)) := by
  intro first s
  have attended : first.Attended (fun _ => []) fun _ => [] :=
    ⟨fun task stand located => by simp [first, start] at located, fun _ _ => ⟨rfl, rfl⟩⟩
  have empty : first.Seated := by
    constructor
    · intro id live
      cases live
    · intro distinct running task stand located
      simp [first, start] at located
  have seated : s.Seated := empty.run spares
  have numbered : first.Numbered := numbered_start settings interval
  refine ⟨?_, seated.served, ?_, ?_⟩
  · intro task stand located
    simpa using (attended.run steps).present task stand located
  · intro done
    apply registered_eq_nil
    intro id
    rw [Bool.eq_false_iff]
    intro live
    obtain ⟨task, stand, located, seat⟩ := seated.served id live
    rcases done stand (List.mem_of_getElem? located) with rfl | ⟨gone, rfl⟩ <;> cases seat
  · intro task stand id located number
    constructor
    · intro later t few other stand' located' number'
      obtain ⟨after, still, same⟩ := number_run located number later
      rw [← run_append] at still
      exact eq_of_number ((numbered.run _).distinct few) located' still number' same
    · intro few
      have distinct := (numbered.run steps).distinct few
      constructor
      · intro live
        obtain ⟨other, holder, seat, holds⟩ := seated.served id live
        obtain rfl := eq_of_number distinct seat located (TaskStand.number?_of_seat? holds) number
        rw [located] at seat
        cases seat
        exact holds
      · intro seat running
        exact seated.live distinct running task stand located id seat

theorem sessions_served_across_stop :
    let settings : BrokerSettings := ⟨⟨.v4 [127, 0, 0, 1], 9000⟩, .text, 65536, 4⟩
    let hear (incoming : Incoming) : Step := .advance 0 (.incoming incoming)
    let early : List Step :=
      [.accept, .accept, .accept, .advance 0 .handshakeDone, .advance 0 .proceed,
        .advance 2 .handshakeFailed, .advance 0 .proceed, hear (.message (.text "x")),
        hear (.message (.binary ⟨#[255]⟩)), hear .control, .advance 1 .handshakeDone,
        .stopBroker, .advance 1 .proceed]
    let late : List Step :=
      [.advance 1 .proceed, hear (.failed .other), .advance 0 .proceed, .advance 0 .proceed,
        .advance 1 .cancelled, .advance 1 .proceed, .advance 1 .proceed]
    let first := start settings Topic.defaultInterval
    (∀ step ∈ early ++ late, step.registers = false) ∧
      (first.run early).bridge.roster.registered = [(⟨2⟩, 1)] ∧
      (first.run (early ++ late)).bridge.roster.registered = [] ∧
      first.callsOf 0 (early ++ late) =
        [.connected ⟨1⟩, .message ⟨1⟩ "x", .error ⟨1⟩, .disconnected ⟨1⟩] ∧
      first.callsOf 1 (early ++ late) = [.connected ⟨2⟩, .disconnected ⟨2⟩] ∧
      first.callsOf 2 (early ++ late) = [] := by
  intro settings hear early late first
  have spares : ∀ step ∈ early ++ late, step.registers = false := by decide
  have stands : ((start settings Topic.defaultInterval).run (early ++ late)).tasks =
      [.standing (.gone ⟨1⟩), .standing (.gone ⟨2⟩), .standing .refused] := by decide +kernel
  obtain ⟨told, -, closed, -⟩ := sessions_served settings Topic.defaultInterval spares
  rw [stands] at told closed
  refine ⟨spares, by decide +kernel, closed (by simp), ?_, ?_, (told 2 _ rfl).1⟩
  · exact (told 0 _ rfl).1.trans (by decide +kernel)
  · exact (told 1 _ rfl).1.trans (by decide +kernel)

end Service

end FeedBridge
