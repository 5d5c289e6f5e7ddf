import FeedBridge.Proofs.Basic
import FeedBridge.Proofs.Bridge.Backing

namespace FeedBridge

def TaskPoint.reads : TaskPoint → TaskEvent → List Incoming
  | reading _, .incoming incoming => [incoming]
  | _, _ => []

def TaskPoint.number? : TaskPoint → Option SessionId
  | handshake | refused => none
  | numbered id | registered id | reading id | writing id _ _ | leaving id | unregistered id
  | gone id => some id

namespace TaskStand

def number? : TaskStand → Option SessionId
  | standing point => point.number?
  | answered id _ _ _ => some id

def hears? : TaskStand → Option SessionId
  | standing (.reading id) | standing (.writing id _ _) | answered id _ _ _ => some id
  | _ => none

theorem number?_of_hears? {stand : TaskStand} {id : SessionId} (hears : stand.hears? = some id) :
    stand.number? = some id := by
  cases stand with
  | answered => exact hears
  | standing point => cases point <;> simp_all [hears?, number?, TaskPoint.number?]

end TaskStand

namespace Router

theorem registered_deliverAll (roster : Roster) (payload : String) (recipients : List SessionId) :
    (deliverAll roster payload recipients).1.registered = roster.registered := by
  induction recipients generalizing roster with
  | nil => rfl
  | cons id rest ih => exact (ih _).trans (roster.registered_deliver id payload)

theorem registered_exchangeText (r : Router) (text : String) :
    (r.exchangeText text).roster.registered = r.roster.registered := by
  have purged : r.purge.roster.registered = r.roster.registered := by
    dsimp only [purge]
    split_ifs <;> rfl
  unfold exchangeText route fanOut
  split
  · split
    · rfl
    · split
      · exact purged
      · exact (registered_deliverAll _ _ _).trans purged
  · rfl

end Router

structure Bridge.Aloof (before after : Bridge) : Prop where
  entries : after.router.entries ⊆ before.router.entries
  nextSession : after.nextSession = before.nextSession
  brokerStopped : after.brokerStopped = before.brokerStopped
  registered : after.roster.registered = before.roster.registered

namespace Bridge.Aloof

theorem refl (b : Bridge) : b.Aloof b := ⟨List.Subset.refl _, rfl, rfl, rfl⟩

theorem trans {before between after : Bridge} (first : before.Aloof between)
    (second : between.Aloof after) : before.Aloof after :=
  ⟨List.Subset.trans second.entries first.entries, second.nextSession.trans first.nextSession,
    second.brokerStopped.trans first.brokerStopped, second.registered.trans first.registered⟩

theorem handleAll (b : Bridge) (calls : List HandlerCall) : b.Aloof (b.handleAll calls) := by
  induction calls generalizing b with
  | nil => exact refl b
  | cons call rest ih =>
      refine trans ?_ (ih (b.handle call))
      cases call with
      | message text =>
          exact ⟨(Router.Quiet.exchangeText _ _).entries, rfl, rfl,
            Router.registered_exchangeText _ _⟩
      | closed | opened | error => exact ⟨List.Subset.refl _, rfl, rfl, rfl⟩

theorem handled (b : Bridge) (uplink : Uplink) (calls : List HandlerCall) :
    b.Aloof ({ b with uplink }.handleAll calls) := by
  have attached : b.Aloof { b with uplink } := ⟨List.Subset.refl _, rfl, rfl, rfl⟩
  exact attached.trans (handleAll _ calls)

theorem sayFarewell (places : List Nat) (b : Bridge) :
    b.Aloof (places.foldl Bridge.sayFarewell b) := by
  induction places generalizing b with
  | nil => exact refl b
  | cons place rest ih =>
      have said : b.Aloof (b.sayFarewell place) :=
        ⟨List.Subset.refl _, rfl, rfl, Roster.registered_offerAt _ _ _⟩
      exact said.trans (ih _)

theorem beginText (b : Bridge) (text : String) : b.Aloof (b.beginText text).2 := by
  unfold Bridge.beginText Router.beginSubscribe
  cases ClientRequest.parse text with
  | error cause => exact refl b
  | ok topic =>
      cases b.uplink.isOpen with
      | false => exact refl b
      | true => exact ⟨List.Subset.refl _, rfl, rfl, rfl⟩

end Bridge.Aloof

theorem Bridge.stopBroker_cases (b : Bridge) : b.stopBroker = b ∨
    b.stopBroker.brokerStopped = true ∧ b.stopBroker.roster.registered = [] ∧
      b.stopBroker.nextSession = b.nextSession := by
  dsimp only [stopBroker, drain]
  split_ifs
  · exact .inl rfl
  · have said := Aloof.sayFarewell (b.roster.registered.map (·.2))
      ({ b with brokerStopped := true, listening := false }.onRouter (·.onRoster (·.clear)))
    exact .inr ⟨said.brokerStopped, said.registered, said.nextSession⟩

namespace Service

/-- Whether a step registers or unregisters sessions behind the back of the tasks. -/
def Step.registers : Step → Bool
  | .roster step => step.registers
  | _ => false

def Step.task? : Step → Option Nat
  | .advance task _ | .write task _ | .finish task => some task
  | _ => none

structure Outside (step : Step) (before after : Bridge) : Prop where
  entries : after.router.entries ⊆ before.router.entries
  nextSession : after.nextSession = before.nextSession
  stopped : before.brokerStopped = true → after.brokerStopped = true
  registered : step.registers = false → after.roster.registered = before.roster.registered ∨
    after.brokerStopped = true ∧ after.roster.registered = []

theorem Outside.of_aloof {step : Step} {before after : Bridge} (aloof : before.Aloof after) :
    Outside step before after :=
  ⟨aloof.entries, aloof.nextSession, fun stopped => aloof.brokerStopped.trans stopped,
    fun _ => .inl aloof.registered⟩

variable {s : Service}

theorem connect_aloof (s : Service) (url : String) (timeout : Span) (dial : Dial) :
    (s.connect url timeout dial).tasks = s.tasks ∧
      s.bridge.Aloof (s.connect url timeout dial).bridge := by
  have aloof : s.bridge.Aloof (s.bridge.connectUplink url timeout dial).1 := .handled _ _ _
  unfold connect
  generalize s.bridge.connectUplink url timeout dial = connected at aloof ⊢
  obtain ⟨bridge, cause | _⟩ := connected <;> exact ⟨rfl, aloof⟩

theorem step_outside (s : Service) {step : Step} (own : step.task? = none)
    (settled : step ≠ .accept) :
    (s.step step).tasks = s.tasks ∧ Outside step s.bridge (s.step step).bridge := by
  cases step with
  | accept => exact absurd rfl settled
  | advance | write | finish => cases own
  | connect url timeout dial =>
      obtain ⟨tasks, aloof⟩ := s.connect_aloof url timeout dial
      exact ⟨tasks, .of_aloof aloof⟩
  | receive incoming =>
      dsimp only [Service.step]
      split_ifs
      · exact ⟨rfl, .of_aloof (.handled _ _ _)⟩
      · exact ⟨rfl, .of_aloof (.refl _)⟩
  | close farewell => exact ⟨rfl, .of_aloof (.handled _ _ _)⟩
  | roster step =>
      exact ⟨rfl, List.Subset.refl _, rfl, id,
        fun spares => .inl (s.bridge.roster.registered_step spares)⟩
  | stopBroker =>
      refine ⟨rfl, ?_⟩
      change Outside _ s.bridge s.bridge.stopBroker
      rcases s.bridge.stopBroker_cases with same | ⟨stopped, registered, nextSession⟩
      · rw [same]
        exact .of_aloof (.refl _)
      · exact ⟨(Bridge.Quiet.stopBroker _).router.entries, nextSession, fun _ => stopped,
          fun _ => .inr ⟨stopped, registered⟩⟩
  | clearRouter => exact ⟨rfl, List.nil_subset _, rfl, id, fun _ => .inl rfl⟩

/-! ## Turns -/

def told (id : SessionId) : Incoming → List SessionCall
  | .message frame => (frame.message?.map (.message id)).toList
  | .failed error => if error.isNoise then [] else [.error id]
  | .control | .ended => []

inductive Turn (b : Bridge) (task : Nat) :
    Step → TaskStand → Bridge → TaskStand → List SessionCall → List Incoming → Prop
  | number : Turn b task (.advance task .handshakeDone) (.standing .handshake)
      b.takeNumber.2 (.standing (.numbered ⟨b.nextSession⟩)) [] []
  | refuse : Turn b task (.advance task .handshakeFailed) (.standing .handshake)
      b (.standing .refused) [] []
  | register (id : SessionId) : Turn b task (.advance task .proceed) (.standing (.numbered id))
      (b.register id) (.standing (.registered id)) [] []
  | greet (id : SessionId) : Turn b task (.advance task .proceed) (.standing (.registered id))
      b (.standing (.reading id)) [.connected id] []
  | hear (id : SessionId) {incoming : Incoming} (goesOn : incoming.endsConnection = false)
      {after : Bridge} (aloof : b.Aloof after) {next : TaskStand} (hears : next.hears? = some id) :
      Turn b task (.advance task (.incoming incoming)) (.standing (.reading id))
        after next (told id incoming) [incoming]
  | hangUp (id : SessionId) {incoming : Incoming} (ends : incoming.endsConnection = true) :
      Turn b task (.advance task (.incoming incoming)) (.standing (.reading id))
        b (.standing (.leaving id)) (told id incoming) [incoming]
  | cancel (id : SessionId) : Turn b task (.advance task .cancelled) (.standing (.reading id))
      b (.standing (.leaving id)) [] []
  | write (id : SessionId) (topic : Topic) (request : String) (taken : Except String Unit)
      (result : Except UplinkError Unit) :
      Turn b task (.write task taken) (.standing (.writing id topic request))
        b (.answered id topic request result) [] []
  | finish (id : SessionId) (topic : Topic) (request : String) (result : Except UplinkError Unit) :
      Turn b task (.finish task) (.answered id topic request result)
        (b.finishText id topic result) (.standing (.reading id)) [] []
  | unregister (id : SessionId) : Turn b task (.advance task .proceed) (.standing (.leaving id))
      (b.unregister id) (.standing (.unregistered id)) [] []
  | forget (id : SessionId) : Turn b task (.advance task .proceed) (.standing (.unregistered id))
      (b.forget id) (.standing (.gone id)) [.disconnected id] []
  | idle (step : Step) (stand : TaskStand) : Turn b task step stand b stand [] []

theorem turn_of_reading (b : Bridge) (task : Nat) (id : SessionId) (incoming : Incoming) :
    Turn b task (.advance task (.incoming incoming)) (.standing (.reading id))
      (b.advanceReading id incoming).1 (.standing (b.advanceReading id incoming).2.1)
      (b.advanceReading id incoming).2.2 [incoming] := by
  cases incoming with
  | ended => exact .hangUp id rfl
  | failed error => exact .hangUp id rfl
  | control => exact .hear id rfl (.refl b) rfl
  | message frame =>
      cases ends : frame.isClose with
      | true =>
          have farewell : b.advanceReading id (.message frame) = (b, .leaving id, []) := by
            simp [Bridge.advanceReading, ends]
          have silent : told id (.message frame) = [] := by
            cases frame with
            | close => rfl
            | text | binary => cases ends
          rw [farewell, ← silent]
          exact .hangUp id ends
      | false =>
          have goesOn : (Incoming.message frame).endsConnection = false := ends
          unfold Bridge.advanceReading
          dsimp only
          rw [ends, if_neg Bool.false_ne_true]
          cases heard : frame.message? with
          | none =>
              have silent : told id (.message frame) = [] := by simp [told, heard]
              dsimp only
              rw [← silent]
              exact .hear id goesOn (.refl b) rfl
          | some text =>
              have tells : told id (.message frame) = [.message id text] := by simp [told, heard]
              have aloof := Bridge.Aloof.beginText b text
              dsimp only
              rw [← tells]
              generalize b.beginText text = begun at aloof ⊢
              obtain ⟨_ | ⟨topic, request⟩, after⟩ := begun <;> exact .hear id goesOn aloof rfl

theorem turn_of_advance (b : Bridge) (task : Nat) (point : TaskPoint) {event : TaskEvent}
    (unanswered : ∀ result, event ≠ .written result) :
    Turn b task (.advance task event) (.standing point) (b.advance point event).1
      (.standing (b.advance point event).2.1) (b.advance point event).2.2
      (point.reads event) := by
  -- at each point some events fit, and every other one is an idle turn
  cases point with
  | handshake =>
      cases event with
      | handshakeDone => exact .number
      | handshakeFailed => exact .refuse
      | _ => exact .idle _ _
  | numbered id =>
      cases event with
      | proceed => exact .register id
      | _ => exact .idle _ _
  | registered id =>
      cases event with
      | proceed => exact .greet id
      | _ => exact .idle _ _
  | reading id =>
      cases event with
      | incoming incoming => exact turn_of_reading b task id incoming
      | cancelled => exact .cancel id
      | _ => exact .idle _ _
  | writing id topic request =>
      cases event with
      | written result => exact absurd rfl (unanswered result)
      | _ => exact .idle _ _
  | leaving id =>
      cases event with
      | proceed => exact .unregister id
      | _ => exact .idle _ _
  | unregistered id =>
      cases event with
      | proceed => exact .forget id
      | _ => exact .idle _ _
  | refused | gone => cases event <;> exact .idle _ _

def callsIn (s : Service) (task : Nat) (step : Step) : List SessionCall :=
  match s.tasks[task]?, step with
  | some (.standing point), .advance other event =>
    if other = task then (s.bridge.advance point event).2.2 else []
  | some (.answered id topic request result), .finish other =>
    if other = task then
      (s.bridge.advance (.writing id topic request) (.written result)).2.2
    else []
  | _, _ => []

def readIn (s : Service) (task : Nat) (step : Step) : List Incoming :=
  match s.tasks[task]?, step with
  | some (.standing point), .advance other event => if other = task then point.reads event else []
  | _, _ => []

theorem silent_of_other {task : Nat} {step : Step} (other : step.task? ≠ some task) :
    s.callsIn task step = [] ∧ s.readIn task step = [] := by
  unfold callsIn readIn
  constructor
  all_goals
    split
    all_goals first | rfl | exact if_neg fun same => other (congrArg some same)

theorem silent_of_absent {task : Nat} (absent : s.tasks[task]? = none) (step : Step) :
    s.callsIn task step = [] ∧ s.readIn task step = [] := by
  simp [callsIn, readIn, absent]

theorem set_self {task : Nat} {stand : TaskStand} (located : s.tasks[task]? = some stand) :
    s.tasks.set task stand = s.tasks := by
  obtain ⟨inside, rfl⟩ := List.getElem?_eq_some_iff.mp located
  exact List.set_getElem_self inside

theorem tasks_set {t : Service} {task : Nat} {stand next : TaskStand}
    (located : s.tasks[task]? = some stand) (tasks : t.tasks = s.tasks.set task next) :
    t.tasks[task]? = some next ∧ ∀ other, task ≠ other → t.tasks[other]? = s.tasks[other]? := by
  rw [tasks]
  exact ⟨List.getElem?_set_self (List.getElem?_eq_some_iff.mp located).1,
    fun _ differ => List.getElem?_set_ne differ⟩

theorem tasks_append {t : Service} {newcomer : TaskStand} (tasks : t.tasks = s.tasks ++ [newcomer])
    {task : Nat} {stand : TaskStand} (located : s.tasks[task]? = some stand) :
    t.tasks[task]? = some stand := by
  rwa [tasks, List.getElem?_append_left (List.getElem?_eq_some_iff.mp located).1]

theorem tasks_append_cases {t : Service} {newcomer : TaskStand}
    (tasks : t.tasks = s.tasks ++ [newcomer]) {task : Nat} {stand : TaskStand}
    (located : t.tasks[task]? = some stand) :
    s.tasks[task]? = some stand ∨ s.tasks[task]? = none ∧ stand = newcomer := by
  rw [tasks, List.getElem?_append] at located
  split_ifs at located with old
  · exact .inl located
  · rw [List.getElem?_singleton] at located
    split_ifs at located
    exact .inr ⟨List.getElem?_eq_none_iff.mpr (by omega), (Option.some.inj located).symm⟩

def TakesTurn (s : Service) (task : Nat) (stand : TaskStand) (step : Step) : Prop :=
  ∃ next, Turn s.bridge task step stand (s.step step).bridge next (s.callsIn task step)
    (s.readIn task step) ∧ (s.step step).tasks = s.tasks.set task next

section

variable {task : Nat} {stand : TaskStand}

theorem TakesTurn.idle {step : Step} (located : s.tasks[task]? = some stand)
    (same : s.step step = s) (calls : s.callsIn task step = []) (reads : s.readIn task step = []) :
    s.TakesTurn task stand step := by
  rw [TakesTurn, same, calls, reads]
  exact ⟨stand, .idle step stand, (set_self located).symm⟩

theorem advance_turn (located : s.tasks[task]? = some stand) (event : TaskEvent) :
    s.TakesTurn task stand (.advance task event) := by
  cases stand with
  | answered id topic request result =>
      have same : s.step (.advance task event) = s := by
        cases event <;> simp [Service.step, advance, located]
      exact .idle located same (by simp [callsIn, located]) (by simp [readIn, located])
  | standing point =>
      -- a task learns from `finish` that its request was written, and from nothing else
      by_cases told : ∃ result, event = .written result
      · obtain ⟨result, rfl⟩ := told
        refine .idle located (by simp [Service.step, advance]) ?_ ?_
        · cases point <;> simp [callsIn, located, Bridge.advance]
        · cases point <;> simp [readIn, located, TaskPoint.reads]
      · have unanswered (result : Except UplinkError Unit) : event ≠ .written result :=
          fun same => told ⟨result, same⟩
        have advanced : s.step (.advance task event) = { s with
            bridge := (s.bridge.advance point event).1
            tasks := s.tasks.set task (.standing (s.bridge.advance point event).2.1) } := by
          cases event <;> simp_all [Service.step, advance]
        have turn := turn_of_advance s.bridge task point unanswered
        refine ⟨.standing (s.bridge.advance point event).2.1, ?_, by rw [advanced]⟩
        simpa [advanced, callsIn, readIn, located] using turn

theorem write_turn (located : s.tasks[task]? = some stand) (taken : Except String Unit) :
    s.TakesTurn task stand (.write task taken) := by
  have calls : s.callsIn task (.write task taken) = [] := by
    unfold callsIn
    split <;> simp_all
  have reads : s.readIn task (.write task taken) = [] := by
    unfold readIn
    split <;> simp_all
  by_cases writes : ∃ id topic request, stand = .standing (.writing id topic request)
  · obtain ⟨id, topic, request, rfl⟩ := writes
    rw [TakesTurn, calls, reads]
    cases sent : s.bridge.sendUplink request taken with
    | ok frame =>
        refine ⟨.answered id topic request (.ok ()), ?_, ?_⟩
        · simpa [Service.step, write, located, sent] using .write id topic request taken _
        · simp [Service.step, write, located, sent]
    | error cause =>
        refine ⟨.answered id topic request (.error cause.toUplinkError), ?_, ?_⟩
        · simpa [Service.step, write, located, sent] using .write id topic request taken _
        · simp [Service.step, write, located, sent]
  · refine .idle located ?_ calls reads
    dsimp only [Service.step, write]
    rw [located]
    split <;> simp_all

theorem finish_turn (located : s.tasks[task]? = some stand) :
    s.TakesTurn task stand (.finish task) := by
  have reads : s.readIn task (.finish task) = [] := by
    unfold readIn
    split <;> simp_all
  cases stand with
  | standing point =>
      exact .idle located (by simp [Service.step, finish, located]) (by simp [callsIn, located])
        reads
  | answered id topic request result =>
      refine ⟨.standing (.reading id), ?_, by simp [Service.step, finish, located, Bridge.advance]⟩
      simpa [Service.step, finish, located, callsIn, reads, Bridge.advance] using
        .finish id topic request result

end

theorem step_turn {step : Step} {task : Nat} {stand : TaskStand} (own : step.task? = some task)
    (located : s.tasks[task]? = some stand) : s.TakesTurn task stand step := by
  cases step with
  | accept | connect | receive | close | roster | stopBroker | clearRouter => cases own
  | advance other event =>
      cases own
      exact advance_turn located event
  | write other taken =>
      cases own
      exact write_turn located taken
  | finish other =>
      cases own
      exact finish_turn located

theorem step_of_absent {step : Step} {task : Nat} (own : step.task? = some task)
    (absent : s.tasks[task]? = none) : s.step step = s := by
  cases step with
  | accept | connect | receive | close | roster | stopBroker | clearRouter => cases own
  | advance other event =>
      cases own
      cases event <;> simp [Service.step, advance, absent]
  | write other taken | finish other =>
      cases own
      simp [Service.step, write, finish, absent]

inductive Change (s : Service) (step : Step) : Prop
  | turn {task : Nat} {stand next : TaskStand} (own : step.task? = some task)
      (located : s.tasks[task]? = some stand)
      (turn : Turn s.bridge task step stand (s.step step).bridge next (s.callsIn task step)
        (s.readIn task step))
      (tasks : (s.step step).tasks = s.tasks.set task next)
  | arrival (tasks : (s.step step).tasks = s.tasks ++ [.standing .handshake])
      (bridge : (s.step step).bridge = s.bridge)
      (silent : ∀ task, s.callsIn task step = [] ∧ s.readIn task step = [])
  | outside (tasks : (s.step step).tasks = s.tasks)
      (bridge : Outside step s.bridge (s.step step).bridge)
      (silent : ∀ task, s.callsIn task step = [] ∧ s.readIn task step = [])

theorem step_change (s : Service) (step : Step) : s.Change step := by
  cases own : step.task? with
  | some task =>
      cases located : s.tasks[task]? with
      | some stand =>
          obtain ⟨next, turn, tasks⟩ := step_turn own located
          exact .turn own located turn tasks
      | none =>
          have same := step_of_absent own located
          refine .outside (congrArg tasks same) (same.symm ▸ .of_aloof (.refl _)) fun other => ?_
          by_cases here : task = other
          · exact silent_of_absent (here ▸ located) step
          · exact silent_of_other (by simpa [own] using here)
  | none =>
      have silent (task : Nat) : s.callsIn task step = [] ∧ s.readIn task step = [] :=
        silent_of_other (by simp [own])
      by_cases arrives : step = .accept
      · subst arrives
        exact .arrival rfl rfl silent
      · obtain ⟨tasks, bridge⟩ := s.step_outside own arrives
        exact .outside tasks bridge silent

/-! ## Numbers -/

def numbers (s : Service) : List SessionId := s.tasks.filterMap TaskStand.number?

structure Numbered (s : Service) : Prop where
  next : s.bridge.nextSession = 1 + UInt64.ofNat s.numbers.length
  taken : s.numbers.Perm ((List.range s.numbers.length).map fun k => ⟨1 + UInt64.ofNat k⟩)

theorem numbers_set {t : Service} {task : Nat} {stand next : TaskStand}
    (located : s.tasks[task]? = some stand) (tasks : t.tasks = s.tasks.set task next) :
    ∃ others, s.numbers.Perm (stand.number?.toList ++ others) ∧
      t.numbers.Perm (next.number?.toList ++ others) := by
  rw [numbers, numbers, tasks]
  exact filterMap_set_perm TaskStand.number? located next

theorem Turn.number? {b after : Bridge} {task : Nat} {step : Step} {stand next : TaskStand}
    {calls : List SessionCall} {reads : List Incoming}
    (turn : Turn b task step stand after next calls reads) :
    (next.number? = stand.number? ∧ after.nextSession = b.nextSession) ∨
      (stand.number? = none ∧ next.number? = some ⟨b.nextSession⟩ ∧
        after.nextSession = b.nextSession + 1) := by
  cases turn with
  | number => exact .inr ⟨rfl, rfl, rfl⟩
  | hear id goesOn aloof hears => exact .inl ⟨TaskStand.number?_of_hears? hears, aloof.nextSession⟩
  | finish id topic request result => exact .inl ⟨rfl, by cases result <;> rfl⟩
  | refuse | register | greet | hangUp | cancel | write | unregister | forget | idle =>
      exact .inl ⟨rfl, rfl⟩

theorem step_numbers (s : Service) (step : Step) :
    (s.step step).numbers.Perm s.numbers ∧
        (s.step step).bridge.nextSession = s.bridge.nextSession ∨
      (s.step step).numbers.Perm (⟨s.bridge.nextSession⟩ :: s.numbers) ∧
        (s.step step).bridge.nextSession = s.bridge.nextSession + 1 := by
  cases s.step_change step with
  | turn own located turn tasks =>
      obtain ⟨others, before, after⟩ := numbers_set located tasks
      rcases turn.number? with ⟨same, nextSession⟩ | ⟨unnumbered, number, nextSession⟩
      · rw [same] at after
        exact .inl ⟨after.trans before.symm, nextSession⟩
      · rw [unnumbered] at before
        rw [number] at after
        exact .inr ⟨after.trans (before.symm.cons _), nextSession⟩
  | arrival tasks bridge =>
      refine .inl ⟨?_, by rw [bridge]⟩
      rw [numbers, tasks, List.filterMap_append]
      exact List.append_nil _ ▸ .refl _
  | outside tasks bridge => exact .inl ⟨by rw [numbers, numbers, tasks], bridge.nextSession⟩

theorem Numbered.step (numbered : s.Numbered) (step : Step) : (s.step step).Numbered := by
  obtain ⟨next, taken⟩ := numbered
  rcases s.step_numbers step with ⟨numbers, nextSession⟩ | ⟨numbers, nextSession⟩
  · constructor
    · rw [nextSession, next, numbers.length_eq]
    · rw [numbers.length_eq]
      exact numbers.trans taken
  · have length : (s.step step).numbers.length = s.numbers.length + 1 := numbers.length_eq
    constructor
    · rw [nextSession, next, length, UInt64.ofNat_add, UInt64.add_assoc]
      rfl
    · rw [length, List.range_succ, List.map_append]
      refine numbers.trans ?_
      rw [next]
      exact ((taken.cons _).trans (List.perm_append_singleton _ _).symm)

theorem Numbered.run (numbered : s.Numbered) (steps : List Step) : (s.run steps).Numbered := by
  induction steps generalizing s with
  | nil => exact numbered
  | cons step rest ih => exact ih (numbered.step step)

theorem number_step {task : Nat} {stand : TaskStand} {id : SessionId}
    (located : s.tasks[task]? = some stand) (number : stand.number? = some id) (step : Step) :
    ∃ after : TaskStand, (s.step step).tasks[task]? = some after ∧ after.number? = some id := by
  cases s.step_change step with
  | @turn other stand' next own located' turn tasks =>
      obtain ⟨here, elsewhere⟩ := tasks_set located' tasks
      by_cases differ : other = task
      · subst differ
        rw [located] at located'
        cases located'
        rcases turn.number? with ⟨same, -⟩ | ⟨unnumbered, -⟩
        · exact ⟨next, here, same.trans number⟩
        · rw [unnumbered] at number
          cases number
      · exact ⟨stand, (elsewhere task differ).trans located, number⟩
  | arrival tasks bridge => exact ⟨stand, tasks_append tasks located, number⟩
  | outside tasks bridge => exact ⟨stand, tasks ▸ located, number⟩

theorem number_run {task : Nat} {stand : TaskStand} {id : SessionId}
    (located : s.tasks[task]? = some stand) (number : stand.number? = some id)
    (steps : List Step) :
    ∃ after : TaskStand, (s.run steps).tasks[task]? = some after ∧ after.number? = some id := by
  induction steps generalizing s stand with
  | nil => exact ⟨stand, located, number⟩
  | cons step rest ih =>
      obtain ⟨between, seated, same⟩ := number_step located number step
      exact ih seated same

theorem run_append (s : Service) (steps later : List Step) :
    s.run (steps ++ later) = (s.run steps).run later := List.foldl_append

theorem distinct_of_step {step : Step} (distinct : (s.step step).numbers.Nodup) :
    s.numbers.Nodup := by
  rcases s.step_numbers step with ⟨numbers, -⟩ | ⟨numbers, -⟩
  · exact numbers.nodup_iff.mp distinct
  · exact (List.nodup_cons.mp (numbers.nodup_iff.mp distinct)).2

theorem numbered_start (settings : BrokerSettings) (interval : String) :
    (start settings interval).Numbered := ⟨rfl, .refl _⟩

theorem Numbered.distinct (numbered : s.Numbered) (few : s.numbers.length ≤ UInt64.size) :
    s.numbers.Nodup := by
  rw [numbered.taken.nodup_iff]
  have raw := nodup_numbers few
  exact List.pairwise_map.mpr ((List.pairwise_map.mp raw).imp fun differ same =>
    differ (congrArg SessionId.raw same))

theorem eq_of_number (distinct : s.numbers.Nodup) {task other : Nat} {stand stand' : TaskStand}
    (located : s.tasks[task]? = some stand) (located' : s.tasks[other]? = some stand')
    {id : SessionId} (number : stand.number? = some id) (number' : stand'.number? = some id) :
    task = other := by
  unfold numbers List.Nodup at distinct
  rw [List.pairwise_filterMap, List.pairwise_iff_getElem] at distinct
  obtain ⟨inside, here⟩ := List.getElem?_eq_some_iff.mp located
  obtain ⟨inside', here'⟩ := List.getElem?_eq_some_iff.mp located'
  rcases Nat.lt_trichotomy task other with before | same | after
  · exact absurd rfl (distinct task other inside inside' before id (here ▸ number) id
      (here' ▸ number'))
  · exact same
  · exact absurd rfl (distinct other task inside' inside after id (here' ▸ number') id
      (here ▸ number))

end Service

end FeedBridge
