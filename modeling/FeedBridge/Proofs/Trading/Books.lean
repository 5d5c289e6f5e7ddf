import FeedBridge.Proofs.Basic
import FeedBridge.Proofs.Trading.Traffic
import Mathlib.Data.List.Range

namespace FeedBridge.Trading

namespace Attempt

theorem perm_news {before after : List Attempt} {a b : Attempt} {accepted : List Job}
    (owned : ((before ++ a :: after).filterMap job?).Perm accepted)
    (keeps : a.job? = none ∨ b.job? = a.job?) :
    ((before ++ b :: after).filterMap job?).Perm (accepted ++ a.news b) := by
  cases job : a.job? with
  | none =>
      have grown : ((before ++ b :: after).filterMap job?).Perm
          ((before ++ a :: after).filterMap job? ++ b.job?.toList) := by
        cases found : b.job? with
        | none => simp [job, found]
        | some fresh =>
            simp only [List.filterMap_append, List.filterMap_cons, job, found, Option.toList]
            exact List.perm_middle.trans (List.perm_append_singleton _ _).symm
      simpa [news, job] using grown.trans (owned.append_right _)
  | some held =>
      have same : b.job? = some held := by
        rcases keeps with nothing | same
        · simp [job] at nothing
        · rw [same, job]
      have unchanged : (before ++ b :: after).filterMap job? =
          (before ++ a :: after).filterMap job? := by
        simp [job, same]
      simpa [news, job, unchanged] using owned

end Attempt

def Execution.Cleared (e : Execution) : Prop :=
  (e.due = false ∧ e.grant = none) ∨ (e.due = true ∧ ∃ token, e.renewal? = some (.ok token))

def Stage.Awaits : Stage → Option Execution → Prop
  | .authenticating job, current =>
    ∃ e, current = some e ∧ e.job = job ∧ e.due = true ∧ e.grant = none ∧ e.answer = none
  | .calling job, current =>
    ∃ e, current = some e ∧ e.job = job ∧ e.answer = none ∧ e.Cleared
  | _, current => current = none

namespace Execution

theorem outcome?_of_refused {e : Execution} {cause : AuthError}
    (refused : e.renewal? = some (.error cause)) :
    e.outcome? = some (.error (.authentication cause)) := by
  simp only [outcome?, refused]

theorem outcome?_of_answer {e : Execution} {reply : Reply} (cleared : e.Cleared)
    (answer : e.answer = some reply) : e.outcome? = some (resultOfReply reply) := by
  rcases cleared with ⟨-, none⟩ | ⟨-, token, some⟩
  · simp only [outcome?, renewal?, none, Option.map_none, answer, Option.map_some]
  · simp only [outcome?, some, answer, Option.map_some]

theorem outcome?_error {e : Execution} {cause : RequestError}
    (failed : e.outcome? = some (.error cause)) :
    (∃ refused, cause = .authentication refused) ∨ (∃ failure, cause = .transport failure) ∨
      ∃ refusal, cause = .exchange refusal := by
  unfold outcome? at failed
  split at failed
  · cases failed
    exact .inl ⟨_, rfl⟩
  · obtain ⟨reply, -, result⟩ := Option.map_eq_some_iff.mp failed
    cases reply with
    | error failure =>
        cases result
        exact .inr (.inl ⟨_, rfl⟩)
    | ok answer =>
        cases found : answer.get? "error" with
        | none => simp [resultOfReply, found] at result
        | some error =>
            simp only [resultOfReply, found, Except.error.injEq] at result
            exact .inr (.inr ⟨_, result.symm⟩)

theorem outcome?_ne_dropped (e : Execution) : e.outcome? ≠ some (.error .dropped) := by
  intro failed
  simpa using outcome?_error failed

end Execution

namespace Traffic

variable {t : Traffic} {room : Nat}

structure Callers (t : Traffic) : Prop where
  tickets : t.accepted.map Job.ticket = List.range t.pipeline.nextTicket
  owned : (t.attempts.filterMap Attempt.job?).Perm t.accepted
  shares : t.pipeline.shares = t.attempts.countP Attempt.hasShare

theorem Callers.begin (callers : t.Callers) (call : Call) : (t.begin call).Callers := by
  obtain ⟨tickets, owned, shares⟩ := callers
  rcases begin_cases t call with ⟨-, begun⟩ | ⟨-, begun⟩
  · rw [begun]
    refine ⟨tickets, ?_, ?_⟩
    · simpa [List.filterMap_cons, Attempt.job?, Attempt.answer?] using owned
    · simp [List.countP_cons, Attempt.hasShare, shares]
  · rw [begun]
    refine ⟨tickets, ?_, ?_⟩
    · simpa [List.filterMap_cons, Attempt.job?, Attempt.answer?] using owned
    · simpa [List.countP_cons, Attempt.hasShare] using shares

theorem attempts_split {caller : Nat} {a : Attempt} (found : t.attempts[caller]? = some a) :
    ∃ before after, t.attempts = before ++ a :: after ∧
      ∀ b, t.attempts.set caller b = before ++ b :: after := by
  obtain ⟨inside, rfl⟩ := List.getElem?_eq_some_iff.mp found
  refine ⟨t.attempts.take caller, t.attempts.drop (caller + 1), ?_, fun b => ?_⟩
  · simp
  · rw [List.set_eq_take_append_cons_drop, if_pos inside]

theorem Callers.advance (callers : t.Callers) (caller : Nat) : (t.advance caller).Callers := by
  rcases advance_cases t caller with stays | ⟨a, q, b, found, advanced, next⟩
  · rw [stays]
    exact callers
  · obtain ⟨before, after, split, replaced⟩ := attempts_split found
    obtain ⟨tickets, owned, shares⟩ := callers
    rw [split] at owned shares
    rw [next, replaced]
    refine ⟨?_, Attempt.perm_news owned ?_, ?_⟩
    · rcases advanced.accepts with ⟨same, -, unchanged⟩ | ⟨nothing, fresh, rfl, -⟩
      · simpa [Attempt.news_of_same same, unchanged] using tickets
      · simp [Attempt.news, nothing, fresh, Pipeline.enqueue, List.range_succ, tickets]
    · rcases advanced.accepts with ⟨same, -⟩ | ⟨nothing, -⟩
      · exact .inr same
      · exact .inl nothing
    · rw [List.countP_append, List.countP_cons] at shares ⊢
      rcases advanced.shares with ⟨same, unchanged⟩ | ⟨had, gone, fewer⟩
      · rw [same, unchanged, shares]
      · rw [had] at shares
        rw [gone, fewer, shares]
        rfl

theorem Callers.work (callers : t.Callers) (now : Instant) (reply : Reply) :
    (t.work now reply).Callers := by
  obtain ⟨tickets, owned, shares⟩ := callers
  have worked := worked t now reply
  generalize t.work now reply = next at worked ⊢
  cases worked <;> exact ⟨tickets, owned, shares⟩

theorem Callers.step (callers : t.Callers) (step : Step) : (t.step step).Callers := by
  cases step with
  | begin call => exact callers.begin call
  | advance caller => exact callers.advance caller
  | work now reply => exact callers.work now reply
  | shutdown | release => exact ⟨callers.tickets, callers.owned, callers.shares⟩

structure Line (room : Nat) (t : Traffic) : Prop where
  order : t.taken ++ t.pipeline.waiting = t.accepted
  capacity : t.pipeline.capacity = room
  fits : t.pipeline.waiting.length ≤ room
  ended : t.pipeline.stage = .finished →
    t.pipeline.accepting = false ∧ t.pipeline.shares = 0 ∧ t.pipeline.waiting = []

theorem Line.begin (line : t.Line room) (call : Call) : (t.begin call).Line room := by
  rcases begin_cases t call with ⟨isOpen, begun⟩ | ⟨-, begun⟩
  · rw [begun]
    refine ⟨line.order, line.capacity, line.fits, fun finished => ?_⟩
    rw [(line.ended finished).1] at isOpen
    cases isOpen
  · rw [begun]
    exact ⟨line.order, line.capacity, line.fits, line.ended⟩

theorem Line.advance (line : t.Line room) (caller : Nat) : (t.advance caller).Line room := by
  rcases advance_cases t caller with stays | ⟨a, q, b, -, advanced, next⟩
  · rw [stays]
    exact line
  · obtain ⟨order, capacity, fits, ended⟩ := line
    have undisturbed := advanced.undisturbed.1
    rw [next]
    rcases advanced.accepts with ⟨same, unchanged, -⟩ | ⟨nothing, fresh, rfl, alive, free⟩
    · refine ⟨?_, undisturbed.capacity.trans capacity, unchanged ▸ fits, fun finished => ?_⟩
      · simpa [Attempt.news_of_same same, unchanged] using order
      · obtain ⟨closed, unshared, empty⟩ := ended (undisturbed.stage ▸ finished)
        refine ⟨advanced.undisturbed.2.trans closed, ?_, unchanged.trans empty⟩
        rcases advanced.shares with ⟨-, as⟩ | ⟨-, -, as⟩ <;> simp only [as, unshared]
    · refine ⟨?_, capacity, ?_, fun finished => ?_⟩
      · simp [Attempt.news, nothing, fresh, Pipeline.enqueue, ← order]
      · simp only [Pipeline.enqueue, List.length_append, List.length_singleton]
        omega
      · change t.pipeline.stage = .finished at finished
        simp [Pipeline.hasReceiver, finished] at alive

theorem Line.work (line : t.Line room) (now : Instant) (reply : Reply) :
    (t.work now reply).Line room := by
  obtain ⟨order, capacity, fits, ended⟩ := line
  have worked := worked t now reply
  generalize t.work now reply = next at worked ⊢
  cases worked with
  | gone | idle => exact ⟨order, capacity, fits, ended⟩
  | finish ready empty closed unshared =>
      exact ⟨order, capacity, fits, fun _ => ⟨closed, unshared, empty⟩⟩
  | receive job rest ready queue =>
      refine ⟨?_, capacity, ?_, fun finished => by cases finished⟩
      · rw [queue] at order
        simpa using order
      · rw [queue] at fits
        exact Nat.le_of_succ_le fits
  | discount | askToken | call | renew | refuse | settle =>
      exact ⟨order, capacity, fits, fun finished => by cases finished⟩

theorem Line.step (line : t.Line room) (step : Step) : (t.step step).Line room := by
  cases step with
  | begin call => exact line.begin call
  | advance caller => exact line.advance caller
  | work now reply => exact line.work now reply
  | shutdown =>
      refine ⟨line.order, line.capacity, line.fits, fun finished => ?_⟩
      exact ⟨rfl, (line.ended finished).2⟩
  | release ticket => exact ⟨line.order, line.capacity, line.fits, line.ended⟩

/-- The calls taken are those executed and the one in hand, and the settled results are what the
executions came to. -/
structure Desk (t : Traffic) : Prop where
  hands : t.done.map (·.job) ++ t.pipeline.stage.job?.toList = t.taken
  results : t.pipeline.settled.map (fun settled => (settled.1, some settled.2)) =
    t.done.map (fun e => (e.job.ticket, e.outcome?))
  awaits : t.pipeline.stage.Awaits t.current
  alive : t.pipeline.stage ≠ .crashed

theorem Desk.settle (desk : t.Desk) {job : Job} {result : Result} {e : Execution}
    (inHand : t.pipeline.stage.job? = some job) (same : e.job = job)
    (outcome : e.outcome? = some result) :
    Desk { t with pipeline := t.pipeline.settle job result, done := t.done ++ [e], current := none } := by
  obtain ⟨hands, results, awaits, alive⟩ := desk
  refine ⟨?_, ?_, rfl, by simp [Pipeline.settle]⟩
  · rw [inHand] at hands
    simpa [Pipeline.settle, Stage.job?, same] using hands
  · simp [Pipeline.settle, Pipeline.countResult, results, same, outcome]

theorem Desk.work (desk : t.Desk) (now : Instant) (reply : Reply) : (t.work now reply).Desk := by
  have worked := worked t now reply
  have awaits := desk.awaits
  have hands := desk.hands
  generalize t.work now reply = next at worked ⊢
  cases worked with
  | gone | idle => exact desk
  | finish ready empty closed unshared =>
      rw [ready] at hands awaits
      exact ⟨hands, desk.results, awaits, by simp⟩
  | receive job rest ready queue =>
      rw [ready] at hands awaits
      refine ⟨?_, desk.results, awaits, by simp⟩
      simpa [Stage.job?] using hands
  | discount job received =>
      rw [received] at hands awaits
      exact ⟨hands, desk.results, awaits, by simp [Pipeline.publishDepth]⟩
  | askToken job dispatching due =>
      rw [dispatching] at hands
      exact ⟨hands, desk.results, ⟨_, rfl, rfl, due, rfl, rfl⟩, by simp [Pipeline.postToken]⟩
  | call job dispatching fresh =>
      rw [dispatching] at hands
      exact ⟨hands, desk.results, ⟨_, rfl, rfl, rfl, .inl ⟨fresh, rfl⟩⟩, by simp [Pipeline.postCall]⟩
  | renew job token authenticating granted =>
      rw [authenticating] at hands awaits
      obtain ⟨e, current, same, due, -, unanswered⟩ := awaits
      refine ⟨hands, desk.results, ?_, by simp [Pipeline.postCall]⟩
      rw [current]
      exact ⟨_, rfl, same, unanswered, .inr ⟨due, token, by simp [Execution.renewal?, granted]⟩⟩
  | refuse job cause authenticating refused =>
      rw [authenticating] at awaits
      obtain ⟨e, current, same, -⟩ := awaits
      have inHand : t.pipeline.stage.job? = some job := by rw [authenticating]; rfl
      have failed : Execution.renewal? { e with grant := some (reply, now) } =
          some (.error cause) := by simp [Execution.renewal?, refused]
      have outcome := Execution.outcome?_of_refused failed
      rw [current]
      exact desk.settle inHand same outcome
  | settle job calling =>
      rw [calling] at awaits
      obtain ⟨e, current, same, -, cleared⟩ := awaits
      have inHand : t.pipeline.stage.job? = some job := by rw [calling]; rfl
      have outcome := Execution.outcome?_of_answer (e := { e with answer := some reply })
        cleared rfl
      rw [current]
      exact desk.settle inHand same outcome

theorem Desk.step (desk : t.Desk) (step : Step) : (t.step step).Desk := by
  rcases step.work_or_idle with ⟨now, reply, rfl⟩ | idle
  · exact desk.work now reply
  · obtain ⟨undisturbed, taken, done, current⟩ := step_undisturbed t idle
    obtain ⟨hands, results, awaits, alive⟩ := desk
    refine ⟨?_, ?_, ?_, ?_⟩
    · rw [done, undisturbed.stage, taken, hands]
    · rw [undisturbed.settled, done, results]
    · rw [undisturbed.stage, current]
      exact awaits
    · rw [undisturbed.stage]
      exact alive

/-! ## All together -/

structure Sound (room : Nat) (t : Traffic) : Prop where
  callers : t.Callers
  line : t.Line room
  desk : t.Desk

theorem Sound.step (sound : t.Sound room) (step : Step) : (t.step step).Sound room :=
  ⟨sound.callers.step step, sound.line.step step, sound.desk.step step⟩

theorem Sound.run (sound : t.Sound room) (steps : List Step) : (t.run steps).Sound room := by
  induction steps generalizing t with
  | nil => exact sound
  | cons step rest ih => exact ih (sound.step step)

namespace Sound

theorem finished_of_gone (sound : t.Sound room) (gone : t.pipeline.hasReceiver = false) :
    t.pipeline.stage = .finished := by
  unfold Pipeline.hasReceiver at gone
  cases stage : t.pipeline.stage with
  | finished => rfl
  | crashed => exact absurd stage sound.desk.alive
  | _ => simp [stage] at gone

theorem settled_length (sound : t.Sound room) : t.pipeline.settled.length = t.done.length := by
  simpa using congrArg List.length sound.desk.results

theorem settled_tickets (sound : t.Sound room) :
    t.pipeline.settled.map Prod.fst = t.done.map (·.job.ticket) := by
  have tickets := congrArg (List.map Prod.fst) sound.desk.results
  simp only [List.map_map] at tickets
  exact tickets

theorem accepted_length (sound : t.Sound room) :
    t.pipeline.nextTicket =
      t.pipeline.settled.length + t.pipeline.stage.job?.toList.length + t.pipeline.waiting.length := by
  have counted := congrArg List.length sound.callers.tickets
  rw [← sound.line.order, ← sound.desk.hands] at counted
  simpa [sound.settled_length, Nat.add_assoc] using counted.symm

theorem busy_of_unsettled (sound : t.Sound room)
    (unsettled : t.pipeline.settled.length < t.pipeline.nextTicket) :
    t.pipeline.hasReceiver = true ∧ ¬(t.pipeline.stage = .ready ∧ t.pipeline.waiting = []) := by
  have counted := sound.accepted_length
  constructor
  · by_contra dead
    have finished := sound.finished_of_gone (by simpa using dead)
    rw [(sound.line.ended finished).2.2, finished] at counted
    simp only [Stage.job?, Option.toList, List.length_nil] at counted
    omega
  · rintro ⟨ready, empty⟩
    rw [ready, empty] at counted
    simp only [Stage.job?, Option.toList, List.length_nil] at counted
    omega

theorem settled_range (sound : t.Sound room) :
    t.pipeline.settled.map Prod.fst = List.range t.pipeline.settled.length := by
  have tickets := sound.callers.tickets
  rw [← sound.line.order, ← sound.desk.hands, List.append_assoc, List.map_append] at tickets
  -- The calls settled, in hand and waiting are numbered from zero; the settled ones come first.
  have first := congrArg (List.take t.done.length) tickets
  rw [List.take_left' (by simp), List.take_range, List.map_map] at first
  have few : t.done.length ≤ t.pipeline.nextTicket := by
    have counted := sound.accepted_length
    have settled := sound.settled_length
    omega
  rw [Nat.min_eq_left few] at first
  rw [sound.settled_tickets, sound.settled_length]
  exact first

theorem result?_iff (sound : t.Sound room) (ticket : Nat) (result : Result) :
    t.pipeline.result? ticket = some result ↔
      ∃ e ∈ t.done, e.job.ticket = ticket ∧ e.outcome? = some result := by
  have once : (t.pipeline.settled.map Prod.fst).Nodup := sound.settled_range ▸ List.nodup_range
  have same : (ticket, result) ∈ t.pipeline.settled ↔
      (ticket, some result) ∈ t.done.map (fun e => (e.job.ticket, e.outcome?)) := by
    rw [← sound.desk.results]
    simp
  rw [Pipeline.result?, lookup_iff_mem once, same]
  simp

theorem result?_isSome (sound : t.Sound room) {ticket : Nat}
    (settled : ticket < t.pipeline.settled.length) :
    ∃ result, t.pipeline.result? ticket = some result := by
  have once : (t.pipeline.settled.map Prod.fst).Nodup := sound.settled_range ▸ List.nodup_range
  have listed : ticket ∈ t.pipeline.settled.map Prod.fst :=
    sound.settled_range ▸ List.mem_range.mpr settled
  obtain ⟨⟨_, result⟩, member, rfl⟩ := List.mem_map.mp listed
  exact ⟨result, (lookup_iff_mem once _ _).mpr member⟩

theorem finished_all (sound : t.Sound room) (finished : t.pipeline.stage = .finished) :
    t.pipeline.waiting = [] ∧ t.done.map (·.job) = t.accepted ∧
      ∀ a ∈ t.attempts, a.hasShare = false := by
  obtain ⟨-, unshared, empty⟩ := sound.line.ended finished
  have hands := sound.desk.hands
  have order := sound.line.order
  have shares := sound.callers.shares
  rw [finished] at hands
  rw [empty, List.append_nil] at order
  refine ⟨empty, ?_, ?_⟩
  · rw [← order, ← hands]
    exact (List.append_nil _).symm
  · rw [unshared, eq_comm, List.countP_eq_zero] at shares
    simpa using shares

end Sound

theorem sound_start {credentials : Credentials} {capacity : Nat} {seed : UInt64} {reply : Reply}
    {now : Instant} {p : Pipeline}
    (started : Pipeline.start credentials capacity seed reply now = .ok p) :
    Sound (max capacity 1) { pipeline := p } := by
  obtain ⟨token, -, rfl⟩ := Pipeline.start_ok started
  exact ⟨⟨rfl, List.Perm.refl _, rfl⟩, ⟨rfl, rfl, Nat.zero_le _, nofun⟩, ⟨rfl, rfl, rfl, nofun⟩⟩

end Traffic

end FeedBridge.Trading
