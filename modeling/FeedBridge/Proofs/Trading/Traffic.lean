import FeedBridge.Trading.Pipeline
import Mathlib.Tactic.SplitIfs

/-!
# Traffic through the pipeline

Any number of callers submit while one worker works and somebody may shut the pipeline down. The
sections of all of them follow one another in whatever order a run lists them. Beside the pipeline
stands what an onlooker writes down: which calls were accepted, which were taken, and what each
dispatched call posted and was answered.
-/

namespace FeedBridge.Trading

/-! ## Callers -/

inductive Phase
  -- has a share of the sender
  | sharing
  -- has raised the depth counter
  | announced
  -- has offered the call
  | answered (answer : Except RequestError Nat)
  -- has counted the answer
  | counted (answer : Except RequestError Nat)
  -- has given the share back, or never had one
  | done (answer : Except RequestError Nat)

structure Attempt where
  call : Call
  phase : Phase

structure Pipeline.Undisturbed (p q : Pipeline) : Prop where
  credentials : q.credentials = p.credentials
  capacity : q.capacity = p.capacity
  stage : q.stage = p.stage
  token : q.token = p.token
  nextId : q.nextId = p.nextId
  posts : q.posts = p.posts
  settled : q.settled = p.settled
  renewals : q.counters.reauthentications = p.counters.reauthentications

theorem Pipeline.start_ok {credentials : Credentials} {capacity : Nat} {seed : UInt64}
    {reply : Reply} {now : Instant} {p : Pipeline}
    (started : Pipeline.start credentials capacity seed reply now = .ok p) :
    ∃ token, tokenOfReply reply now = .ok token ∧ p = {
      credentials, token
      capacity := max capacity 1
      nextId := seed + 1
      posts := [tokenPost credentials seed] } := by
  unfold Pipeline.start at started
  cases granted : tokenOfReply reply now with
  | error cause => simp [granted] at started
  | ok token =>
      simp only [granted, Except.ok.injEq] at started
      exact ⟨token, rfl, started.symm⟩

namespace Attempt

def answer? (a : Attempt) : Option (Except RequestError Nat) :=
  match a.phase with
  | .sharing | .announced => none
  | .answered answer | .counted answer | .done answer => some answer

def job? (a : Attempt) : Option Job :=
  match a.answer? with
  | some (.ok ticket) => some ⟨ticket, a.call⟩
  | _ => none

def hasShare (a : Attempt) : Bool :=
  match a.phase with
  | .done _ => false
  | _ => true

def start (p : Pipeline) (call : Call) : Pipeline × Attempt :=
  match p.takeShare? with
  | some shared => (shared, ⟨call, .sharing⟩)
  | none => (p, ⟨call, .done (.error .queueClosed)⟩)

def advance (a : Attempt) (p : Pipeline) : Pipeline × Attempt :=
  match a.phase with
  | .sharing => (p.announce, ⟨a.call, .announced⟩)
  | .announced =>
    match p.answer with
    | .accepted => (p.enqueue a.call, ⟨a.call, .answered (.ok p.nextTicket)⟩)
    | .full => (p, ⟨a.call, .answered (.error .queueFull)⟩)
    | .closed => (p, ⟨a.call, .answered (.error .queueClosed)⟩)
  | .answered (.ok ticket) => (p.countSubmission, ⟨a.call, .counted (.ok ticket)⟩)
  | .answered (.error cause) => (p.withdraw, ⟨a.call, .counted (.error cause)⟩)
  | .counted answer => (p.returnShare, ⟨a.call, .done answer⟩)
  | .done _ => (p, a)

def news (before after : Attempt) : List Job :=
  match before.job? with
  | some _ => []
  | none => after.job?.toList

inductive Advanced (p : Pipeline) (a : Attempt) : Pipeline → Attempt → Prop
  | announce (sharing : a.phase = .sharing) : Advanced p a p.announce ⟨a.call, .announced⟩
  | accept (announced : a.phase = .announced) (alive : p.hasReceiver = true)
      (room : p.waiting.length < p.capacity) :
      Advanced p a (p.enqueue a.call) ⟨a.call, .answered (.ok p.nextTicket)⟩
  | refuse (cause : RequestError) (announced : a.phase = .announced) :
      Advanced p a p ⟨a.call, .answered (.error cause)⟩
  | count (ticket : Nat) (answered : a.phase = .answered (.ok ticket)) :
      Advanced p a p.countSubmission ⟨a.call, .counted (.ok ticket)⟩
  | withdraw (cause : RequestError) (answered : a.phase = .answered (.error cause)) :
      Advanced p a p.withdraw ⟨a.call, .counted (.error cause)⟩
  | leave (answer : Except RequestError Nat) (counted : a.phase = .counted answer) :
      Advanced p a p.returnShare ⟨a.call, .done answer⟩
  | stay (answer : Except RequestError Nat) (ended : a.phase = .done answer) : Advanced p a p a

theorem advanced {p q : Pipeline} {a b : Attempt} (next : a.advance p = (q, b)) :
    Advanced p a q b := by
  have whole : Advanced p a (a.advance p).1 (a.advance p).2 := by
    unfold advance
    rcases phase : a.phase with _ | _ | (cause | ticket) | answer | answer
    · exact .announce phase
    · unfold Pipeline.answer
      split_ifs with gone room
      · exact .refuse .queueClosed phase
      · exact .accept phase (by simpa using gone) room
      · exact .refuse .queueFull phase
    · exact .withdraw cause phase
    · exact .count ticket phase
    · exact .leave answer phase
    · exact .stay answer phase
  rw [next] at whole
  exact whole

theorem news_of_same {a b : Attempt} (same : b.job? = a.job?) : a.news b = [] := by
  unfold news
  rw [same]
  cases a.job? <;> rfl

theorem Advanced.accepts {p q : Pipeline} {a b : Attempt} (advanced : Advanced p a q b) :
    (b.job? = a.job? ∧ q.waiting = p.waiting ∧ q.nextTicket = p.nextTicket) ∨
      (a.job? = none ∧ b.job? = some ⟨p.nextTicket, a.call⟩ ∧ q = p.enqueue a.call ∧
        p.hasReceiver = true ∧ p.waiting.length < p.capacity) := by
  cases advanced with
  | accept announced alive room =>
      refine .inr ⟨?_, rfl, rfl, alive, room⟩
      simp only [job?, answer?, announced]
  | announce sharing => exact .inl ⟨by simp only [job?, answer?, sharing], rfl, rfl⟩
  | refuse cause announced => exact .inl ⟨by simp only [job?, answer?, announced], rfl, rfl⟩
  | count ticket answered => exact .inl ⟨by simp only [job?, answer?, answered], rfl, rfl⟩
  | withdraw cause answered => exact .inl ⟨by simp only [job?, answer?, answered], rfl, rfl⟩
  | leave answer counted => exact .inl ⟨by simp only [job?, answer?, counted], rfl, rfl⟩
  | stay answer ended => exact .inl ⟨rfl, rfl, rfl⟩

theorem Advanced.undisturbed {p q : Pipeline} {a b : Attempt} (advanced : Advanced p a q b) :
    p.Undisturbed q ∧ q.accepting = p.accepting := by
  cases advanced <;> exact ⟨⟨rfl, rfl, rfl, rfl, rfl, rfl, rfl, rfl⟩, rfl⟩

theorem Advanced.shares {p q : Pipeline} {a b : Attempt} (advanced : Advanced p a q b) :
    (b.hasShare = a.hasShare ∧ q.shares = p.shares) ∨
      (a.hasShare = true ∧ b.hasShare = false ∧ q.shares = p.shares - 1) := by
  cases advanced with
  | announce sharing => exact .inl ⟨by simp only [hasShare, sharing], rfl⟩
  | accept announced | refuse _ announced => exact .inl ⟨by simp only [hasShare, announced], rfl⟩
  | count _ answered | withdraw _ answered => exact .inl ⟨by simp only [hasShare, answered], rfl⟩
  | leave answer counted => exact .inr ⟨by simp only [hasShare, counted], rfl, rfl⟩
  | stay answer ended => exact .inl ⟨rfl, rfl⟩

theorem advance_to_end (p : Pipeline) (call : Call) :
    let next (s : Pipeline × Attempt) := s.2.advance s.1
    let last := next (next (next (next (start p call))))
    last.1 = (p.submit call).1 ∧ last.2.answer? = some (p.submit call).2 := by
  unfold start Pipeline.submit
  cases p.takeShare? with
  | none => exact ⟨rfl, rfl⟩
  | some shared =>
      simp only [advance]
      cases shared.announce.answer <;> exact ⟨rfl, rfl⟩

end Attempt

/-- A dispatched call: the token that was there, what was posted, and what came back. -/
structure Execution where
  job : Job
  token : Token
  dispatched : Instant
  posts : List Post
  grant : Option (Reply × Instant) := none
  answer : Option Reply := none

namespace Execution

def hear (e : Execution) (stage : Stage) (reply : Reply) (now : Instant) (posts : List Post) :
    Execution :=
  match stage with
  | .authenticating _ => { e with grant := some (reply, now), posts := e.posts ++ posts }
  | _ => { e with answer := some reply, posts := e.posts ++ posts }

def due (e : Execution) : Bool := e.token.needsRefresh e.dispatched

def renewal? (e : Execution) : Option (Except AuthError Token) :=
  e.grant.map fun (reply, now) => tokenOfReply reply now

def outcome? (e : Execution) : Option Result :=
  match e.renewal? with
  | some (.error cause) => some (.error (.authentication cause))
  | _ => e.answer.map resultOfReply

end Execution

/-! ## Everybody together -/

structure Traffic where
  pipeline : Pipeline
  attempts : List Attempt := []
  accepted : List Job := []
  taken : List Job := []
  -- the executions that are over, the first one first
  done : List Execution := []
  current : Option Execution := none

namespace Traffic

def executions (t : Traffic) : List Execution := t.done ++ t.current.toList

def begin (t : Traffic) (call : Call) : Traffic :=
  let (pipeline, attempt) := Attempt.start t.pipeline call
  { t with pipeline, attempts := t.attempts ++ [attempt] }

def advance (t : Traffic) (caller : Nat) : Traffic :=
  match t.attempts[caller]? with
  | none => t
  | some before =>
    let (pipeline, after) := before.advance t.pipeline
    { t with
      pipeline
      attempts := t.attempts.set caller after
      accepted := t.accepted ++ before.news after }

def work (t : Traffic) (now : Instant) (reply : Reply) : Traffic :=
  match t.pipeline.stage with
  | .ready =>
    let after := t.pipeline.receive
    { t with pipeline := after, taken := t.taken ++ after.stage.job?.toList }
  | .received _ => { t with pipeline := t.pipeline.discount }
  | .dispatching job =>
    let after := t.pipeline.dispatch now
    let posts := after.posts.drop t.pipeline.posts.length
    { t with pipeline := after, current := some ⟨job, t.pipeline.token, now, posts, none, none⟩ }
  | .authenticating _ | .calling _ =>
    let after := t.pipeline.reply reply now
    let posts := after.posts.drop t.pipeline.posts.length
    let heard := t.current.map (·.hear t.pipeline.stage reply now posts)
    match after.stage with
    | .ready => { t with pipeline := after, done := t.done ++ heard.toList, current := none }
    | _ => { t with pipeline := after, current := heard }
  | .finished | .crashed => t

inductive Step
  | begin (call : Call)
  | advance (caller : Nat)
  | work (now : Instant) (reply : Reply)
  | shutdown
  -- a caller does not wait for its ticket any more; an answer that comes then is let go
  | release (ticket : Nat)

def step (t : Traffic) : Step → Traffic
  | .begin call => t.begin call
  | .advance caller => t.advance caller
  | .work now reply => t.work now reply
  | .shutdown => { t with pipeline := t.pipeline.close }
  | .release _ => t

def run (t : Traffic) (steps : List Step) : Traffic := steps.foldl step t

@[simp] theorem step_begin (t : Traffic) (call : Call) : t.step (.begin call) = t.begin call := rfl

@[simp] theorem step_advance (t : Traffic) (caller : Nat) :
    t.step (.advance caller) = t.advance caller := rfl

@[simp] theorem step_work (t : Traffic) (now : Instant) (reply : Reply) :
    t.step (.work now reply) = t.work now reply := rfl

@[simp] theorem run_nil (t : Traffic) : t.run [] = t := rfl

@[simp] theorem run_cons (t : Traffic) (step : Step) (rest : List Step) :
    t.run (step :: rest) = (t.step step).run rest := rfl

theorem work_of_finished {t : Traffic} (finished : t.pipeline.stage = .finished) (now : Instant)
    (reply : Reply) : t.work now reply = t := by
  simp only [work, finished]

def Step.isWork : Step → Bool
  | .work _ _ => true
  | _ => false

theorem Step.work_or_idle (step : Step) :
    (∃ now reply, step = .work now reply) ∨ step.isWork = false := by
  cases step with
  | work now reply => exact .inl ⟨now, reply, rfl⟩
  | _ => exact .inr rfl

theorem begin_cases (t : Traffic) (call : Call) :
    (t.pipeline.accepting = true ∧ t.begin call = { t with
      pipeline := { t.pipeline with shares := t.pipeline.shares + 1 }
      attempts := t.attempts ++ [⟨call, .sharing⟩] }) ∨
    (t.pipeline.accepting = false ∧ t.begin call = { t with
      attempts := t.attempts ++ [⟨call, .done (.error .queueClosed)⟩] }) := by
  cases isOpen : t.pipeline.accepting with
  | true =>
      refine .inl ⟨rfl, ?_⟩
      simp [begin, Attempt.start, Pipeline.takeShare?, isOpen]
  | false =>
      refine .inr ⟨rfl, ?_⟩
      simp [begin, Attempt.start, Pipeline.takeShare?, isOpen]

theorem advance_cases (t : Traffic) (caller : Nat) :
    t.advance caller = t ∨
    ∃ a q b, t.attempts[caller]? = some a ∧ Attempt.Advanced t.pipeline a q b ∧
      t.advance caller = { t with
        pipeline := q
        attempts := t.attempts.set caller b
        accepted := t.accepted ++ a.news b } := by
  cases found : t.attempts[caller]? with
  | none =>
      left
      simp only [advance, found]
  | some a =>
      obtain ⟨q, b, next⟩ : ∃ q b, a.advance t.pipeline = (q, b) := ⟨_, _, rfl⟩
      refine .inr ⟨a, q, b, rfl, Attempt.advanced next, ?_⟩
      simp only [advance, found, next]

theorem advance_last {t : Traffic} {earlier : List Attempt} {last : Attempt}
    (attempts : t.attempts = earlier ++ [last]) :
    let next := t.advance earlier.length
    next.pipeline = (last.advance t.pipeline).1 ∧
      next.attempts = earlier ++ [(last.advance t.pipeline).2] := by
  intro next
  simp [next, advance, attempts]

theorem pipeline_submit (t : Traffic) (call : Call) :
    (t.run (.begin call :: List.replicate 4 (.advance t.attempts.length))).pipeline =
      (t.pipeline.submit call).1 := by
  have begun : (t.begin call).attempts = t.attempts ++ [(Attempt.start t.pipeline call).2] := rfl
  obtain ⟨pipeline, first⟩ := advance_last begun
  obtain ⟨pipeline', second⟩ := advance_last first
  obtain ⟨pipeline'', third⟩ := advance_last second
  obtain ⟨last, -⟩ := advance_last third
  have whole := (Attempt.advance_to_end t.pipeline call).1
  rw [pipeline'', pipeline', pipeline] at last
  exact last.trans whole

theorem step_undisturbed (t : Traffic) {step : Step} (idle : step.isWork = false) :
    t.pipeline.Undisturbed (t.step step).pipeline ∧ (t.step step).taken = t.taken ∧
      (t.step step).done = t.done ∧ (t.step step).current = t.current := by
  have same : t.pipeline.Undisturbed t.pipeline := ⟨rfl, rfl, rfl, rfl, rfl, rfl, rfl, rfl⟩
  cases step with
  | begin call =>
      rw [step_begin]
      rcases begin_cases t call with ⟨-, begun⟩ | ⟨-, begun⟩
      · rw [begun]
        exact ⟨⟨rfl, rfl, rfl, rfl, rfl, rfl, rfl, rfl⟩, rfl, rfl, rfl⟩
      · rw [begun]
        exact ⟨same, rfl, rfl, rfl⟩
  | advance caller =>
      rw [step_advance]
      rcases advance_cases t caller with stays | ⟨a, q, b, -, advanced, next⟩
      · rw [stays]
        exact ⟨same, rfl, rfl, rfl⟩
      · rw [next]
        exact ⟨advanced.undisturbed.1, rfl, rfl, rfl⟩
  | work now reply => cases idle
  | shutdown => exact ⟨⟨rfl, rfl, rfl, rfl, rfl, rfl, rfl, rfl⟩, rfl, rfl, rfl⟩
  | release ticket => exact ⟨same, rfl, rfl, rfl⟩

/-! ## What the worker can do -/

inductive Worked (t : Traffic) (now : Instant) (reply : Reply) : Traffic → Prop
  | gone (dead : t.pipeline.hasReceiver = false) : Worked t now reply t
  | idle (ready : t.pipeline.stage = .ready) (empty : t.pipeline.waiting = [])
      (isOpen : (!t.pipeline.accepting && t.pipeline.shares = 0) = false) : Worked t now reply t
  | finish (ready : t.pipeline.stage = .ready) (empty : t.pipeline.waiting = [])
      (closed : t.pipeline.accepting = false) (unshared : t.pipeline.shares = 0) :
      Worked t now reply { t with pipeline := { t.pipeline with stage := .finished } }
  | receive (job : Job) (rest : List Job) (ready : t.pipeline.stage = .ready)
      (queue : t.pipeline.waiting = job :: rest) :
      Worked t now reply { t with
        pipeline := { t.pipeline with stage := .received job, waiting := rest }
        taken := t.taken ++ [job] }
  | discount (job : Job) (received : t.pipeline.stage = .received job) :
      Worked t now reply { t with
        pipeline := { t.pipeline.setDepth (t.pipeline.counters.depth - 1) with
          stage := .dispatching job }.publishDepth }
  | askToken (job : Job) (dispatching : t.pipeline.stage = .dispatching job)
      (due : t.pipeline.token.needsRefresh now = true) :
      Worked t now reply { t with
        pipeline := t.pipeline.postToken job
        current := some ⟨job, t.pipeline.token, now,
          [tokenPost t.pipeline.credentials t.pipeline.nextId], none, none⟩ }
  | call (job : Job) (dispatching : t.pipeline.stage = .dispatching job)
      (fresh : t.pipeline.token.needsRefresh now = false) :
      Worked t now reply { t with
        pipeline := t.pipeline.postCall job
        current := some ⟨job, t.pipeline.token, now,
          [callPost job.call t.pipeline.nextId t.pipeline.token.accessToken], none, none⟩ }
  | renew (job : Job) (token : Token) (authenticating : t.pipeline.stage = .authenticating job)
      (granted : tokenOfReply reply now = .ok token) :
      Worked t now reply { t with
        pipeline := (t.pipeline.renew token).postCall job
        current := t.current.map fun e => { e with
          grant := some (reply, now)
          posts := e.posts ++ [callPost job.call t.pipeline.nextId token.accessToken] } }
  | refuse (job : Job) (cause : AuthError) (authenticating : t.pipeline.stage = .authenticating job)
      (refused : tokenOfReply reply now = .error cause) :
      Worked t now reply { t with
        pipeline := t.pipeline.settle job (.error (.authentication cause))
        done := t.done ++ (t.current.map fun e => { e with grant := some (reply, now) }).toList
        current := none }
  | settle (job : Job) (calling : t.pipeline.stage = .calling job) :
      Worked t now reply { t with
        pipeline := t.pipeline.settle job (resultOfReply reply)
        done := t.done ++ (t.current.map fun e => { e with answer := some reply }).toList
        current := none }

theorem worked (t : Traffic) (now : Instant) (reply : Reply) :
    Worked t now reply (t.work now reply) := by
  cases stage : t.pipeline.stage with
  | ready =>
      cases queue : t.pipeline.waiting with
      | nil =>
          by_cases drained : !t.pipeline.accepting && t.pipeline.shares = 0
          · have ends := drained
            simp only [Bool.and_eq_true, Bool.not_eq_true', decide_eq_true_eq] at ends
            simpa [work, Pipeline.receive, stage, queue, drained, Stage.job?] using
              Worked.finish stage queue ends.1 ends.2
          · have stays : t.work now reply = t := by
              simp [work, Pipeline.receive, stage, queue, drained, Stage.job?]
            rw [stays]
            exact .idle stage queue (by simpa using drained)
      | cons job rest =>
          simpa [work, Pipeline.receive, stage, queue, Stage.job?] using
            Worked.receive job rest stage queue
  | received job => simpa [work, Pipeline.discount, stage] using Worked.discount job stage
  | dispatching job =>
      cases due : t.pipeline.token.needsRefresh now with
      | true =>
          simpa [work, Pipeline.dispatch, stage, due, Pipeline.postToken] using
            Worked.askToken job stage due
      | false =>
          simpa [work, Pipeline.dispatch, stage, due, Pipeline.postCall] using
            Worked.call job stage due
  | authenticating job =>
      cases answer : tokenOfReply reply now with
      | ok token =>
          simpa [work, Pipeline.reply, stage, answer, Pipeline.renew, Pipeline.postCall, Execution.hear]
            using Worked.renew job token stage answer
      | error cause =>
          simpa [work, Pipeline.reply, stage, answer, Pipeline.settle, Pipeline.countResult,
            Execution.hear] using Worked.refuse job cause stage answer
  | calling job =>
      simpa [work, Pipeline.reply, stage, Pipeline.settle, Pipeline.countResult, Execution.hear]
        using Worked.settle job stage
  | finished | crashed =>
      have stays : t.work now reply = t := by simp [work, stage]
      rw [stays]
      exact .gone (by simp [Pipeline.hasReceiver, stage])

end Traffic

end FeedBridge.Trading
