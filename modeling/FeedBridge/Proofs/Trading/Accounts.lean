import FeedBridge.Proofs.Number.Whole
import FeedBridge.Proofs.Trading.Ledger

namespace FeedBridge.Trading

def refusal? : Result → Option Rpc.Refusal
  | .error (.exchange refusal) => some refusal
  | _ => none

theorem outcomeOf_eq_rejected (result : Result) :
    outcomeOf result = .rejected ↔ (refusal? result).isSome := by
  cases result with
  | ok value => simp [outcomeOf, refusal?]
  | error cause => cases cause <;> simp [outcomeOf, refusal?]

@[simp] theorem get_bump (counts : PerOutcome) (outcome other : Outcome) :
    (counts.bump outcome).get other = counts.get other + if outcome = other then 1 else 0 := by
  cases outcome <;> cases other <;> rfl

def Stage.Discounted : Stage → Prop
  | .received _ => False
  | _ => True

namespace Pipeline

inductive Move
  | request (operation : Operation)
  | close
  | dequeue
  | dispatch (now : Instant)
  | hear (reply : Reply) (now : Instant)

def move (p : Pipeline) : Move → Pipeline
  | .request operation => (p.request operation).1
  | .close => p.close
  | .dequeue => p.receive.discount
  | .dispatch now => p.dispatch now
  | .hear reply now => p.reply reply now

def play (p : Pipeline) (moves : List Move) : Pipeline := moves.foldl move p

theorem play_append (p : Pipeline) (moves later : List Move) :
    p.play (moves ++ later) = (p.play moves).play later := List.foldl_append

def granted? (p : Pipeline) : Move → Option Token
  | .hear reply now =>
    match p.stage with
    | .authenticating _ => (tokenOfReply reply now).toOption
    | _ => none
  | _ => none

def grants (p : Pipeline) : List Move → List Token
  | [] => []
  | move :: rest => (p.granted? move).toList ++ (p.move move).grants rest

theorem submit_eq (p : Pipeline) (call : Call) : p.submit call =
    if p.accepting = false ∨ p.hasReceiver = false then (p, .error .queueClosed)
    else if p.waiting.length < p.capacity then
      ((p.announce.enqueue call).countSubmission, .ok p.nextTicket)
    else (p, .error .queueFull) := by
  have unchanged : { p with shares := p.shares + 1 }.announce.withdraw.returnShare = p := by
    simp [announce, withdraw, setDepth, returnShare]
  unfold submit
  cases isOpen : p.accepting with
  | false =>
      have nobody : p.takeShare? = none := by simp [takeShare?, isOpen]
      simp [nobody]
  | true =>
      have shared : p.takeShare? = some { p with shares := p.shares + 1 } := by
        simp [takeShare?, isOpen]
      have same : { p with shares := p.shares + 1 }.announce.answer = p.answer := rfl
      rw [shared]
      dsimp only
      rw [same, unchanged]
      unfold answer
      cases alive : p.hasReceiver with
      | false => simp
      | true =>
          by_cases room : p.waiting.length < p.capacity
          · simp only [Bool.not_true, Bool.false_eq_true, if_false, room, if_true, or_self]
            rfl
          · simp [room]

theorem submit_cases (p : Pipeline) (call : Call) :
    (∃ cause, (cause = .queueFull ∨ cause = .queueClosed) ∧ p.submit call = (p, .error cause)) ∨
    (p.hasReceiver = true ∧ p.waiting.length < p.capacity ∧
      p.submit call = ((p.announce.enqueue call).countSubmission, .ok p.nextTicket)) := by
  rw [submit_eq]
  split_ifs with gone room
  · exact .inl ⟨_, .inr rfl, rfl⟩
  · exact .inr ⟨by simpa using (not_or.mp gone).2, room, rfl⟩
  · exact .inl ⟨_, .inl rfl, rfl⟩

theorem request_cases (p : Pipeline) (operation : Operation) :
    (p.request operation).1 = p ∨ ∃ call, operation.call = .ok call ∧
      (p.request operation).1 = (p.announce.enqueue call).countSubmission := by
  unfold request
  cases operation.call with
  | error cause => exact .inl rfl
  | ok call =>
      rcases p.submit_cases call with ⟨cause, -, refused⟩ | ⟨-, -, accepted⟩
      · exact .inl (congrArg Prod.fst refused)
      · exact .inr ⟨call, rfl, congrArg Prod.fst accepted⟩

/-! ## The balance -/

/-- Every settled call is counted, published and timed as what it came to, and every renewal is
counted and published. -/
structure Recorded (p : Pipeline) : Prop where
  succeeded : p.counters.succeeded = p.metrics.requests.success
  failed : p.counters.failed = p.metrics.requests.rejected + p.metrics.requests.failed
  outcomes : ∀ outcome, p.metrics.requests.get outcome =
    p.settled.countP fun settled => outcomeOf settled.2 = outcome
  timings : p.metrics.timings = p.metrics.requests
  renewals : p.counters.reauthentications = p.metrics.reauthentications

namespace Recorded

variable {p : Pipeline}

theorem settle (recorded : p.Recorded) (job : Job) (result : Result) :
    (p.settle job result).Recorded := by
  have outcomes : ∀ outcome, (p.settle job result).metrics.requests.get outcome =
      (p.settle job result).settled.countP fun settled => outcomeOf settled.2 = outcome := by
    intro outcome
    simp only [Pipeline.settle, countResult, PipelineMetrics.recordRequest, get_bump,
      recorded.outcomes, List.countP_append, List.countP_singleton, decide_eq_true_eq]
  have timings :
      (p.settle job result).metrics.timings = (p.settle job result).metrics.requests := by
    simp only [Pipeline.settle, countResult, PipelineMetrics.recordRequest, recorded.timings]
  have succeeded := recorded.succeeded
  have failed := recorded.failed
  cases result with
  | ok value => exact ⟨congrArg Nat.succ succeeded, failed, outcomes, timings, recorded.renewals⟩
  | error cause =>
      refine ⟨?_, ?_, outcomes, timings, recorded.renewals⟩
      · cases cause <;> exact succeeded
      · cases cause <;> simp [Pipeline.settle, countResult, PipelineMetrics.recordRequest, outcomeOf,
          PerOutcome.bump, failed] <;> omega

theorem renew (recorded : p.Recorded) (token : Token) : (p.renew token).Recorded :=
  { recorded with renewals := congrArg Nat.succ recorded.renewals }

end Recorded

structure Balanced (p : Pipeline) : Prop extends p.Recorded where
  conserved : p.counters.submitted = p.counters.succeeded + p.counters.failed +
    p.stage.job?.toList.length + p.waiting.length
  depth : p.counters.depth = p.waiting.length
  gauge : p.metrics.queueDepth = p.waiting.length
  between : p.stage.Discounted

namespace Balanced

variable {p : Pipeline}

theorem request (balanced : p.Balanced) (operation : Operation) :
    (p.request operation).1.Balanced := by
  rcases p.request_cases operation with same | ⟨call, -, accepted⟩
  · rwa [same]
  · rw [accepted]
    obtain ⟨recorded, conserved, depth, gauge, between⟩ := balanced
    have raised : p.counters.depth + 1 = (p.waiting.length + 1 : Nat) := by
      rw [depth]
      rfl
    refine ⟨{ recorded with }, ?_, ?_, ?_, between⟩
    · simp only [countSubmission, publishDepth, enqueue, announce, setDepth, List.length_append,
        List.length_singleton, conserved]
      omega
    · simpa [countSubmission, publishDepth, enqueue, announce, setDepth] using raised
    · simp only [countSubmission, publishDepth, enqueue, announce, setDepth, raised,
        Int.toNat_natCast, List.length_append, List.length_singleton]

theorem dequeue (balanced : p.Balanced) : p.receive.discount.Balanced := by
  obtain ⟨recorded, conserved, depth, gauge, between⟩ := balanced
  unfold receive
  cases stage : p.stage with
  | received job =>
      rw [stage] at between
      exact between.elim
  | ready =>
      rw [stage] at conserved
      cases queue : p.waiting with
      | nil =>
          rw [queue] at conserved depth gauge
          dsimp only
          split_ifs
          · exact ⟨{ recorded with }, conserved, depth, gauge, True.intro⟩
          · have same : p.discount = p := by simp [discount, stage]
            rw [same]
            exact ⟨recorded, by rw [stage, queue]; exact conserved, by rw [queue]; exact depth,
              by rw [queue]; exact gauge, between⟩
      | cons job rest =>
          rw [queue] at conserved depth
          have lowered : p.counters.depth - 1 = rest.length := by
            rw [depth, List.length_cons]
            omega
          refine ⟨{ recorded with }, ?_, lowered, ?_, True.intro⟩
          · simp only [Stage.job?, Option.toList, List.length_nil, List.length_cons] at conserved
            simp only [discount, publishDepth, setDepth, Stage.job?, Option.toList,
              List.length_singleton, conserved]
            omega
          · simp [discount, publishDepth, setDepth, lowered]
  | dispatching | authenticating | calling | finished | crashed =>
      simp only [discount, stage]
      exact ⟨recorded, conserved, depth, gauge, between⟩

theorem dispatch (balanced : p.Balanced) (now : Instant) : (p.dispatch now).Balanced := by
  unfold Pipeline.dispatch
  cases stage : p.stage with
  | dispatching job =>
      obtain ⟨recorded, conserved, depth, gauge, -⟩ := balanced
      rw [stage] at conserved
      dsimp only
      split_ifs <;> exact ⟨{ recorded with }, conserved, depth, gauge, True.intro⟩
  | _ => exact balanced

theorem settle (balanced : p.Balanced) {job : Job} (inHand : p.stage.job? = some job)
    (result : Result) : (p.settle job result).Balanced := by
  obtain ⟨recorded, conserved, depth, gauge, -⟩ := balanced
  rw [inHand] at conserved
  simp only [Option.toList, List.length_singleton] at conserved
  have settled := recorded.settle job result
  cases result with
  | ok | error =>
      refine ⟨settled, ?_, depth, gauge, True.intro⟩
      simp only [Pipeline.settle, countResult, Stage.job?, Option.toList, List.length_nil, conserved]
      omega

theorem hear (balanced : p.Balanced) (reply : Reply) (now : Instant) :
    (p.reply reply now).Balanced := by
  unfold Pipeline.reply
  cases stage : p.stage with
  | authenticating job =>
      cases tokenOfReply reply now with
      | error cause => exact balanced.settle (by rw [stage]; rfl) _
      | ok token =>
          obtain ⟨recorded, conserved, depth, gauge, -⟩ := balanced
          rw [stage] at conserved
          exact ⟨{ recorded.renew token with }, conserved, depth, gauge, True.intro⟩
  | calling job => exact balanced.settle (by rw [stage]; rfl) _
  | _ => exact balanced

theorem move (balanced : p.Balanced) (move : Move) : (p.move move).Balanced := by
  cases move with
  | request operation => exact balanced.request operation
  | close => exact { balanced with }
  | dequeue => exact balanced.dequeue
  | dispatch now => exact balanced.dispatch now
  | hear reply now => exact balanced.hear reply now

theorem play (balanced : p.Balanced) (moves : List Move) : (p.play moves).Balanced := by
  induction moves generalizing p with
  | nil => exact balanced
  | cons move rest ih => exact ih (balanced.move move)

end Balanced

theorem recorded_start {credentials : Credentials} {capacity : Nat} {seed : UInt64} {reply : Reply}
    {now : Instant} {p : Pipeline}
    (started : Pipeline.start credentials capacity seed reply now = .ok p) : p.Recorded := by
  obtain ⟨token, -, rfl⟩ := Pipeline.start_ok started
  exact ⟨rfl, rfl, fun outcome => by cases outcome <;> rfl, rfl, rfl⟩

theorem balanced_start {credentials : Credentials} {capacity : Nat} {seed : UInt64} {reply : Reply}
    {now : Instant} {p : Pipeline}
    (started : Pipeline.start credentials capacity seed reply now = .ok p) : p.Balanced := by
  have recorded := recorded_start started
  obtain ⟨token, -, rfl⟩ := Pipeline.start_ok started
  exact ⟨recorded, rfl, rfl, rfl, True.intro⟩

theorem renewals_move (p : Pipeline) (move : Move) :
    (p.move move).counters.reauthentications =
      p.counters.reauthentications + (p.granted? move).toList.length := by
  cases move with
  | request operation =>
      have renewals : (p.request operation).1.counters.reauthentications =
          p.counters.reauthentications := by
        rcases p.request_cases operation with same | ⟨call, -, accepted⟩
        · rw [same]
        · rw [accepted]
          rfl
      simpa [Pipeline.move, granted?] using renewals
  | close => rfl
  | dequeue =>
      have received : p.receive.counters = p.counters := by
        unfold receive
        split
        · rfl
        · split_ifs <;> rfl
        · rfl
      have discounted : p.receive.discount.counters.reauthentications =
          p.receive.counters.reauthentications := by
        unfold discount
        split <;> rfl
      rw [received] at discounted
      simpa [Pipeline.move, granted?] using discounted
  | dispatch now =>
      have dispatched : (p.dispatch now).counters = p.counters := by
        unfold Pipeline.dispatch
        split
        · split_ifs <;> rfl
        · rfl
      simp [Pipeline.move, granted?, dispatched]
  | hear reply now =>
      have settled := Traffic.settle_reauthentications p
      unfold Pipeline.move Pipeline.reply granted?
      cases stage : p.stage with
      | authenticating job =>
          cases granted : tokenOfReply reply now with
          | ok token => simp [granted, Except.toOption, postCall, renew]
          | error cause => simp [granted, Except.toOption, settled]
      | calling job => simp [settled]
      | _ => rfl

theorem renewals_play (p : Pipeline) (moves : List Move) :
    (p.play moves).counters.reauthentications =
      p.counters.reauthentications + (p.grants moves).length := by
  induction moves generalizing p with
  | nil => rfl
  | cons move rest ih =>
      rw [play, List.foldl_cons]
      refine (ih (p.move move)).trans ?_
      rw [renewals_move, grants, List.length_append, Nat.add_assoc]

theorem Balanced.refusals {p : Pipeline} (balanced : p.Balanced) :
    p.metrics.requests.rejected = (p.settled.filterMap fun settled => refusal? settled.2).length := by
  have counted := balanced.outcomes .rejected
  rw [List.length_filterMap_eq_countP]
  simpa [PerOutcome.get, outcomeOf_eq_rejected] using counted

/-- After every move since a start: submitted requests are counted as succeeded or failed, or wait,
or are in hand; the depth is that of the queue, and so is its gauge; every outcome is counted once
for each request that came to it, rejected ones being those that the exchange refused, and timed as
often; and tokens are counted as renewed as often as one was granted. -/
theorem accounts_balance {credentials : Credentials} {capacity : Nat} {seed : UInt64} {reply : Reply}
    {now : Instant} {first : Pipeline}
    (started : Pipeline.start credentials capacity seed reply now = .ok first) (moves : List Move) :
    let p := first.play moves
    (p.counters.submitted : Int) = p.counters.succeeded + p.counters.failed + p.counters.depth +
        (if p.stage.job?.isSome then 1 else 0) ∧
      p.counters.depth = p.waiting.length ∧
      p.metrics.queueDepth = p.waiting.length ∧
      (p.waiting.length ≤ twoTo 53 → Metrics.gauge p.metrics.queueDepth = p.waiting.length) ∧
      p.counters.succeeded = p.metrics.requests.success ∧
      p.counters.failed = p.metrics.requests.rejected + p.metrics.requests.failed ∧
      p.metrics.requests.rejected =
        (p.settled.filterMap fun settled => refusal? settled.2).length ∧
      (∀ outcome, p.metrics.requests.get outcome =
        p.settled.countP fun settled => outcomeOf settled.2 = outcome) ∧
      (∀ outcome, p.metrics.timings.get outcome = p.metrics.requests.get outcome) ∧
      p.counters.reauthentications = p.metrics.reauthentications ∧
      p.counters.reauthentications = (first.grants moves).length := by
  intro p
  have balanced : p.Balanced := (balanced_start started).play moves
  have inHand : (p.stage.job?.toList.length : Int) = if p.stage.job?.isSome then 1 else 0 := by
    cases p.stage.job? <;> rfl
  have renewals : p.counters.reauthentications = (first.grants moves).length := by
    have none : first.counters.reauthentications = 0 := by
      obtain ⟨token, -, rfl⟩ := start_ok started
      rfl
    have counted := renewals_play first moves
    rwa [none, Nat.zero_add] at counted
  refine ⟨?_, balanced.depth, balanced.gauge, fun small => ?_, balanced.succeeded, balanced.failed,
    balanced.refusals, balanced.outcomes, fun outcome => ?_, balanced.renewals, renewals⟩
  · have conserved := balanced.conserved
    have depth := balanced.depth
    rw [← inHand, depth]
    omega
  · rw [balanced.gauge]
    exact Metrics.gauge_of_le small
  · rw [balanced.timings]

theorem accounts_balance_of_mixed_outcomes :
    let grant := Json.object [("result", .array [.string "a", .string "r", .nat 900])]
    let refusal := Json.object [("error", .object [("message", .string "no")])]
    let credentials : Credentials := ⟨"k", "s"⟩
    let first : Pipeline := {
      credentials
      capacity := 1
      token := ⟨"a", 900, 0⟩
      nextId := 8
      posts := [tokenPost credentials 7] }
    let call : Move := .request (.cancelOrder "x")
    let late : Instant := tenTo 12
    let moves : List Move := [.request (.cancelOrder ""), call, call, .dequeue, .dispatch 0,
      .hear (.ok refusal) 0, call, .dequeue, .dispatch late, .hear (.ok grant) late,
      .hear (.error (.decode "x")) late, .close, call]
    let p := first.play moves
    Pipeline.start credentials 1 7 (.ok grant) 0 = .ok first ∧
      p.counters = ⟨2, 0, 2, 1, 0⟩ ∧
      p.metrics.requests.rejected = 1 ∧
      p.counters.reauthentications = (first.grants moves).length ∧
      (p.counters.submitted : Int) = p.counters.succeeded + p.counters.failed + p.counters.depth +
        (if p.stage.job?.isSome then 1 else 0) := by
  intro grant refusal credentials first call late moves p
  have started : Pipeline.start credentials 1 7 (.ok grant) 0 = .ok first := rfl
  obtain ⟨balance, -, -, -, -, -, -, -, -, -, renewals⟩ := accounts_balance started moves
  exact ⟨started, by decide +kernel, by decide +kernel, renewals, balance⟩

end Pipeline

end FeedBridge.Trading
