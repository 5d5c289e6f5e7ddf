import FeedBridge.Proofs.Trading.Accounts
import FeedBridge.Proofs.Trading.Composition
import FeedBridge.Proofs.Trading.Discipline
import FeedBridge.Proofs.Trading.Queue

namespace FeedBridge.Trading

namespace Operation

def checks : Operation → List Check
  | placeOrder instrument side type amount price _ =>
    Order.checks instrument side type amount price
  | modifyOrder orderId _ amount => [.nonempty "order_id" orderId, .positive amount]
  | cancelOrder orderId | orderState orderId => [.nonempty "order_id" orderId]
  | orderBook instrument | describeInstrument instrument => [.nonempty "instrument" instrument]
  | listInstruments currency kind => [.nonempty "currency" currency, .nonempty "kind" kind]
  | positions currency => [.nonempty "currency" currency]
  | activeOrders | anyCall _ => []

def method : Operation → String
  | placeOrder _ side _ _ _ _ => "private/" ++ side
  | cancelOrder _ => "private/cancel"
  | modifyOrder _ _ _ => "private/edit"
  | activeOrders => "private/get_open_orders"
  | orderState _ => "private/get_order_state"
  | orderBook _ => "public/get_order_book"
  | describeInstrument _ => "public/get_instrument"
  | listInstruments _ _ => "public/get_instruments"
  | positions _ => "private/get_positions"
  | anyCall call => call.method

def Encodes : Operation → Json → Prop
  | placeOrder instrument _ type amount price reduceOnly =>
    (·.IsObjectOf (Order.members instrument type amount price reduceOnly))
  | modifyOrder orderId price amount => (·.IsObjectOf [("order_id", .string orderId),
      ("price", Order.amountJson price), ("amount", Order.amountJson amount)])
  | cancelOrder orderId | orderState orderId => (·.IsObjectOf [("order_id", .string orderId)])
  | activeOrders => (·.IsObjectOf [("type", .string "all")])
  | orderBook instrument =>
    (·.IsObjectOf [("instrument_name", .string instrument), ("depth", .nat 1)])
  | describeInstrument instrument => (·.IsObjectOf [("instrument_name", .string instrument)])
  | listInstruments currency kind => (·.IsObjectOf
      [("currency", .string currency), ("kind", .string kind), ("expired", .bool false)])
  | positions currency => (·.IsObjectOf [("currency", .string currency)])
  | anyCall call => (· = call.params)

structure Asks (operation : Operation) (call : Call) : Prop where
  method : call.method = operation.method
  params : operation.Encodes call.params

theorem call_follows (operation : Operation) :
    Follows operation.call operation.checks operation.Asks := by
  cases operation with
  | placeOrder instrument side type amount price reduceOnly =>
      have inRow : checks (.placeOrder instrument side type amount price reduceOnly) =
          Order.checks instrument side type amount price ++ [] := (List.append_nil _).symm
      rw [inRow]
      refine Order.compose_follows.bind fun o composed => Follows.ok ⟨?_, ?_⟩
      · rw [method, ← composed.side]
        cases o.side <;> rfl
      · change Json.IsObjectOf (.ofMembers o.params) _
        rw [composed.params_eq]
        exact Json.isObjectOf_ofMembers Order.distinct_members
  | modifyOrder orderId price amount =>
      refine (Amendment.compose_follows orderId price amount).bind fun a same =>
        Follows.ok ⟨rfl, ?_⟩
      have whole : (Json.ofMembers a.params).IsObjectOf a.params :=
        Json.isObjectOf_ofMembers (by simp [Amendment.params])
      obtain ⟨sorted, encoded, arranged⟩ := whole
      subst same
      exact ⟨sorted, encoded, arranged.trans ((List.Perm.swap _ _ _).cons _)⟩
  | cancelOrder orderId | orderState orderId =>
      exact (require_follows "order_id" orderId).bind fun _ _ =>
        Follows.ok ⟨rfl, Json.isObjectOf_ofMembers (by simp)⟩
  | activeOrders => exact Follows.ok ⟨rfl, Json.isObjectOf_ofMembers (by simp)⟩
  | orderBook instrument | describeInstrument instrument =>
      exact (require_follows "instrument" instrument).bind fun _ _ =>
        Follows.ok ⟨rfl, Json.isObjectOf_ofMembers (by simp)⟩
  | listInstruments currency kind =>
      exact (require_follows "currency" currency).bind fun _ _ =>
        (require_follows "kind" kind).bind fun _ _ =>
          Follows.ok ⟨rfl, Json.isObjectOf_ofMembers (by simp)⟩
  | positions currency =>
      exact (require_follows "currency" currency).bind fun _ _ =>
        Follows.ok ⟨rfl, Json.isObjectOf_ofMembers (by simp)⟩
  | anyCall call => exact Follows.ok ⟨rfl, rfl⟩

end Operation

namespace Pipeline

def withCall (q : Pipeline) (call : Call) : Pipeline :=
  { q with
    waiting := q.waiting ++ [⟨q.nextTicket, call⟩]
    nextTicket := q.nextTicket + 1
    counters :=
      { q.counters with
        submitted := q.counters.submitted + 1
        depth := q.counters.depth + 1 }
    metrics := { q.metrics with queueDepth := (q.counters.depth + 1).toNat } }

/-- What an operation is told that is requested of the pipeline in this state, and what becomes of
the pipeline. -/
structure Answers (q : Pipeline) (operation : Operation) : Prop where
  invalid : ∀ cause, FirstViolated operation.checks cause →
    q.request operation = (q, .error (.invalidArgument cause))
  closed : AllHold operation.checks → q.accepting = false ∨ q.hasReceiver = false →
    q.request operation = (q, .error .queueClosed)
  full : AllHold operation.checks → q.accepting = true → q.hasReceiver = true →
    q.capacity ≤ q.waiting.length → q.request operation = (q, .error .queueFull)
  queued : AllHold operation.checks → q.accepting = true → q.hasReceiver = true →
    q.waiting.length < q.capacity →
      ∃ call, operation.Asks call ∧ q.request operation = (q.withCall call, .ok q.nextTicket)

theorem answers (q : Pipeline) (operation : Operation) : q.Answers operation := by
  have follows := operation.call_follows
  have submitted (passed : AllHold operation.checks) :
      ∃ call, operation.Asks call ∧ q.request operation = q.submit call := by
    obtain ⟨call, composed, asks⟩ := follows.succeeds passed
    exact ⟨call, asks, by simp only [request, composed]⟩
  constructor
  · intro cause violated
    simp only [request, follows.fails cause violated]
  · intro passed gone
    obtain ⟨call, -, requested⟩ := submitted passed
    rw [requested, submit_eq, if_pos gone]
  · intro passed accepting alive full
    obtain ⟨call, -, requested⟩ := submitted passed
    rw [requested, submit_eq, if_neg (by simp [accepting, alive]), if_neg (Nat.not_lt.mpr full)]
  · intro passed accepting alive room
    obtain ⟨call, asks, requested⟩ := submitted passed
    refine ⟨call, asks, ?_⟩
    rw [requested, submit_eq, if_neg (by simp [accepting, alive]), if_pos room]
    rfl

theorem request_ok {q next : Pipeline} {operation : Operation} {ticket : Nat}
    (accepted : q.request operation = (next, .ok ticket)) :
    ticket = q.nextTicket ∧ ∃ call, operation.Asks call ∧ next = q.withCall call ∧
      next = (q.submit call).1 := by
  unfold request at accepted
  cases composed : operation.call with
  | error cause => simp [composed] at accepted
  | ok call =>
      have asks := operation.call_follows.good_of_ok composed
      simp only [composed] at accepted
      rcases q.submit_cases call with ⟨cause, -, refused⟩ | ⟨-, -, queued⟩
      · simp [refused] at accepted
      · obtain ⟨rfl, issued⟩ := Prod.ext_iff.mp (queued.symm.trans accepted)
        exact ⟨(Except.ok.inj issued).symm, call, asks, rfl, (congrArg Prod.fst queued).symm⟩

end Pipeline

/-! ## Posts -/

/-- A post that asks the exchange for an operation. -/
structure Post.Sends (post : Post) (operation : Operation) : Prop where
  path : post.path = "/api/v2/" ++ operation.method
  authorised : post.bearer.isSome
  body : ∃ (id : UInt64) (params : Json), operation.Encodes params ∧
    post.body.IsObjectOf [("jsonrpc", .string "2.0"), ("id", .nat id.toNat),
      ("method", .string operation.method), ("params", params)]

theorem Operation.Asks.sends {operation : Operation} {call : Call} (asks : operation.Asks call)
    (id : UInt64) (accessToken : String) : (callPost call id accessToken).Sends operation := by
  refine ⟨?_, rfl, id, call.params, asks.params, ?_⟩
  · rw [← asks.method]
    rfl
  · have distinct : ((Rpc.Request.mk id call.method call.params).members.map Prod.fst).Nodup := by
      simp [Rpc.Request.members]
    rw [← asks.method]
    exact Json.isObjectOf_ofMembers distinct

namespace Traffic

variable {t : Traffic} {room : Nat} {credentials : Credentials} {seed : UInt64} {initial : Token}

def callPosts (t : Traffic) (ticket : Nat) : List Post :=
  ((t.executions.filter (·.job.ticket = ticket)).flatMap (·.posts)).filter
    fun post => !post.asksForToken

theorem Sound.executions_accepted (sound : t.Sound room) :
    t.executions.map (·.job) <+: t.accepted := by
  have inHand : t.current.toList.map (·.job) <+: t.pipeline.stage.job?.toList := by
    have awaits := sound.desk.awaits
    cases current : t.current with
    | none => exact List.nil_prefix
    | some e =>
        rw [current] at awaits
        cases stage : t.pipeline.stage with
        | authenticating job | calling job =>
            rw [stage] at awaits
            obtain ⟨_, ⟨⟩, same, -⟩ := awaits
            simp [Stage.job?, same]
        | _ =>
            rw [stage] at awaits
            cases awaits
  rw [← sound.line.order, ← sound.desk.hands, List.append_assoc, executions, List.map_append]
  exact (List.prefix_append_right_inj _).mpr (inHand.trans (List.prefix_append _ _))

theorem Sound.executions_of (sound : t.Sound room) {job : Job} (accepted : job ∈ t.accepted) :
    t.executions.filter (·.job.ticket = job.ticket) = [] ∨
      ∃ e, t.executions.filter (·.job.ticket = job.ticket) = [e] ∧ e.job = job := by
  have once : (t.accepted.map Job.ticket).Nodup := sound.callers.tickets ▸ List.nodup_range
  have part := sound.executions_accepted
  have few : (t.executions.filter (·.job.ticket = job.ticket)).length ≤ 1 := by
    have counted := List.nodup_iff_count_le_one.mp
      (once.sublist (part.sublist.map Job.ticket)) job.ticket
    rw [List.map_map, List.count_eq_countP, List.countP_map, List.countP_eq_length_filter] at counted
    exact counted
  cases found : t.executions.filter (·.job.ticket = job.ticket) with
  | nil => exact .inl rfl
  | cons e rest =>
      rw [found, List.length_cons] at few
      obtain rfl : rest = [] := List.eq_nil_of_length_eq_zero (by omega)
      refine .inr ⟨e, rfl, ?_⟩
      have listed : e ∈ t.executions.filter (·.job.ticket = job.ticket) :=
        found ▸ List.mem_singleton_self e
      obtain ⟨executed, same⟩ := List.mem_filter.mp listed
      have own : e.job ∈ t.accepted := part.subset (List.mem_map_of_mem executed)
      exact List.inj_on_of_nodup_map once own accepted (by simpa using same)

theorem callPosts_of_single {ticket : Nat} {e : Execution}
    (single : t.executions.filter (·.job.ticket = ticket) = [e]) :
    t.callPosts ticket = e.posts.filter fun post => !post.asksForToken := by
  rw [callPosts, single, List.flatMap_singleton]

structure Sends (t : Traffic) (ticket : Nat) (operation : Operation) : Prop where
  posted : (t.callPosts ticket).Sublist t.pipeline.posts
  once : (t.callPosts ticket).length ≤ 1
  faithful : ∀ post ∈ t.callPosts ticket, post.Sends operation

theorem Ledger.sends (ledger : t.Ledger credentials seed initial) (sound : t.Sound room)
    {job : Job} (accepted : job ∈ t.accepted) {operation : Operation}
    (asks : operation.Asks job.call) : t.Sends job.ticket operation := by
  have posted : (t.callPosts job.ticket).Sublist t.pipeline.posts := by
    rw [ledger.posts]
    exact (List.filter_sublist.trans (List.filter_sublist.flatMap _)).cons _
  rcases sound.executions_of accepted with nothing | ⟨e, single, rfl⟩
  · have silent : t.callPosts job.ticket = [] := by simp [callPosts, nothing]
    exact ⟨posted, by simp [silent], by simp [silent]⟩
  · have listed : e ∈ t.executions := List.mem_of_mem_filter (single ▸ List.mem_singleton_self e)
    obtain ⟨-, id, -, calls⟩ := (ledger.posted e listed).filter
    rw [← callPosts_of_single single] at calls
    refine ⟨posted, ?_, ?_⟩
    · rw [calls]
      cases e.bearer? <;> simp
    · intro post sent
      rw [calls, Option.mem_toList, Option.map_eq_some_iff] at sent
      obtain ⟨token, -, rfl⟩ := sent
      exact asks.sends id token.accessToken

theorem Ledger.sent_of_settled (ledger : t.Ledger credentials seed initial) (sound : t.Sound room)
    {job : Job} (accepted : job ∈ t.accepted)
    (settled : job.ticket < t.pipeline.settled.length) :
    ∃ result, t.pipeline.result? job.ticket = some result ∧
      ((∃ cause, result = .error (.authentication cause)) ∧ t.callPosts job.ticket = [] ∨
        ∃ post, t.callPosts job.ticket = [post]) := by
  obtain ⟨result, resolved⟩ := sound.result?_isSome settled
  obtain ⟨e, done, own, outcome⟩ := (sound.result?_iff _ _).mp resolved
  have listed : e ∈ t.executions := List.mem_append_left _ done
  have found : e ∈ t.executions.filter (·.job.ticket = job.ticket) :=
    List.mem_filter.mpr ⟨listed, by simpa using own⟩
  have single : t.executions.filter (·.job.ticket = job.ticket) = [e] := by
    rcases sound.executions_of accepted with nothing | ⟨other, single, -⟩
    · rw [nothing] at found
      cases found
    · rw [single, List.mem_singleton] at found
      rw [single, found]
  have posted := ledger.posted e listed
  have calls := callPosts_of_single single
  refine ⟨result, resolved, ?_⟩
  by_cases refused : ∃ cause, e.renewal? = some (.error cause)
  · obtain ⟨cause, refused⟩ := refused
    rw [Execution.outcome?_of_refused refused] at outcome
    refine .inl ⟨⟨cause, (Option.some.inj outcome).symm⟩, ?_⟩
    rw [calls, List.filter_eq_nil_iff]
    simpa using posted.asks_only refused
  · obtain ⟨-, id, -, made⟩ := posted.filter
    rw [posted.bearer rfl (ledger.asked e done) (not_exists.mp refused)] at made
    exact .inr ⟨_, calls.trans made⟩

theorem accepting_step (t : Traffic) (step : Step) :
    (t.step step).pipeline.accepting = false ↔ t.pipeline.accepting = false ∨ step = .shutdown := by
  cases step with
  | begin call =>
      rw [step_begin]
      rcases begin_cases t call with ⟨-, begun⟩ | ⟨-, begun⟩ <;> simp [begun]
  | advance caller =>
      rw [step_advance]
      rcases advance_cases t caller with stays | ⟨a, q, b, -, advanced, next⟩
      · simp [stays]
      · simp [next, advanced.undisturbed.2]
  | work now reply =>
      have worked := worked t now reply
      rw [step_work]
      generalize t.work now reply = next at worked ⊢
      have same : next.pipeline.accepting = t.pipeline.accepting := by cases worked <;> rfl
      simp [same]
  | shutdown => simp [step, Pipeline.close]
  | release ticket => simp [step]

theorem accepting_run (t : Traffic) (steps : List Step) :
    (t.run steps).pipeline.accepting = false ↔
      t.pipeline.accepting = false ∨ .shutdown ∈ steps := by
  induction steps generalizing t with
  | nil => simp
  | cons step rest ih =>
      rw [run_cons, ih, accepting_step, List.mem_cons, or_assoc, eq_comm (a := step)]

theorem taken_run_idle (t : Traffic) {steps : List Step}
    (idle : ∀ step ∈ steps, step.isWork = false) : (t.run steps).taken = t.taken := by
  induction steps generalizing t with
  | nil => rfl
  | cons step rest ih =>
      obtain ⟨first, others⟩ := List.forall_mem_cons.mp idle
      exact (ih (t.step step) others).trans (step_undisturbed t first).2.1

theorem Sound.accepted_submit (sound : t.Sound room) {call : Call}
    (queued : (t.pipeline.submit call).1 = t.pipeline.withCall call) :
    (t.run (.begin call :: List.replicate 4 (.advance t.attempts.length))).accepted =
      t.accepted ++ [⟨t.pipeline.nextTicket, call⟩] := by
  have idle : ∀ step ∈ Step.begin call :: List.replicate 4 (.advance t.attempts.length),
      step.isWork = false := by simp [Step.isWork]
  have later := sound.run (.begin call :: List.replicate 4 (.advance t.attempts.length))
  rw [← later.line.order, ← sound.line.order, taken_run_idle t idle, pipeline_submit, queued,
    List.append_assoc]
  rfl

/-- An operation with a bad argument is told about the first one in every state of the pipeline,
and changes nothing. Without one it changes nothing either when it comes after a shutdown or while
the queue is full, and otherwise one call waits under a ticket of its own. Whatever happens later,
at most one post is made of this call; it has the method, the path and the members of the operation;
and after so many sections of the worker it has been made, or no token was granted for it. Amounts
are sent as doubles, whole ones of at most 53 bits as themselves. -/
theorem requests_exact {capacity : Nat} {reply : Reply} {now : Instant} {p : Pipeline}
    (started : Pipeline.start credentials capacity seed reply now = .ok p) (steps : List Step)
    (operation : Operation) :
    let t := run { pipeline := p } steps
    (∀ q : Pipeline, q.Answers operation) ∧
      (t.pipeline.accepting = false ↔ .shutdown ∈ steps) ∧
      (t.pipeline.hasReceiver = false → .shutdown ∈ steps) ∧
      t.pipeline.capacity = max capacity 1 ∧
      t.pipeline.waiting.length ≤ max capacity 1 ∧
      (∀ q ticket, t.pipeline.request operation = (q, .ok ticket) →
        ticket = t.pipeline.nextTicket ∧ ∃ call, operation.Asks call ∧
          q = t.pipeline.withCall call ∧
          let u := t.run (.begin call :: List.replicate 4 (.advance t.attempts.length))
          u.pipeline = q ∧ ∀ later,
            (u.run later).Sends ticket operation ∧
            (5 * (ticket + 1) ≤ later.countP Step.isWork →
              ∃ result, (u.run later).pipeline.result? ticket = some result ∧
                ((∃ cause, result = .error (.authentication cause)) ∧
                    (u.run later).callPosts ticket = [] ∨
                  ∃ post, (u.run later).callPosts ticket = [post]))) ∧
      ∀ d : Decimal, d.WellFormed → ∃ x, d.magnitude? = some x ∧
        Order.amountJson d = .number (.float (x.withSign d.negative)) ∧
        ∀ n : Nat, n ≤ 2 ^ 53 → |d.value| = n → x.value = n := by
  intro t
  have initial := sound_start started
  have sound : t.Sound (max capacity 1) := initial.run steps
  have closed : t.pipeline.accepting = false ↔ .shutdown ∈ steps := by
    have opened : p.accepting = true := by
      obtain ⟨token, -, rfl⟩ := Pipeline.start_ok started
      rfl
    have along := accepting_run { pipeline := p } steps
    simpa [opened] using along
  refine ⟨fun q => q.answers operation, closed, fun gone => ?_, sound.line.capacity, sound.line.fits,
    ?_, fun d fits => ?_⟩
  · exact closed.mp (sound.line.ended (sound.finished_of_gone gone)).1
  · intro q ticket accepted
    obtain ⟨rfl, call, asks, rfl, submitted⟩ := Pipeline.request_ok accepted
    refine ⟨rfl, call, asks, rfl, ?_⟩
    intro u
    refine ⟨(pipeline_submit t call).trans submitted.symm, fun later => ?_⟩
    have soundU : u.Sound (max capacity 1) := sound.run _
    have soundV := soundU.run later
    have ledgerV := ((((ledger_start started).run initial steps).run sound _).run soundU later :
      (u.run later).Ledger credentials seed p.token)
    have enters : ⟨t.pipeline.nextTicket, call⟩ ∈ u.accepted := by
      rw [sound.accepted_submit submitted.symm]
      exact List.mem_append_right _ (List.mem_singleton_self _)
    have stays := (run_grows u later).1.subset enters
    refine ⟨ledgerV.sends soundV stays asks, fun turns => ledgerV.sent_of_settled soundV stays ?_⟩
    have issued : t.pipeline.nextTicket < u.pipeline.nextTicket := by
      rw [pipeline_submit, ← submitted]
      exact Nat.lt_succ_self _
    rcases soundU.settled_or_progress issued later with settled | worked
    · exact settled
    · have bound := progress_lt (u.run later)
      change t.pipeline.nextTicket < (u.run later).pipeline.settled.length
      omega
  · obtain ⟨x, found⟩ := Decimal.exists_magnitude fits
    refine ⟨x, found, by simp only [Order.amountJson, Decimal.toFloat, found], fun n small whole => ?_⟩
    obtain ⟨y, sent, same⟩ := Decimal.magnitude_of_whole whole small
    rw [found] at sent
    exact Option.some_inj.mp sent ▸ same

theorem requests_exact_for_amendment :
    let grant := Json.object [("result", .array [.string "a", .string "r", .nat 900])]
    let credentials : Credentials := ⟨"k", "s"⟩
    let p : Pipeline := {
      credentials
      capacity := 1
      token := ⟨"a", 900, 0⟩
      nextId := 8
      posts := [tokenPost credentials 7] }
    let amend (amount : Decimal) : Operation := .modifyOrder "x" ⟨false, 15, 1⟩ amount
    let work := List.replicate 5 (Step.work 0 (.error (.decode "x")))
    Pipeline.start credentials 1 7 (.ok grant) 0 = .ok p ∧
      p.close.request (amend (.ofNat 0)) =
        (p.close, .error (.invalidArgument (.invalidAmount (.ofNat 0)))) ∧
      (∃ x, Order.amountJson (.ofNat 20) = .number (.float x) ∧ x.value = 20) ∧
      ∃ call, (amend (.ofNat 20)).Asks call ∧
        let t := (run { pipeline := p } (.begin call :: List.replicate 4 (.advance 0))).run work
        t.Sends 0 (amend (.ofNat 20)) ∧ ∃ result, t.pipeline.result? 0 = some result := by
  intro grant credentials p amend work
  have started : Pipeline.start credentials 1 7 (.ok grant) 0 = .ok p := rfl
  obtain ⟨nothing, -⟩ := requests_exact started [] (amend (.ofNat 0))
  obtain ⟨twenty, -, -, -, -, sends, doubles⟩ := requests_exact started [] (amend (.ofNat 20))
  obtain ⟨x, -, sent, whole⟩ := doubles (.ofNat 20) ⟨by decide, by decide⟩
  have itself : x.value = 20 := whole 20 (by decide) (by norm_num [Decimal.value, Decimal.ofNat])
  have violated : FirstViolated (amend (.ofNat 0)).checks (.invalidAmount (.ofNat 0)) :=
    .later (by simp [Check.nonempty]) (.here (by simp [Check.positive, Decimal.value, Decimal.ofNat]))
  have passed : AllHold (amend (.ofNat 20)).checks := by
    simp [amend, Operation.checks, Check.nonempty, Check.positive, Decimal.value, Decimal.ofNat]
  refine ⟨started, (nothing p.close).invalid _ violated, ⟨_, sent, itself⟩, ?_⟩
  obtain ⟨_, -, requested⟩ := (twenty p).queued passed rfl rfl (Nat.zero_lt_one)
  obtain ⟨-, call, asks, -, -, later⟩ := sends _ _ requested
  obtain ⟨sent, settled⟩ := later work
  obtain ⟨result, resolved, -⟩ := settled (by decide)
  exact ⟨call, asks, sent, result, resolved⟩

end Traffic

end FeedBridge.Trading
