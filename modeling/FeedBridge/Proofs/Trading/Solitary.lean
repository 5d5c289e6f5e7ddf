import FeedBridge.Proofs.Trading.Rehearsed

namespace FeedBridge.Trading

/-- Posts that carry calls, in order and one for each, and beside them only ask for tokens. -/
structure Carries (credentials : Credentials) (posts : List Post) (calls : List Call) : Prop where
  calls : List.Forall₂ (fun post call => ∃ id token, post = callPost call id token)
    (posts.filter (·.bearer.isSome)) calls
  tokens : ∀ post ∈ posts, post.bearer = none → ∃ id, post = tokenPost credentials id

namespace Carries

variable {credentials : Credentials} {posts later : List Post} {calls others : List Call}

theorem nil : Carries credentials [] [] := ⟨.nil, nofun⟩

theorem append (carries : Carries credentials posts calls)
    (more : Carries credentials later others) :
    Carries credentials (posts ++ later) (calls ++ others) := by
  refine ⟨?_, fun post member => ?_⟩
  · rw [List.filter_append]
    exact List.rel_append carries.calls more.calls
  · rcases List.mem_append.mp member with early | late
    · exact carries.tokens post early
    · exact more.tokens post late

end Carries

theorem resultOfReply_ne_invalid (reply : Reply) {cause : OrderError} :
    resultOfReply reply ≠ .error (.invalidArgument cause) := by
  unfold resultOfReply
  split
  · nofun
  · split <;> nofun

structure Exchange where
  posts : List Post
  reply : Reply
  delay : Nat
  script : Script

namespace Rehearsal

def exchangeWith? (script : Script) (token : Token) (id : UInt64) (call : Call) (before : List Post)
    (spent : Nat) : Option Exchange :=
  match script.next (callPost call id token.accessToken) with
  | (⟨.reply reply, delay⟩, script) =>
    let posts := before ++ [callPost call id token.accessToken]
    some { posts, reply, delay := spent + delay, script }
  | (⟨.crash, _⟩, _) => none

def exchange? (r : Rehearsal) (call : Call) : Option Exchange :=
  let p := r.pipeline
  if p.token.needsRefresh (momentOfMillis r.now) then
    match r.script.next (tokenPost p.credentials p.nextId) with
    | (⟨.reply reply, delay⟩, script) =>
      match tokenOfReply reply (momentOfMillis (r.now + delay)) with
      | .ok token =>
        exchangeWith? script token (p.nextId + 1) call [tokenPost p.credentials p.nextId] delay
      | .error _ => none
    | (⟨.crash, _⟩, _) => none
  else exchangeWith? r.script p.token p.nextId call [] 0

structure Idle (r : Rehearsal) : Prop where
  ready : r.pipeline.stage = .ready
  empty : r.pipeline.waiting = []
  due : r.due = none
  accepting : r.pipeline.accepting = true
  unshared : r.pipeline.shares = 0
  room : 0 < r.pipeline.capacity
  settled : ∀ entry ∈ r.pipeline.settled, entry.1 < r.pipeline.nextTicket
  released : ∀ ticket ∈ r.released, ticket < r.pipeline.nextTicket

def ComesTo (happened : Rehearsal → Bool) (deadline : Nat) (r last : Rehearsal) (count : Nat) :
    Prop :=
  ∀ fuel leaps s, count ≤ fuel → count ≤ leaps → s.settle = moves fuel r →
    waitFrom happened (some deadline) (leaps + 1) s = last

section

variable {happened : Rehearsal → Bool} {deadline count : Nat} {r next last : Rehearsal}

theorem moves_rest (rest : r.move? = none) (fuel : Nat) : moves fuel r = r := by
  cases fuel with
  | zero => rfl
  | succ fuel => simp only [moves, rest]

theorem moves_move (moved : r.move? = some next) (fuel : Nat) :
    moves (fuel + 1) r = moves fuel next := by
  simp only [moves, moved]

namespace ComesTo

theorem met (rest : r.move? = none) (seen : happened r = true) :
    ComesTo happened deadline r r 0 := by
  intro fuel leaps s _ _ settled
  rw [moves_rest rest] at settled
  simp only [waitFrom, settled, seen, if_true]

theorem move (moved : r.move? = some next) (further : ComesTo happened deadline next last count) :
    ComesTo happened deadline r last (count + 1) := by
  intro fuel leaps s enough enough' settled
  obtain ⟨fuel, rfl⟩ := Nat.exists_eq_add_of_le' (Nat.le_of_add_left_le enough)
  rw [moves_move moved] at settled
  exact further fuel leaps s (by omega) (by omega) settled

theorem hear {moment : Nat} {reply : Reply} (due : r.due = some (moment, .reply reply))
    (ahead : r.now ≤ moment) (early : moment < deadline) (unseen : happened r = false)
    (few : count ≤ 3)
    (further : ComesTo happened deadline
      { r with now := moment, pipeline := r.pipeline.reply reply (momentOfMillis moment) }.await
      last count) :
    ComesTo happened deadline r last (count + 1) := by
  have arrives : { r with now := moment }.move? = some { r with
      now := moment, pipeline := r.pipeline.reply reply (momentOfMillis moment) }.await := by
    simp [move?, due]
  -- An answer that is due by now is heard in the same stretch of moves. Any other one ends the
  -- stretch, and the next one begins with it once time has leapt to its moment.
  rcases Nat.eq_or_lt_of_le ahead with rfl | later
  · exact move arrives further
  · intro fuel leaps s enough enough' settled
    obtain ⟨leaps, rfl⟩ := Nat.exists_eq_add_of_le' (Nat.le_of_add_left_le enough')
    have rest : r.move? = none := by simp [move?, due, Nat.not_le_of_lt later]
    rw [moves_rest rest] at settled
    have leapt : waitFrom happened (some deadline) (leaps + 1 + 1) s =
        waitFrom happened (some deadline) (leaps + 1) { r with now := moment } := by
      conv_lhs => unfold waitFrom
      simp only [settled, unseen, due, if_neg (Nat.not_le_of_lt early), Bool.false_eq_true,
        if_false]
    rw [leapt]
    refine further (3 * (r.pipeline.waiting.length + 1)) leaps _ (by omega) (by omega) ?_
    exact moves_move arrives _

theorem waitUntil (comes : ComesTo happened deadline r last count) (few : count ≤ 3) :
    r.waitUntil happened (some deadline) = last :=
  comes r.movesLeft (3 * (r.pipeline.waiting.length + 1)) r
    (by unfold movesLeft; omega) (by omega) rfl

end ComesTo

end

structure Served (r : Rehearsal) (exchange : Exchange) (after : Rehearsal) : Prop where
  idle : after.Idle
  posts : after.pipeline.posts = r.pipeline.posts ++ exchange.posts
  settled : after.pipeline.settled =
    r.pipeline.settled ++ [(r.pipeline.nextTicket, resultOfReply exchange.reply)]
  credentials : after.pipeline.credentials = r.pipeline.credentials
  script : after.script = exchange.script
  now : after.now = r.now + exchange.delay

variable {r : Rehearsal} {call : Call}

theorem await_of_ready {s : Rehearsal} (ready : s.pipeline.stage = .ready) :
    s.await = { s with due := none } := by
  simp only [await, ready]

theorem move?_of_nothing {s : Rehearsal} (ready : s.pipeline.stage = .ready)
    (empty : s.pipeline.waiting = []) (accepting : s.pipeline.accepting = true)
    (due : s.due = none) : s.move? = none := by
  simp [move?, due, ready, empty, accepting]

theorem comesTo_of_postCall (job : Job) {s : Rehearsal} {q : Pipeline} {reply : Reply}
    {delay deadline : Nat} {script : Script} (posted : s.pipeline = q.postCall job)
    (empty : q.waiting = []) (accepting : q.accepting = true)
    (answered : s.script.next (callPost job.call q.nextId q.token.accessToken) =
      (⟨.reply reply, delay⟩, script))
    (early : s.now + delay < deadline) (fresh : q.result? job.ticket = none) :
    ComesTo (isSettled job.ticket) deadline s.await
      { s with
        pipeline := (q.postCall job).settle job (resultOfReply reply)
        script, now := s.now + delay, due := none } 1 := by
  have awaits : s.await = { s with script, due := some (s.now + delay, .reply reply) } := by
    simp [await, posted, Pipeline.postCall, answered]
  rw [awaits]
  have unseen : isSettled job.ticket s = false := by
    rw [isSettled, posted]
    exact congrArg Option.isSome fresh
  refine .hear rfl (Nat.le_add_right _ _) early unseen (by omega) ?_
  have heard : s.pipeline.reply reply (momentOfMillis (s.now + delay)) =
      (q.postCall job).settle job (resultOfReply reply) := by
    rw [posted]
    rfl
  dsimp only
  rw [heard, await_of_ready rfl]
  refine .met (move?_of_nothing rfl empty accepting rfl) ?_
  have found : (q.settled ++ [(job.ticket, resultOfReply reply)]).lookup job.ticket =
      some (resultOfReply reply) := by
    rw [List.lookup_append, show q.settled.lookup job.ticket = none from fresh]
    simp
  exact congrArg Option.isSome found

theorem exchangeWith?_eq_some {script : Script} {token : Token} {id : UInt64} {before : List Post}
    {spent : Nat} {exchange : Exchange}
    (passes : exchangeWith? script token id call before spent = some exchange) :
    ∃ reply delay rest,
      script.next (callPost call id token.accessToken) = (⟨.reply reply, delay⟩, rest) ∧
      exchange = ⟨before ++ [callPost call id token.accessToken], reply, spent + delay, rest⟩ := by
  unfold exchangeWith? at passes
  split at passes
  · rename_i reply delay rest answered
    exact ⟨reply, delay, rest, answered, (Option.some.inj passes).symm⟩
  · cases passes

end Rehearsal

def Pipeline.taking (p : Pipeline) (call : Call) : Pipeline :=
  { p with
    stage := .dispatching ⟨p.nextTicket, call⟩
    nextTicket := p.nextTicket + 1
    counters := { p.counters with submitted := p.counters.submitted + 1 }
    metrics := { p.metrics with queueDepth := p.counters.depth.toNat } }

theorem Pipeline.take_submitted {p : Pipeline} (ready : p.stage = .ready) (empty : p.waiting = [])
    (call : Call) (now : Instant) :
    ((p.announce.enqueue call).countSubmission).take now = (p.taking call).dispatch now := by
  simp [take, receive, discount, announce, enqueue, countSubmission, publishDepth, setDepth,
    taking, ready, empty]

namespace Rehearsal

variable {r : Rehearsal} {call : Call}

namespace Idle

theorem fresh (idle : r.Idle) : r.pipeline.result? r.pipeline.nextTicket = none := by
  refine List.lookup_eq_none_iff.mpr fun entry member => ?_
  simpa using Nat.ne_of_gt (idle.settled entry member)

theorem move?_submitted (idle : r.Idle) (call : Call) :
    { r with pipeline := (r.pipeline.announce.enqueue call).countSubmission }.move? =
      some { r with
        pipeline := (r.pipeline.taking call).dispatch (momentOfMillis r.now) }.await := by
  rw [← Pipeline.take_submitted idle.ready idle.empty]
  simp [move?, idle.due, Pipeline.announce, Pipeline.enqueue, Pipeline.countSubmission,
    Pipeline.publishDepth, Pipeline.setDepth, idle.ready]

theorem served (idle : r.Idle) {q : Pipeline} {before : List Post} {exchange : Exchange}
    {last : Rehearsal} (posts : q.posts = r.pipeline.posts ++ before)
    (same : q = { r.pipeline.taking call with
      stage := q.stage, posts := q.posts, nextId := q.nextId, token := q.token,
      counters := q.counters, metrics := q.metrics })
    (exchanged : exchange.posts = before ++ [callPost call q.nextId q.token.accessToken])
    (pipeline : last.pipeline = (q.postCall ⟨r.pipeline.nextTicket, call⟩).settle
      ⟨r.pipeline.nextTicket, call⟩ (resultOfReply exchange.reply))
    (due : last.due = none) (released : last.released = r.released)
    (script : last.script = exchange.script) (now : last.now = r.now + exchange.delay) :
    r.Served exchange last := by
  have next : last.pipeline.nextTicket = r.pipeline.nextTicket + 1 := by
    rw [pipeline, same]
    rfl
  have settled : last.pipeline.settled =
      r.pipeline.settled ++ [(r.pipeline.nextTicket, resultOfReply exchange.reply)] := by
    rw [pipeline, same]
    rfl
  refine ⟨⟨?_, ?_, due, ?_, ?_, ?_, ?_, ?_⟩, ?_, settled, ?_, script, now⟩
  · rw [pipeline]
    rfl
  · rw [pipeline, same]
    exact idle.empty
  · rw [pipeline, same]
    exact idle.accepting
  · rw [pipeline, same]
    exact idle.unshared
  · rw [pipeline, same]
    exact idle.room
  · intro entry member
    rw [settled] at member
    rw [next]
    rcases List.mem_append.mp member with old | new
    · exact Nat.lt_succ_of_lt (idle.settled entry old)
    · rw [List.mem_singleton.mp new]
      exact Nat.lt_succ_self _
  · intro ticket member
    rw [released] at member
    exact next ▸ Nat.lt_succ_of_lt (idle.released ticket member)
  · rw [pipeline, exchanged, ← List.append_assoc, ← posts]
    rfl
  · rw [pipeline, same]
    rfl

theorem comesTo_of_good (idle : r.Idle) {exchange : Exchange}
    (good : r.pipeline.token.needsRefresh (momentOfMillis r.now) = false)
    (passes : exchangeWith? r.script r.pipeline.token r.pipeline.nextId call [] 0 = some exchange)
    {limit : Nat} (quick : exchange.delay < limit) :
    ∃ last, ComesTo (isSettled r.pipeline.nextTicket) (r.now + limit)
        { r with pipeline := (r.pipeline.taking call).dispatch (momentOfMillis r.now) }.await
        last 1 ∧
      r.Served exchange last := by
  obtain ⟨reply, delay, script, answered, rfl⟩ := exchangeWith?_eq_some passes
  have posted : (r.pipeline.taking call).dispatch (momentOfMillis r.now) =
      (r.pipeline.taking call).postCall ⟨r.pipeline.nextTicket, call⟩ := by
    simp [Pipeline.dispatch, Pipeline.taking, good]
  rw [posted]
  have early : r.now + delay < r.now + limit := by
    simpa using quick
  have comes := comesTo_of_postCall ⟨r.pipeline.nextTicket, call⟩ (s := { r with
      pipeline := (r.pipeline.taking call).postCall ⟨r.pipeline.nextTicket, call⟩ })
    (q := r.pipeline.taking call) rfl idle.empty idle.accepting answered early idle.fresh
  refine ⟨_, comes, idle.served (q := r.pipeline.taking call) (List.append_nil _).symm rfl rfl rfl
    rfl rfl rfl ?_⟩
  simp

theorem comesTo_of_due (idle : r.Idle) {exchange : Exchange} {reply : Reply} {delay : Nat}
    {script : Script} {token : Token}
    (due : r.pipeline.token.needsRefresh (momentOfMillis r.now) = true)
    (answered : r.script.next (tokenPost r.pipeline.credentials r.pipeline.nextId) =
      (⟨.reply reply, delay⟩, script))
    (granted : tokenOfReply reply (momentOfMillis (r.now + delay)) = .ok token)
    (passes : exchangeWith? script token (r.pipeline.nextId + 1) call
      [tokenPost r.pipeline.credentials r.pipeline.nextId] delay = some exchange)
    {limit : Nat} (quick : exchange.delay < limit) :
    ∃ last, ComesTo (isSettled r.pipeline.nextTicket) (r.now + limit)
        { r with pipeline := (r.pipeline.taking call).dispatch (momentOfMillis r.now) }.await
        last 2 ∧
      r.Served exchange last := by
  obtain ⟨reply', delay', script', answered', rfl⟩ := exchangeWith?_eq_some passes
  dsimp only at quick
  let job : Job := ⟨r.pipeline.nextTicket, call⟩
  let q := ((r.pipeline.taking call).postToken job).renew token
  have posted : (r.pipeline.taking call).dispatch (momentOfMillis r.now) =
      (r.pipeline.taking call).postToken job := by
    simp [Pipeline.dispatch, Pipeline.taking, due, job]
  have awaits : { r with pipeline := (r.pipeline.taking call).postToken job }.await =
      { r with
        pipeline := (r.pipeline.taking call).postToken job
        script, due := some (r.now + delay, .reply reply) } := by
    simp [await, Pipeline.postToken, Pipeline.taking, answered]
  have heard : ((r.pipeline.taking call).postToken job).reply reply
      (momentOfMillis (r.now + delay)) = q.postCall job := by
    simp [Pipeline.reply, Pipeline.postToken, granted, q]
  rw [posted, awaits]
  have early : r.now + delay + delay' < r.now + limit := by omega
  have unseen : isSettled r.pipeline.nextTicket { r with
      pipeline := (r.pipeline.taking call).postToken job
      script, due := some (r.now + delay, .reply reply) } = false :=
    congrArg Option.isSome idle.fresh
  have comes := comesTo_of_postCall job (s := { r with
      pipeline := ((r.pipeline.taking call).postToken job).reply reply
        (momentOfMillis (r.now + delay))
      script, now := r.now + delay, due := some (r.now + delay, .reply reply) })
    (q := q) heard idle.empty idle.accepting answered' early idle.fresh
  exact ⟨_, .hear rfl (Nat.le_add_right _ _) (by omega) unseen (by omega) comes,
    idle.served (q := q) rfl rfl rfl rfl rfl rfl rfl (Nat.add_assoc _ _ _)⟩

theorem comesTo (idle : r.Idle) {exchange : Exchange} (passes : r.exchange? call = some exchange)
    {limit : Nat} (quick : exchange.delay < limit) :
    ∃ count last, count ≤ 3 ∧
      ComesTo (isSettled r.pipeline.nextTicket) (r.now + limit)
        { r with pipeline := (r.pipeline.announce.enqueue call).countSubmission } last count ∧
      r.Served exchange last := by
  -- The worker first takes the call, and then hears one answer, or two if a token is due.
  have moved := idle.move?_submitted call
  unfold exchange? at passes
  dsimp only at passes
  split_ifs at passes with due
  · split at passes
    next reply delay script answered =>
      split at passes
      next token granted =>
        obtain ⟨last, comes, served⟩ := idle.comesTo_of_due due answered granted passes quick
        exact ⟨3, last, Nat.le_refl _, .move moved comes, served⟩
      next => cases passes
    next => cases passes
  · obtain ⟨last, comes, served⟩ :=
      idle.comesTo_of_good (Bool.not_eq_true _ ▸ due) passes quick
    exact ⟨2, last, by omega, .move moved comes, served⟩

end Idle

/-! ## One call, from its submission to its result -/

theorem Served.result? {exchange : Exchange} {after : Rehearsal} (idle : r.Idle)
    (served : r.Served exchange after) :
    after.pipeline.result? r.pipeline.nextTicket = some (resultOfReply exchange.reply) := by
  have fresh : r.pipeline.settled.lookup r.pipeline.nextTicket = none := idle.fresh
  rw [Pipeline.result?, served.settled, List.lookup_append, fresh]
  simp

theorem Served.release {exchange : Exchange} {after : Rehearsal}
    (served : r.Served exchange after) :
    r.Served exchange (after.release r.pipeline.nextTicket) := by
  obtain ⟨⟨ready, empty, due, accepting, unshared, room, settled, released⟩, posts, added,
    credentials, script, now⟩ := served
  refine ⟨⟨ready, empty, due, accepting, unshared, room, settled, ?_⟩, posts, added, credentials,
    script, now⟩
  intro ticket member
  rcases List.mem_cons.mp member with rfl | old
  · exact settled (r.pipeline.nextTicket, _) (added ▸ List.mem_append_right _ List.mem_cons_self)
  · exact released ticket old

theorem Idle.request (idle : r.Idle) {operation : Operation} (inOrder : operation.call = .ok call) :
    r.step (.request operation) =
      ({ r with pipeline := (r.pipeline.announce.enqueue call).countSubmission },
        .ticket r.pipeline.nextTicket) := by
  have ticket : (r.pipeline.submit call).2 = .ok r.pipeline.nextTicket := by
    simp [Pipeline.submit, Pipeline.takeShare?, Pipeline.announce, Pipeline.setDepth,
      Pipeline.answer, Pipeline.hasReceiver, idle.accepting, idle.ready, idle.empty, idle.room]
  have accepted : r.pipeline.submit call =
      ((r.pipeline.announce.enqueue call).countSubmission, .ok r.pipeline.nextTicket) := by
    rcases r.pipeline.submit_cases call with ⟨cause, -, refused⟩ | ⟨-, -, accepted⟩
    · rw [refused] at ticket
      cases ticket
    · exact accepted
  simp only [step, Pipeline.request, inOrder, accepted]

theorem Idle.waitTimeout (idle : r.Idle) {exchange : Exchange}
    (passes : r.exchange? call = some exchange) {limit : Nat} (quick : exchange.delay < limit) :
    ∃ after, { r with pipeline := (r.pipeline.announce.enqueue call).countSubmission }.step
        (.waitTimeout r.pipeline.nextTicket limit) =
          (after, .result (resultOfReply exchange.reply)) ∧
      r.Served exchange after := by
  obtain ⟨count, last, few, comes, served⟩ := idle.comesTo passes quick
  let asked := { r with pipeline := (r.pipeline.announce.enqueue call).countSubmission }
  have held : asked.holds r.pipeline.nextTicket = true := by
    have unreleased : r.pipeline.nextTicket ∉ r.released := fun member =>
      Nat.lt_irrefl _ (idle.released _ member)
    have given : r.pipeline.nextTicket < asked.pipeline.nextTicket := Nat.lt_succ_self _
    simp [holds, asked, unreleased, given]
  have pending : isSettled r.pipeline.nextTicket asked = false :=
    congrArg Option.isSome idle.fresh
  have waited : asked.waitUntil (isSettled r.pipeline.nextTicket) (some (asked.now + limit)) =
      last := comes.waitUntil few
  have inTime : last.now ≠ asked.now + limit := by
    rw [served.now]
    exact Nat.ne_of_lt (Nat.add_lt_add_left quick _)
  have settled : last.resultOr r.pipeline.nextTicket (.timeout (.ofMillis limit)) =
      .result (resultOfReply exchange.reply) := by
    rw [resultOr, served.result? idle]
    rfl
  refine ⟨last.release r.pipeline.nextTicket, ?_, served.release⟩
  have some : limit ≠ 0 := Nat.ne_zero_of_lt quick
  show asked.step (.waitTimeout r.pipeline.nextTicket limit) = _
  simp only [step, held, Rehearsal.waitTimeout, pending, waited, inTime, settled, some,
    Bool.not_true, Bool.false_eq_true, Bool.or_false, decide_false, if_false]

theorem carries_of_exchangeWith? {script : Script} {token : Token} {id : UInt64}
    {credentials : Credentials} {before : List Post} {spent : Nat} {exchange : Exchange}
    (asking : ∀ post ∈ before, ∃ id, post = tokenPost credentials id)
    (passes : exchangeWith? script token id call before spent = some exchange) :
    Carries credentials exchange.posts [call] := by
  obtain ⟨reply, delay, rest, -, rfl⟩ := exchangeWith?_eq_some passes
  have bearers : before.filter (·.bearer.isSome) = [] := by
    refine List.filter_eq_nil_iff.mpr fun post member => ?_
    obtain ⟨id, rfl⟩ := asking post member
    simp [tokenPost]
  refine ⟨?_, fun post member unborne => ?_⟩
  · rw [List.filter_append, bearers]
    exact .cons ⟨id, token.accessToken, rfl⟩ .nil
  · rcases List.mem_append.mp member with first | last
    · exact asking post first
    · rw [List.mem_singleton.mp last] at unborne
      cases unborne

theorem carries_of_exchange? {exchange : Exchange} (passes : r.exchange? call = some exchange) :
    Carries r.pipeline.credentials exchange.posts [call] := by
  unfold exchange? at passes
  dsimp only at passes
  split_ifs at passes
  · split at passes
    next =>
      split at passes
      next =>
        exact carries_of_exchangeWith? (fun post member => ⟨_, List.mem_singleton.mp member⟩) passes
      next => cases passes
    next => cases passes
  · exact carries_of_exchangeWith? (List.forall_mem_nil _) passes

theorem idle_begin {key secret : String} {capacity : Nat} {script : Script}
    (begun : begin key secret capacity script = .ok r) : r.Idle := by
  obtain ⟨credentials, reply, started, -, due, released⟩ := begin_ok begun
  obtain ⟨token, -, pipeline⟩ := Pipeline.start_ok started
  refine ⟨?_, ?_, due, ?_, ?_, ?_, ?_, ?_⟩
  · rw [pipeline]
  · rw [pipeline]
  · rw [pipeline]
  · rw [pipeline]
  · rw [pipeline]
    exact Nat.le_max_right _ _
  · rw [pipeline]
    nofun
  · rw [released]
    nofun

theorem Idle.shutdown (idle : r.Idle) :
    (r.step .shutdown).1.pipeline.posts = r.pipeline.posts := by
  obtain ⟨ready, empty, due, -, unshared, -, -, -⟩ := idle
  -- The worker finds that nobody can submit any more, and makes no other move.
  let closed := { r with pipeline := r.pipeline.close }
  let done := { closed with pipeline := { closed.pipeline with stage := .finished } }
  have finishes : closed.move? = some done := by
    simp [move?, await, closed, done, due, ready, Pipeline.take, Pipeline.receive,
      Pipeline.discount, Pipeline.dispatch, Pipeline.close, empty, unshared]
  have rest : done.move? = none := by
    simp [move?, done, closed, due]
  have left : closed.movesLeft = 3 + 1 := by
    simp [movesLeft, closed, Pipeline.close, empty]
  have settled : closed.settle = done := by
    rw [settle, left, moves_move finishes, moves_rest rest]
  have waited : closed.waitUntil (fun r => !r.pipeline.hasReceiver) none = done := by
    have gone : (!done.pipeline.hasReceiver) = true := rfl
    rw [waitUntil, left]
    conv_lhs => unfold waitFrom
    simp only [settled, gone, if_true]
  show (closed.waitUntil (fun r => !r.pipeline.hasReceiver) none).pipeline.posts = _
  rw [waited]
  rfl

end Rehearsal

end FeedBridge.Trading
