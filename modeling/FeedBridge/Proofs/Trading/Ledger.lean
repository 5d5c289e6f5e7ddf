import FeedBridge.Proofs.Json.Members
import FeedBridge.Proofs.Trading.Books

namespace FeedBridge

theorem Rpc.Request.get?_id (r : Rpc.Request) : r.toJson.get? "id" = some (.nat r.id.toNat) := by
  rw [Rpc.Request.toJson, Json.get?_ofMembers]
  simp [Rpc.Request.members, List.lookup_cons]

namespace Trading

def Post.asksForToken (post : Post) : Bool := post.path == apiPath && post.bearer.isNone

@[simp] theorem tokenPost_asks (credentials : Credentials) (id : UInt64) :
    (tokenPost credentials id).asksForToken = true := by
  simp [Post.asksForToken, tokenPost]

@[simp] theorem callPost_asks (call : Call) (id : UInt64) (accessToken : String) :
    (callPost call id accessToken).asksForToken = false := by
  simp [Post.asksForToken, callPost]

@[simp] theorem tokenPost_id (credentials : Credentials) (id : UInt64) :
    (tokenPost credentials id).body.get? "id" = some (.nat id.toNat) :=
  Rpc.Request.get?_id _

@[simp] theorem callPost_id (call : Call) (id : UInt64) (accessToken : String) :
    (callPost call id accessToken).body.get? "id" = some (.nat id.toNat) :=
  Rpc.Request.get?_id _

namespace Execution

def granted? (e : Execution) : Option Token := e.renewal?.bind Except.toOption

def bearer? (e : Execution) : Option Token := if e.due then e.granted? else some e.token

def held (initial : Token) (executions : List Execution) : Token :=
  (executions.filterMap granted?).getLastD initial

def Chained (initial : Token) (executions : List Execution) : Prop :=
  ∀ k e, executions[k]? = some e → e.token = held initial (executions.take k)

def Posted (credentials : Credentials) (e : Execution) : Prop :=
  (e.due = false → e.grant = none) ∧ ∃ id id' : UInt64, e.posts =
    (if e.due then [tokenPost credentials id] else []) ++
      (e.bearer?.map fun token => callPost e.job.call id' token.accessToken).toList

variable {initial : Token} {executions : List Execution} {e : Execution}

@[simp] theorem held_concat (initial : Token) (executions : List Execution) (e : Execution) :
    held initial (executions ++ [e]) = e.granted?.getD (held initial executions) := by
  unfold held
  rw [List.filterMap_append]
  cases granted : e.granted? <;> simp [granted]

theorem chained_concat : Chained initial (executions ++ [e]) ↔
    Chained initial executions ∧ e.token = held initial executions := by
  constructor
  · intro chained
    refine ⟨fun k x found => ?_, ?_⟩
    · have inside := (List.getElem?_eq_some_iff.mp found).1
      have found' : (executions ++ [e])[k]? = some x := by
        rw [List.getElem?_append_left inside, found]
      have token := chained k x found'
      rwa [List.take_append_of_le_length (Nat.le_of_lt inside)] at token
    · have token := chained executions.length e (by simp)
      rwa [List.take_left] at token
  · rintro ⟨chained, token⟩ k x found
    by_cases inside : k < executions.length
    · rw [List.getElem?_append_left inside] at found
      rw [List.take_append_of_le_length (Nat.le_of_lt inside)]
      exact chained k x found
    · have bound := (List.getElem?_eq_some_iff.mp found).1
      rw [List.length_append, List.length_singleton] at bound
      obtain rfl : k = executions.length := by omega
      rw [List.getElem?_concat_length] at found
      cases found
      rw [List.take_left, token]

section Hearing

variable {credentials : Credentials} {reply : Reply} {now : Instant}

theorem granted?_of_ungranted (ungranted : e.grant = none) : e.granted? = none := by
  simp only [granted?, renewal?, ungranted, Option.map_none, Option.bind_none]

theorem Posted.ungranted (posted : e.Posted credentials) (due : e.due = true)
    (ungranted : e.grant = none) : ∃ id, e.posts = [tokenPost credentials id] := by
  obtain ⟨-, id, id', posts⟩ := posted
  refine ⟨id, ?_⟩
  simpa [bearer?, due, granted?_of_ungranted ungranted] using posts

theorem Posted.renew (posted : e.Posted credentials) (due : e.due = true)
    (ungranted : e.grant = none) {token : Token} (granted : tokenOfReply reply now = .ok token)
    (id' : UInt64) : Posted credentials { e with
      grant := some (reply, now)
      posts := e.posts ++ [callPost e.job.call id' token.accessToken] } := by
  obtain ⟨id, posts⟩ := posted.ungranted due ungranted
  unfold Execution.due at due
  refine ⟨fun fresh => ?_, id, id', ?_⟩
  · simp [Execution.due, due] at fresh
  · simp [Execution.due, due, bearer?, granted?, renewal?, granted, posts, Except.toOption]

theorem Posted.refuse (posted : e.Posted credentials) (due : e.due = true)
    (ungranted : e.grant = none) {cause : AuthError}
    (refused : tokenOfReply reply now = .error cause) :
    Posted credentials { e with grant := some (reply, now) } := by
  obtain ⟨id, posts⟩ := posted.ungranted due ungranted
  unfold Execution.due at due
  refine ⟨fun fresh => ?_, id, 0, ?_⟩
  · simp [Execution.due, due] at fresh
  · simp [Execution.due, due, bearer?, granted?, renewal?, refused, posts, Except.toOption]

end Hearing

end Execution

structure Pipeline.Numbered (seed : UInt64) (p : Pipeline) : Prop where
  numbers : ∀ (k : Nat) (post : Post), p.posts[k]? = some post →
    post.body.get? "id" = some (.nat (seed + UInt64.ofNat k).toNat)
  nextId : p.nextId = seed + UInt64.ofNat p.posts.length

theorem Pipeline.Numbered.post {seed : UInt64} {p q : Pipeline} {post : Post}
    (numbered : p.Numbered seed) (number : post.body.get? "id" = some (.nat p.nextId.toNat))
    (posts : q.posts = p.posts ++ [post]) (next : q.nextId = p.nextId + 1) : q.Numbered seed := by
  refine ⟨fun k found at' => ?_, ?_⟩
  · rw [posts] at at'
    by_cases inside : k < p.posts.length
    · rw [List.getElem?_append_left inside] at at'
      exact numbered.numbers k found at'
    · have bound := (List.getElem?_eq_some_iff.mp at').1
      rw [List.length_append, List.length_singleton] at bound
      obtain rfl : k = p.posts.length := by omega
      rw [List.getElem?_concat_length] at at'
      cases at'
      rw [number, numbered.nextId]
  · rw [next, numbered.nextId, posts, List.length_append, List.length_singleton, UInt64.ofNat_add,
      UInt64.add_assoc]
    rfl

/-! ## The ledger -/

namespace Traffic

variable {t : Traffic} {credentials : Credentials} {seed : UInt64} {initial : Token}

structure Ledger (credentials : Credentials) (seed : UInt64) (initial : Token) (t : Traffic) :
    Prop where
  owner : t.pipeline.credentials = credentials
  posts : t.pipeline.posts = tokenPost credentials seed :: t.executions.flatMap (·.posts)
  numbered : t.pipeline.Numbered seed
  token : t.pipeline.token = Execution.held initial t.executions
  renewals : t.pipeline.counters.reauthentications =
    (t.executions.filterMap Execution.granted?).length
  chained : Execution.Chained initial t.executions
  posted : ∀ e ∈ t.executions, e.Posted credentials
  asked : ∀ e ∈ t.done, e.due = true → e.grant.isSome

theorem Ledger.step_idle (ledger : t.Ledger credentials seed initial) {step : Step}
    (idle : step.isWork = false) : (t.step step).Ledger credentials seed initial := by
  obtain ⟨undisturbed, -, done, current⟩ := step_undisturbed t idle
  have same : (t.step step).executions = t.executions := by
    rw [executions, executions, done, current]
  refine ⟨undisturbed.credentials.trans ledger.owner, ?_, ⟨?_, ?_⟩, ?_, ?_, ?_, ?_, ?_⟩
  · rw [undisturbed.posts, same, ledger.posts]
  · rw [undisturbed.posts]
    exact ledger.numbered.numbers
  · rw [undisturbed.nextId, undisturbed.posts, ledger.numbered.nextId]
  · rw [undisturbed.token, same, ledger.token]
  · rw [undisturbed.renewals, same, ledger.renewals]
  · rw [same]
    exact ledger.chained
  · rw [same]
    exact ledger.posted
  · rw [done]
    exact ledger.asked

theorem settle_reauthentications (p : Pipeline) (job : Job) (result : Result) :
    (p.settle job result).counters.reauthentications = p.counters.reauthentications := by
  cases result <;> rfl

theorem Ledger.update (ledger : t.Ledger credentials seed initial) {next : Traffic}
    {e : Execution} {more : List Post} (becomes : next.executions = t.done ++ [e])
    (owner : next.pipeline.credentials = t.pipeline.credentials)
    (posts : next.pipeline.posts = t.pipeline.posts ++ more)
    (own : e.posts = t.current.toList.flatMap (·.posts) ++ more)
    (numbered : next.pipeline.Numbered seed)
    (token : next.pipeline.token = e.granted?.getD (Execution.held initial t.done))
    (renewals : next.pipeline.counters.reauthentications =
      (t.done.filterMap Execution.granted?).length + e.granted?.toList.length)
    (found : e.token = Execution.held initial t.done) (posted : e.Posted credentials)
    (asked : ∀ e ∈ next.done, e.due = true → e.grant.isSome) :
    next.Ledger credentials seed initial := by
  have whole := ledger.posts
  have chained := ledger.chained
  have earlier : ∀ e ∈ t.done, e.Posted credentials :=
    fun e past => ledger.posted e (List.mem_append_left _ past)
  unfold executions at whole chained
  refine ⟨owner.trans ledger.owner, ?_, numbered, ?_, ?_, ?_, ?_, asked⟩
  · rw [posts, whole, becomes, List.flatMap_append, List.flatMap_append, List.flatMap_singleton, own]
    simp
  · rw [becomes, Execution.held_concat, token]
  · rw [becomes, List.filterMap_append, List.length_append, renewals]
    cases granted : e.granted? <;> simp [granted]
  · rw [becomes]
    refine Execution.chained_concat.mpr ⟨?_, found⟩
    cases current : t.current with
    | none => simpa [current] using chained
    | some last =>
        rw [current] at chained
        exact (Execution.chained_concat.mp chained).1
  · rw [becomes]
    intro x listed
    rcases List.mem_append.mp listed with past | present
    · exact earlier x past
    · rw [List.mem_singleton.mp present]
      exact posted

theorem Ledger.between (ledger : t.Ledger credentials seed initial) (nothing : t.current = none) :
    t.pipeline.token = Execution.held initial t.done ∧
      t.pipeline.counters.reauthentications = (t.done.filterMap Execution.granted?).length := by
  have before : t.executions = t.done := by simp [executions, nothing]
  rw [← before]
  exact ⟨ledger.token, ledger.renewals⟩

theorem Ledger.during (ledger : t.Ledger credentials seed initial) {e : Execution}
    (current : t.current = some e) :
    e.token = Execution.held initial t.done ∧ e.Posted credentials ∧
      t.pipeline.token = e.granted?.getD (Execution.held initial t.done) ∧
      t.pipeline.counters.reauthentications =
        (t.done.filterMap Execution.granted?).length + e.granted?.toList.length := by
  have now : t.executions = t.done ++ [e] := by simp [executions, current]
  have token := ledger.token
  have renewals := ledger.renewals
  have chained := ledger.chained
  rw [now] at token renewals chained
  rw [Execution.held_concat] at token
  rw [List.filterMap_append, List.length_append] at renewals
  refine ⟨(Execution.chained_concat.mp chained).2, ?_, token, ?_⟩
  · exact ledger.posted e (now ▸ List.mem_append_right _ (List.mem_singleton_self e))
  · rw [renewals]
    cases granted : e.granted? <;> simp [granted]

theorem Ledger.work (ledger : t.Ledger credentials seed initial)
    (awaits : t.pipeline.stage.Awaits t.current) (now : Instant) (reply : Reply) :
    (t.work now reply).Ledger credentials seed initial := by
  have worked := worked t now reply
  generalize t.work now reply = next at worked ⊢
  cases worked with
  | gone | idle => exact ledger
  | finish | receive | discount => exact { ledger with numbered := { ledger.numbered with } }
  | askToken job dispatching due =>
      -- Nothing is in hand before a dispatch, so the execution begins with the most recent token.
      rw [dispatching] at awaits
      have nothing : t.current = none := awaits
      obtain ⟨token, renewals⟩ := ledger.between nothing
      have numbered := ledger.numbered.post (q := t.pipeline.postToken job)
        (tokenPost_id t.pipeline.credentials _) rfl rfl
      refine ledger.update rfl rfl rfl ?_ numbered token renewals token ?_ ledger.asked
      · rw [nothing]
        rfl
      · refine ⟨fun fresh => ?_, t.pipeline.nextId, 0, ?_⟩
        · simp [Execution.due, due] at fresh
        · simp [Execution.due, due, Execution.bearer?, Execution.granted?, Execution.renewal?,
            ledger.owner]
  | call job dispatching fresh =>
      rw [dispatching] at awaits
      have nothing : t.current = none := awaits
      obtain ⟨token, renewals⟩ := ledger.between nothing
      have numbered := ledger.numbered.post (q := t.pipeline.postCall job)
        (callPost_id job.call _ t.pipeline.token.accessToken) rfl rfl
      refine ledger.update rfl rfl rfl ?_ numbered token renewals token ?_ ledger.asked
      · rw [nothing]
        rfl
      · refine ⟨fun _ => rfl, 0, t.pipeline.nextId, ?_⟩
        simp [Execution.due, fresh, Execution.bearer?]
  | renew job token authenticating granted =>
      rw [authenticating] at awaits
      obtain ⟨e, current, rfl, due, ungranted, -⟩ := awaits
      obtain ⟨found, posted, held, renewals⟩ := ledger.during current
      have numbered := ledger.numbered.post (q := (t.pipeline.renew token).postCall e.job)
        (callPost_id e.job.call _ token.accessToken) rfl rfl
      have renewed := posted.renew due ungranted granted t.pipeline.nextId
      rw [Execution.granted?_of_ungranted ungranted] at renewals
      rw [current]
      refine ledger.update rfl rfl rfl ?_ numbered ?_ ?_ found renewed ledger.asked
      · simp [current, Pipeline.renew]
      · simp [Execution.granted?, Execution.renewal?, granted, Except.toOption, Pipeline.postCall,
          Pipeline.renew]
      · simp [Execution.granted?, Execution.renewal?, granted, Except.toOption, Pipeline.postCall,
          Pipeline.renew, renewals]
  | refuse job cause authenticating refused =>
      rw [authenticating] at awaits
      obtain ⟨e, current, -, due, ungranted, -⟩ := awaits
      obtain ⟨found, posted, held, renewals⟩ := ledger.during current
      have nothing : Execution.granted? { e with grant := some (reply, now) } = none := by
        simp [Execution.granted?, Execution.renewal?, refused, Except.toOption]
      rw [Execution.granted?_of_ungranted ungranted] at held renewals
      rw [current]
      refine ledger.update (List.append_nil _) rfl (List.append_nil _).symm ?_
        { ledger.numbered with } ?_ ?_ found (posted.refuse due ungranted refused) ?_
      · simp [current]
      · rw [nothing]
        exact held
      · rw [nothing]
        exact renewals
      · intro x listed asking
        rcases List.mem_append.mp listed with past | present
        · exact ledger.asked x past asking
        · rw [List.mem_singleton.mp present]
          rfl
  | settle job calling =>
      rw [calling] at awaits
      obtain ⟨e, current, -, -, cleared⟩ := awaits
      obtain ⟨found, posted, held, renewals⟩ := ledger.during current
      rw [current]
      refine ledger.update (e := { e with answer := some reply }) (List.append_nil _) rfl
        (List.append_nil _).symm ?_ { ledger.numbered with } held ?_ found posted ?_
      · simp [current]
      · exact (settle_reauthentications _ _ _).trans renewals
      · intro x listed asking
        rcases List.mem_append.mp listed with past | present
        · exact ledger.asked x past asking
        · -- A call is only posted once its token is cleared, so a due one was asked for.
          rw [List.mem_singleton.mp present] at asking ⊢
          rcases cleared with ⟨fresh, -⟩ | ⟨-, token, renewed⟩
          · have still : e.due = true := asking
            rw [fresh] at still
            cases still
          · unfold Execution.renewal? at renewed
            cases grant : e.grant with
            | none => simp [grant] at renewed
            | some answer => rfl

theorem Ledger.step {room : Nat} (ledger : t.Ledger credentials seed initial)
    (sound : t.Sound room) (step : Step) : (t.step step).Ledger credentials seed initial := by
  rcases step.work_or_idle with ⟨now, reply, rfl⟩ | idle
  · exact ledger.work sound.desk.awaits now reply
  · exact ledger.step_idle idle

theorem Ledger.run {room : Nat} (ledger : t.Ledger credentials seed initial)
    (sound : t.Sound room) (steps : List Step) :
    (t.run steps).Ledger credentials seed initial := by
  induction steps generalizing t with
  | nil => exact ledger
  | cons step rest ih => exact ih (ledger.step sound step) (sound.step step)

theorem ledger_start {capacity : Nat} {reply : Reply} {now : Instant} {p : Pipeline}
    (started : Pipeline.start credentials capacity seed reply now = .ok p) :
    Ledger credentials seed p.token { pipeline := p } := by
  obtain ⟨token, -, rfl⟩ := Pipeline.start_ok started
  refine ⟨rfl, rfl, ⟨fun k post found => ?_, rfl⟩, rfl, rfl, ?_, ?_, ?_⟩
  · obtain ⟨bound, rfl⟩ := List.getElem?_eq_some_iff.mp found
    obtain rfl : k = 0 := by simpa using bound
    simp
  · intro k e found
    cases found
  · intro e listed
    cases listed
  · intro e listed
    cases listed

end Traffic

end Trading

end FeedBridge
