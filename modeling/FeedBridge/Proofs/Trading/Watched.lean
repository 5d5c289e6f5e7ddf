import FeedBridge.Proofs.Trading.Audience
import FeedBridge.Proofs.Trading.Rehearsed

namespace FeedBridge.Trading

namespace Handle

theorem stance_send (h : Handle) (result : Result) : (h.send result).1.stance = h.stance := by
  unfold send
  split_ifs <;> rfl

end Handle

namespace Audience

theorem traffic_work (a : Audience) (reply : Reply) :
    (a.work reply).traffic = a.traffic.work a.now reply ∧ (a.work reply).now = a.now := by
  have seen := common_handOver
  simp only [common, Prod.mk.injEq] at seen
  exact ⟨(seen _ _).1, (seen _ _).2.1⟩

theorem stance_handOver (a : Audience) (results : List (Nat × Result)) (ticket : Nat) :
    ((a.handOver results).handles ticket).stance = (a.handles ticket).stance := by
  induction results generalizing a with
  | nil => rfl
  | cons entry rest ih =>
      refine (ih _).trans ?_
      rcases eq_or_ne ticket entry.1 with rfl | different
      · simp [onHandle, Handle.stance_send]
      · simp [onHandle, different]

theorem stance_step (a : Audience) {step : Step} (shared : step.isShared = true) (ticket : Nat) :
    ((a.step step).handles ticket).stance = (a.handles ticket).stance := by
  cases step with
  | work reply => exact stance_handOver _ _ _
  | hold => cases shared
  | _ => rfl

theorem accepted_step (a : Audience) (step : Step) :
    a.traffic.accepted <+: (a.step step).traffic.accepted := by
  cases step with
  | begin call => exact (a.traffic.step_grows (.begin call)).1
  | advance caller => exact (a.traffic.step_grows (.advance caller)).1
  | work reply =>
      simp only [Audience.step, traffic_work]
      exact (a.traffic.step_grows (.work a.now reply)).1
  | pass | shutdown => exact List.prefix_rfl
  | hold ticket act =>
      have same : (a.step (.hold ticket act)).traffic = a.traffic :=
        congrArg Prod.fst (common_hold a ticket act)
      exact same ▸ List.prefix_rfl

def Meanwhile (a b : Audience) : Prop :=
  ∃ steps : List Step, (∀ step ∈ steps, step.isShared = true) ∧ b = a.run steps

namespace Meanwhile

variable {a b c : Audience}

theorem refl (a : Audience) : a.Meanwhile a := ⟨[], nofun, rfl⟩

theorem step (a : Audience) (step : Step) (shared : step.isShared = true) :
    a.Meanwhile (a.step step) := ⟨[step], by simpa using shared, rfl⟩

theorem trans (first : a.Meanwhile b) (second : b.Meanwhile c) : a.Meanwhile c := by
  obtain ⟨steps, shared, rfl⟩ := first
  obtain ⟨later, shared', rfl⟩ := second
  refine ⟨steps ++ later, fun step listed => ?_, List.foldl_append.symm⟩
  rcases List.mem_append.mp listed with early | late
  · exact shared step early
  · exact shared' step late

theorem stance (meanwhile : a.Meanwhile b) (ticket : Nat) :
    (b.handles ticket).stance = (a.handles ticket).stance := by
  obtain ⟨steps, shared, rfl⟩ := meanwhile
  induction steps generalizing a with
  | nil => rfl
  | cons step rest ih =>
      obtain ⟨first, others⟩ := List.forall_mem_cons.mp shared
      exact (ih others).trans (stance_step a first ticket)

theorem accepted (meanwhile : a.Meanwhile b) : a.traffic.accepted <+: b.traffic.accepted := by
  obtain ⟨steps, -, rfl⟩ := meanwhile
  induction steps generalizing a with
  | nil => exact List.prefix_rfl
  | cons step rest ih => exact (accepted_step a step).trans ih

theorem nextTicket (meanwhile : a.Meanwhile b) {room : Nat} (kept : a.Kept room)
    (kept' : b.Kept room) : a.traffic.pipeline.nextTicket ≤ b.traffic.pipeline.nextTicket := by
  have before := congrArg List.length kept.sound.callers.tickets
  have after := congrArg List.length kept'.sound.callers.tickets
  have grown := meanwhile.accepted.length_le
  simp only [List.length_map, List.length_range] at before after
  omega

end Meanwhile

end Audience

namespace Traffic

theorem pipeline_hear {t : Traffic} {job : Job}
    (waits : t.pipeline.stage = .authenticating job ∨ t.pipeline.stage = .calling job) (now : Instant)
    (reply : Reply) : (t.work now reply).pipeline = t.pipeline.reply reply now := by
  rcases waits with stage | stage <;>
  · simp only [work, stage]
    split <;> rfl

theorem pipeline_take {t : Traffic} (ready : t.pipeline.stage = .ready) (now : Instant)
    (reply : Reply) :
    (((t.work now reply).work now reply).work now reply).pipeline = t.pipeline.take now := by
  cases queue : t.pipeline.waiting with
  | nil =>
      by_cases drained : !t.pipeline.accepting && t.pipeline.shares = 0
      · simp [work, Pipeline.take, Pipeline.receive, Pipeline.discount, Pipeline.dispatch, ready, queue,
          drained]
      · simp [work, Pipeline.take, Pipeline.receive, Pipeline.discount, Pipeline.dispatch, ready, queue,
          drained]
  | cons job rest =>
      simp [work, Pipeline.take, Pipeline.receive, Pipeline.discount, ready, queue,
        Pipeline.publishDepth]

end Traffic

namespace Pipeline

variable {p : Pipeline} {job : Job}

theorem reply_cases (waits : p.stage = .authenticating job ∨ p.stage = .calling job) (reply : Reply)
    (now : Instant) :
    (p.stage = .authenticating job ∧ ∃ token, p.reply reply now = (p.renew token).postCall job) ∨
      ∃ result, p.reply reply now = p.settle job result := by
  rcases waits with stage | stage
  · cases granted : tokenOfReply reply now with
    | ok token => exact .inl ⟨stage, token, by simp only [Pipeline.reply, stage, granted]⟩
    | error cause => exact .inr ⟨_, by simp only [Pipeline.reply, stage, granted]; rfl⟩
  · exact .inr ⟨_, by simp only [Pipeline.reply, stage]; rfl⟩

theorem take_cases (ready : p.stage = .ready) (unshared : p.shares = 0)
    (wanted : (p.waiting.isEmpty && p.accepting) = false) (now : Instant) :
    (p.waiting = [] ∧ p.take now = { p with stage := .finished }) ∨
      ∃ job, p.waiting = job :: (p.take now).waiting ∧ (p.take now).shares = p.shares ∧
        (p.take now).posts ≠ [] ∧
        ((p.take now).stage = .authenticating job ∨ (p.take now).stage = .calling job) := by
  cases queue : p.waiting with
  | nil =>
      have closed : p.accepting = false := by simpa [queue] using wanted
      exact .inl ⟨rfl, by simp [take, receive, discount, dispatch, ready, queue, closed, unshared]⟩
  | cons job rest =>
      refine .inr ⟨job, ?_⟩
      have received : p.receive = { p with stage := .received job, waiting := rest } := by
        simp [receive, ready, queue]
      have inHand : p.receive.discount.stage = .dispatching job := by simp [received, discount]; rfl
      unfold take dispatch
      rw [inHand]
      dsimp only
      split_ifs
      · simp [postToken, received, discount, publishDepth, setDepth]
      · simp [postCall, received, discount, publishDepth, setDepth]

end Pipeline

namespace Stage

def Awaited (due : Option (Nat × Ending)) : Stage → Prop
  | .ready | .finished => due = none
  | .authenticating _ | .calling _ => due.isSome
  | .received _ | .dispatching _ | .crashed => False

def left : Stage → Nat
  | .authenticating _ => 3
  | .calling _ => 2
  | .finished => 0
  | .ready | .received _ | .dispatching _ | .crashed => 1

theorem left_le (stage : Stage) : stage.left ≤ 3 := by
  cases stage <;> simp [left]

end Stage

namespace Rehearsal

/-! ## The worker is watched -/

def left (r : Rehearsal) : Nat := 3 * r.pipeline.waiting.length + r.pipeline.stage.left

theorem awaited_await (r : Rehearsal) (posted : r.pipeline.posts ≠ [])
    (between : ∃ due, r.pipeline.stage.Awaited due) :
    r.await.pipeline.stage.Awaited r.await.due := by
  obtain ⟨post, last⟩ := Option.ne_none_iff_exists'.mp (mt List.getLast?_eq_none_iff.mp posted)
  unfold await
  cases stage : r.pipeline.stage with
  | ready | finished | authenticating | calling => simp [last, stage, Stage.Awaited]
  | received | dispatching | crashed =>
      obtain ⟨due, between⟩ := between
      rw [stage] at between
      exact between.elim

theorem await_eq (r : Rehearsal) : r.await.pipeline = r.pipeline ∧ r.await.now = r.now ∧
    r.await.released = r.released := by
  unfold await
  split <;> exact ⟨rfl, rfl, rfl⟩

theorem left_lt (r : Rehearsal) : r.left < r.movesLeft := by
  have few := r.pipeline.stage.left_le
  unfold Rehearsal.left movesLeft
  omega

theorem due_later {r : Rehearsal} (rest : r.move? = none) {moment : Nat} {ending : Ending}
    (due : r.due = some (moment, ending)) : r.now < moment := by
  by_contra passed
  cases ending <;> simp [move?, due, Nat.le_of_not_lt passed] at rest

theorem moves_when_due {r : Rehearsal} {moment : Nat} {ending : Ending} (due : r.due = some (moment, ending)) :
    { r with now := moment }.move? ≠ none := by
  cases ending <;> simp [move?, due]

structure Watched (first : Pipeline) (room : Nat) (r : Rehearsal) (a : Audience) : Prop
    extends r.Reached first where
  kept : a.Kept room
  pipeline : a.traffic.pipeline = r.pipeline
  now : a.now = momentOfMillis r.now
  unshared : r.pipeline.shares = 0
  posted : r.pipeline.posts ≠ []
  awaited : r.pipeline.stage.Awaited r.due

structure Onward (first : Pipeline) (room : Nat) (r : Rehearsal) (a : Audience) (next : Rehearsal)
    (b : Audience) : Prop where
  meanwhile : a.Meanwhile b
  watched : next.Watched first room b
  released : next.released = r.released

variable {first : Pipeline} {room : Nat} {r s next last : Rehearsal} {a b c : Audience}

theorem Watched.stays (watched : r.Watched first room a) : Onward first room r a r a :=
  ⟨.refl a, watched, rfl⟩

theorem Onward.trans (onward : Onward first room r a next b) (further : Onward first room next b last c) :
    Onward first room r a last c :=
  ⟨onward.meanwhile.trans further.meanwhile, further.watched,
    further.released.trans onward.released⟩

namespace Watched

theorem moved (watched : r.Watched first room a) {q : Pipeline}
    (reached : Reached first { r with pipeline := q }.await) (meanwhile : a.Meanwhile b)
    (pipeline : b.traffic.pipeline = q) (now : b.now = a.now) (unshared : q.shares = 0)
    (posted : q.posts ≠ []) (between : ∃ due, q.stage.Awaited due) :
    Onward first room r a { r with pipeline := q }.await b := by
  obtain ⟨same, time, released⟩ := await_eq { r with pipeline := q }
  have awaited := awaited_await { r with pipeline := q } posted between
  obtain ⟨steps, -, rfl⟩ := id meanwhile
  refine ⟨meanwhile, ⟨reached, watched.kept.run steps, ?_, ?_, ?_, ?_, awaited⟩, released⟩
  · rw [pipeline, same]
  · rw [now, watched.now, time]
  · rw [same]
    exact unshared
  · rw [same]
    exact posted

theorem waits (watched : r.Watched first room a) {pending : Nat × Ending}
    (due : r.due = some pending) :
    ∃ job, r.pipeline.stage = .authenticating job ∨ r.pipeline.stage = .calling job := by
  have awaited := watched.awaited
  rw [due] at awaited
  cases stage : r.pipeline.stage with
  | authenticating job => exact ⟨job, .inl rfl⟩
  | calling job => exact ⟨job, .inr rfl⟩
  | _ => simp [stage, Stage.Awaited] at awaited

theorem hear (watched : r.Watched first room a) {pending : Nat × Ending} (due : r.due = some pending)
    (reply : Reply)
    (reached : Reached first
      { r with pipeline := r.pipeline.reply reply (momentOfMillis r.now) }.await) :
    let next := { r with pipeline := r.pipeline.reply reply (momentOfMillis r.now) }.await
    next.left < r.left ∧ ∃ b, Onward first room r a next b := by
  intro next
  obtain ⟨job, waits⟩ := watched.waits due
  obtain ⟨traffic, now⟩ := a.traffic_work reply
  have heard : (a.work reply).traffic.pipeline = r.pipeline.reply reply (momentOfMillis r.now) := by
    rw [traffic, Traffic.pipeline_hear (by rwa [watched.pipeline]), watched.pipeline, watched.now]
  have onward := watched.moved reached (.step a (.work reply) rfl) heard now
  have left : next.left = left { r with pipeline := r.pipeline.reply reply (momentOfMillis r.now) } := by
    simp only [Rehearsal.left, next, await_eq]
  rw [left]
  rcases Pipeline.reply_cases waits reply (momentOfMillis r.now) with
    ⟨authenticating, token, renewed⟩ | ⟨result, settled⟩
  · refine ⟨?_, _, onward ?_ ?_ ⟨some pending, ?_⟩⟩
    · simp [Rehearsal.left, renewed, Pipeline.postCall, Pipeline.renew, Stage.left, authenticating]
    · simpa [renewed, Pipeline.postCall, Pipeline.renew] using watched.unshared
    · simp [renewed, Pipeline.postCall]
    · simp [renewed, Pipeline.postCall, Stage.Awaited]
  · refine ⟨?_, _, onward ?_ ?_ ⟨none, ?_⟩⟩
    · rcases waits with stage | stage <;>
        simp [Rehearsal.left, settled, Pipeline.settle, Pipeline.countResult, Stage.left, stage]
    · simpa [settled, Pipeline.settle, Pipeline.countResult] using watched.unshared
    · simpa [settled, Pipeline.settle, Pipeline.countResult] using watched.posted
    · simp [settled, Pipeline.settle, Stage.Awaited]

theorem take (watched : r.Watched first room a) (ready : r.pipeline.stage = .ready)
    (wanted : (r.pipeline.waiting.isEmpty && r.pipeline.accepting) = false)
    (reached : Reached first { r with pipeline := r.pipeline.take (momentOfMillis r.now) }.await) :
    let next := { r with pipeline := r.pipeline.take (momentOfMillis r.now) }.await
    next.left < r.left ∧ ∃ b, Onward first room r a next b := by
  intro next
  -- What the worker would hear does not matter, for it waits for no answer.
  let nothing : Reply := .error (.decode "")
  let after := ((a.work nothing).work nothing).work nothing
  obtain ⟨traffic, now⟩ := a.traffic_work nothing
  obtain ⟨traffic', now'⟩ := (a.work nothing).traffic_work nothing
  obtain ⟨traffic'', now''⟩ := ((a.work nothing).work nothing).traffic_work nothing
  have taken : after.traffic.pipeline = r.pipeline.take (momentOfMillis r.now) := by
    rw [traffic'', now', traffic', now, traffic, Traffic.pipeline_take (by rwa [watched.pipeline]),
      watched.pipeline, watched.now]
  have shared : ∀ step ∈ List.replicate 3 (Audience.Step.work nothing), step.isShared = true := by
    intro step listed
    rw [(List.mem_replicate.mp listed).2]
    rfl
  have meanwhile : a.Meanwhile after := ⟨_, shared, rfl⟩
  have onward := watched.moved reached meanwhile taken (now''.trans (now'.trans now))
  have left : next.left = Rehearsal.left { r with
      pipeline := r.pipeline.take (momentOfMillis r.now) } := by
    simp only [Rehearsal.left, next, await_eq]
  rw [left]
  rcases Pipeline.take_cases ready watched.unshared wanted (momentOfMillis r.now) with
    ⟨empty, finished⟩ | ⟨job, queue, unshared, posted, dispatched⟩
  · refine ⟨?_, _, onward ?_ ?_ ⟨none, ?_⟩⟩
    · simp [Rehearsal.left, finished, empty, ready, Stage.left]
    · rw [finished]
      exact watched.unshared
    · rw [finished]
      exact watched.posted
    · rw [finished]
      rfl
  · refine ⟨?_, _, onward (unshared.trans watched.unshared) posted ⟨some (0, .crash), ?_⟩⟩
    · rcases dispatched with stage | stage <;>
      · simp only [Rehearsal.left, queue, ready, stage, Stage.left, List.length_cons]
        omega
    · rcases dispatched with stage | stage <;>
      · rw [stage]
        rfl

theorem move (watched : r.Watched first room a) (moved : r.move? = some next) :
    next.left < r.left ∧ next.now = r.now ∧ ∃ b, Onward first room r a next b := by
  have reached := watched.toReached.move moved
  unfold move? at moved
  cases due : r.due with
  | some pending =>
      obtain ⟨moment, ending⟩ := pending
      cases ending with
      | crash => exact (watched.due moment .crash due).elim
      | reply reply =>
          simp only [due] at moved
          split_ifs at moved
          obtain rfl := Option.some.inj moved
          obtain ⟨left, onward⟩ := watched.hear due reply reached
          exact ⟨left, (await_eq _).2.1, onward⟩
  | none =>
      simp only [due] at moved
      split at moved
      · rename_i ready
        split_ifs at moved with unwanted
        obtain rfl := Option.some.inj moved
        obtain ⟨left, onward⟩ := watched.take ready (by simpa using unwanted) reached
        exact ⟨left, (await_eq _).2.1, onward⟩
      · cases moved

theorem moves (watched : r.Watched first room a) {fuel : Nat} (enough : r.left ≤ fuel) :
    let last := moves fuel r
    last.move? = none ∧ last.now = r.now ∧ last.left ≤ r.left ∧
      (r.move? ≠ none → last.left < r.left) ∧ ∃ b, Onward first room r a last b := by
  induction fuel generalizing r a with
  | zero =>
      have rest : r.move? = none := by
        cases moved : r.move? with
        | none => rfl
        | some next =>
            have fewer := (watched.move moved).1
            omega
      exact ⟨rest, rfl, Nat.le_refl _, fun moves => absurd rest moves, a, watched.stays⟩
  | succ fuel ih =>
      unfold Rehearsal.moves
      cases moved : r.move? with
      | none => exact ⟨moved, rfl, Nat.le_refl _, fun moves => absurd rfl moves, a, watched.stays⟩
      | some next =>
          obtain ⟨fewer, now, b, onward⟩ := watched.move moved
          obtain ⟨rest, now', left, -, c, further⟩ := ih onward.watched (by omega)
          dsimp only
          exact ⟨rest, now'.trans now, by omega, fun _ => by omega, c, onward.trans further⟩

theorem settle (watched : r.Watched first room a) :
    r.settle.move? = none ∧ r.settle.now = r.now ∧ r.settle.left ≤ r.left ∧
      (r.move? ≠ none → r.settle.left < r.left) ∧ ∃ b, Onward first room r a r.settle b :=
  watched.moves (Nat.le_of_lt (left_lt r))

theorem pass (watched : r.Watched first room a) {moment : Nat} (later : r.now ≤ moment) :
    ∃ b, Onward first room r a { r with now := moment } b := by
  let step : Audience.Step := .pass ((moment - r.now) * tenTo 6)
  have now : (a.step step).now = momentOfMillis moment := by
    simp only [step, Audience.step, watched.now, momentOfMillis]
    rw [← Int.natCast_add, ← Nat.add_mul, Nat.add_sub_cancel' later]
  exact ⟨a.step step, .step a step rfl, ⟨watched.toReached.congr rfl rfl rfl, watched.kept.step step,
    watched.pipeline, now, watched.unshared, watched.posted, watched.awaited⟩, rfl⟩

theorem settled_of_idle (watched : r.Watched first room a) (rest : r.move? = none)
    (idle : r.due = none) {ticket : Nat} (issued : ticket < r.pipeline.nextTicket) :
    isSettled ticket r = true := by
  rw [isSettled, ← watched.pipeline]
  by_contra unsettled
  have sound := watched.kept.sound
  have behind : ¬ ticket < a.traffic.pipeline.settled.length := by
    intro settled
    obtain ⟨result, found⟩ := sound.result?_isSome settled
    simp [found] at unsettled
  rw [← watched.pipeline] at issued
  obtain ⟨alive, busy⟩ := sound.busy_of_unsettled (by omega)
  rw [watched.pipeline] at alive busy
  have awaited := watched.awaited
  rw [idle] at awaited
  cases stage : r.pipeline.stage with
  | ready =>
      simp only [move?, idle, stage] at rest
      simp_all
  | finished => simp [Pipeline.hasReceiver, stage] at alive
  | _ => simp [stage, Stage.Awaited] at awaited

end Watched

inductive Ends (happened : Rehearsal → Bool) (deadline : Option Nat) (s : Rehearsal) :
    Rehearsal → Prop
  | met (seen : happened s = true) : Ends happened deadline s s
  | idle (unlimited : deadline = none) (idle : s.due = none) : Ends happened deadline s s
  | late (moment : Nat) (limited : deadline = some moment) (unseen : happened s = false) :
      Ends happened deadline s (s.stopAt moment)

theorem Watched.waitFrom (watched : r.Watched first room a) (happened : Rehearsal → Bool)
    (deadline : Option Nat) (early : ∀ moment ∈ deadline, r.now ≤ moment) {fuel : Nat}
    (enough : r.settle.left < fuel) :
    ∃ s b, Onward first room r a s b ∧ s.move? = none ∧
      (∀ moment ∈ deadline, s.now ≤ moment ∧ (r.now < moment → s.now < moment)) ∧
      Ends happened deadline s (waitFrom happened deadline fuel r) := by
  induction fuel generalizing r a with
  | zero => exact absurd enough (Nat.not_lt_zero _)
  | succ fuel ih =>
      obtain ⟨rest, now, -, -, b, onward⟩ := watched.settle
      have soon : ∀ moment ∈ deadline,
          r.settle.now ≤ moment ∧ (r.now < moment → r.settle.now < moment) :=
        fun moment limited => ⟨now.symm ▸ early moment limited, fun before => now.symm ▸ before⟩
      unfold Rehearsal.waitFrom
      dsimp only
      split_ifs with seen
      · exact ⟨r.settle, b, onward, rest, soon, .met seen⟩
      · have unseen : happened r.settle = false := by simpa using seen
        cases due : r.settle.due with
        | none =>
            cases deadline with
            | none => exact ⟨r.settle, b, onward, rest, soon, .idle rfl due⟩
            | some moment => exact ⟨r.settle, b, onward, rest, soon, .late moment rfl unseen⟩
        | some pending =>
            obtain ⟨moment, ending⟩ := pending
            have later := due_later rest due
            obtain ⟨c, passed⟩ := onward.watched.pass (Nat.le_of_lt later)
            obtain ⟨-, -, -, fewer, -⟩ := passed.watched.settle
            have left := Nat.lt_of_lt_of_le (fewer (moves_when_due due)) (Nat.le_of_lt_succ enough)
            cases deadline with
            | none =>
                obtain ⟨s, d, further, rest', -, ends⟩ := ih passed.watched (by simp) left
                rw [due] at ends
                exact ⟨s, d, (onward.trans passed).trans further, rest', by simp, ends⟩
            | some deadline =>
                dsimp only
                split_ifs with stop
                · exact ⟨r.settle, b, onward, rest, soon, .late deadline rfl unseen⟩
                · have before : moment < deadline := Nat.lt_of_not_le stop
                  obtain ⟨s, d, further, rest', soon', ends⟩ := ih passed.watched
                    (fun _ limited => by cases limited; exact Nat.le_of_lt before) left
                  rw [due] at ends
                  refine ⟨s, d, (onward.trans passed).trans further, rest', ?_, ends⟩
                  intro _ limited
                  cases limited
                  have below := (soon' deadline rfl).2 before
                  exact ⟨Nat.le_of_lt below, fun _ => below⟩

namespace Watched

theorem waitUntil (watched : r.Watched first room a) (happened : Rehearsal → Bool)
    (deadline : Option Nat) (early : ∀ moment ∈ deadline, r.now ≤ moment) :
    ∃ s b, Onward first room r a s b ∧ s.move? = none ∧
      (∀ moment ∈ deadline, s.now ≤ moment ∧ (r.now < moment → s.now < moment)) ∧
      Ends happened deadline s (r.waitUntil happened deadline) := by
  obtain ⟨-, -, left, -⟩ := watched.settle
  exact watched.waitFrom happened deadline early (Nat.lt_of_le_of_lt left (left_lt r))

theorem onward_waitUntil (watched : r.Watched first room a) (happened : Rehearsal → Bool)
    (deadline : Option Nat) (early : ∀ moment ∈ deadline, r.now ≤ moment) :
    ∃ b, Onward first room r a (r.waitUntil happened deadline) b := by
  obtain ⟨s, b, onward, -, soon, ends⟩ := watched.waitUntil happened deadline early
  generalize r.waitUntil happened deadline = waited at ends ⊢
  cases ends with
  | met | idle => exact ⟨b, onward⟩
  | late moment limited =>
      obtain ⟨c, passed⟩ := onward.watched.pass (soon moment limited).1
      obtain ⟨-, -, -, -, d, settled⟩ := passed.watched.settle
      exact ⟨d, (onward.trans passed).trans settled⟩

end Watched

theorem Watched.changed (watched : r.Watched first room a) {q : Pipeline}
    (reached : Reached first { r with pipeline := q }) (meanwhile : a.Meanwhile b)
    (pipeline : b.traffic.pipeline = q) (now : b.now = a.now) (shares : q.shares = r.pipeline.shares)
    (posts : q.posts = r.pipeline.posts) (stage : q.stage = r.pipeline.stage) :
    Onward first room r a { r with pipeline := q } b := by
  obtain ⟨steps, -, rfl⟩ := id meanwhile
  exact ⟨meanwhile, ⟨reached, watched.kept.run steps, pipeline, now.trans watched.now,
    shares.trans watched.unshared, posts ▸ watched.posted, stage ▸ watched.awaited⟩, rfl⟩

theorem Watched.request (watched : r.Watched first room a) (operation : Operation) :
    ∃ b, Onward first room r a { r with pipeline := (r.pipeline.request operation).1 } b := by
  have reached := watched.toReached.play [.request operation]
  cases call : operation.call with
  | error cause =>
      have same : (r.pipeline.request operation).1 = r.pipeline := by
        simp only [Pipeline.request, call]
      rw [same]
      exact ⟨a, watched.stays⟩
  | ok call' =>
      let caller := a.traffic.attempts.length
      let steps : List Audience.Step := .begin call' :: List.replicate 4 (.advance caller)
      have shared : ∀ step ∈ steps, step.isShared = true := by
        intro step listed
        rcases List.mem_cons.mp listed with rfl | advance
        · rfl
        · rw [(List.mem_replicate.mp advance).2]
          rfl
      have submitted : (a.run steps).traffic.pipeline = (r.pipeline.request operation).1 := by
        have whole := a.traffic.pipeline_submit call'
        rw [watched.pipeline] at whole
        simp only [Pipeline.request, call]
        exact whole
      refine ⟨a.run steps, watched.changed reached ⟨steps, shared, rfl⟩ submitted rfl ?_ ?_ ?_⟩ <;>
      · rcases r.pipeline.request_cases operation with same | ⟨other, -, accepted⟩
        · rw [same]
        · rw [accepted]
          rfl

theorem Watched.close (watched : r.Watched first room a) :
    ∃ b, Onward first room r a { r with pipeline := r.pipeline.close } b := by
  have closed : (a.step .shutdown).traffic.pipeline = r.pipeline.close := by
    rw [← watched.pipeline]
    rfl
  exact ⟨_, watched.changed (watched.toReached.play [.close]) (.step a .shutdown rfl) closed rfl rfl rfl rfl⟩

end Rehearsal

end FeedBridge.Trading
