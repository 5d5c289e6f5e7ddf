import FeedBridge.Proofs.Trading.Books

namespace FeedBridge.Trading

def Stage.depth : Stage → Nat
  | .received _ => 1
  | .dispatching _ => 2
  | .authenticating _ => 3
  | .calling _ => 4
  | .ready | .finished | .crashed => 0

namespace Traffic

variable {t : Traffic} {room : Nat}

def progress (t : Traffic) : Nat := 5 * t.pipeline.settled.length + t.pipeline.stage.depth

theorem progress_lt (t : Traffic) : t.progress < 5 * (t.pipeline.settled.length + 1) := by
  unfold progress Stage.depth
  split <;> omega

theorem progress_idle (t : Traffic) {step : Step} (idle : step.isWork = false) :
    (t.step step).progress = t.progress := by
  obtain ⟨undisturbed, -⟩ := step_undisturbed t idle
  simp only [progress, undisturbed.settled, undisturbed.stage]

theorem progress_work (t : Traffic) (now : Instant) (reply : Reply) :
    t.progress < (t.work now reply).progress ∨ t.pipeline.hasReceiver = false ∨
      (t.pipeline.stage = .ready ∧ t.pipeline.waiting = [] ∧
        (t.pipeline.accepting = false → t.pipeline.shares = 0 →
          (t.work now reply).pipeline.hasReceiver = false)) := by
  have worked := worked t now reply
  generalize t.work now reply = next at worked ⊢
  cases worked with
  | gone dead => exact .inr (.inl dead)
  | idle ready empty isOpen =>
      refine .inr (.inr ⟨ready, empty, fun closed unshared => ?_⟩)
      simp [closed, unshared] at isOpen
  | finish ready empty closed unshared => exact .inr (.inr ⟨ready, empty, fun _ _ => rfl⟩)
  | receive job rest ready | discount job ready | askToken job ready | call job ready
  | renew job token ready =>
      left
      simp [progress, ready, Stage.depth, Pipeline.publishDepth, Pipeline.setDepth,
        Pipeline.postToken, Pipeline.postCall, Pipeline.renew]
  | refuse job cause ready | settle job ready =>
      left
      simp only [progress, ready, Stage.depth, Pipeline.settle, Pipeline.countResult,
        List.length_append, List.length_singleton]
      omega

theorem step_grows (t : Traffic) (step : Step) :
    t.accepted <+: (t.step step).accepted ∧
      t.pipeline.settled <+: (t.step step).pipeline.settled := by
  rcases step.work_or_idle with ⟨now, reply, rfl⟩ | idle
  · have worked := worked t now reply
    rw [step_work]
    generalize t.work now reply = next at worked ⊢
    cases worked with
    | refuse | settle => exact ⟨List.prefix_rfl, List.prefix_append _ _⟩
    | _ => exact ⟨List.prefix_rfl, List.prefix_rfl⟩
  · refine ⟨?_, (step_undisturbed t idle).1.settled ▸ List.prefix_rfl⟩
    cases step with
    | advance caller =>
        rw [step_advance]
        rcases advance_cases t caller with stays | ⟨a, q, b, -, -, next⟩
        · exact stays.symm ▸ List.prefix_rfl
        · rw [next]
          exact List.prefix_append _ _
    | work now reply => cases idle
    | _ => exact List.prefix_rfl

theorem run_grows (t : Traffic) (steps : List Step) :
    t.accepted <+: (t.run steps).accepted ∧
      t.pipeline.settled <+: (t.run steps).pipeline.settled := by
  induction steps generalizing t with
  | nil => exact ⟨List.prefix_rfl, List.prefix_rfl⟩
  | cons step rest ih =>
      obtain ⟨accepted, settled⟩ := step_grows t step
      exact ⟨accepted.trans (ih _).1, settled.trans (ih _).2⟩

namespace Sound

theorem settled_or_progress (sound : t.Sound room) {ticket : Nat}
    (accepted : ticket < t.pipeline.nextTicket) (steps : List Step) :
    ticket < (t.run steps).pipeline.settled.length ∨
      t.progress + steps.countP Step.isWork ≤ (t.run steps).progress := by
  induction steps generalizing t with
  | nil => exact .inr (Nat.le_refl _)
  | cons step rest ih =>
      by_cases settled : ticket < t.pipeline.settled.length
      · exact .inl (Nat.lt_of_lt_of_le settled (run_grows t (step :: rest)).2.length_le)
      · have later := sound.step step
        have issued : t.pipeline.nextTicket ≤ (t.step step).pipeline.nextTicket := by
          have before := congrArg List.length sound.callers.tickets
          have after := congrArg List.length later.callers.tickets
          have grown := (step_grows t step).1.length_le
          simp only [List.length_map, List.length_range] at before after
          omega
        have continued := ih later (Nat.lt_of_lt_of_le accepted issued)
        refine continued.imp_right fun worked => ?_
        rw [run_cons]
        -- The call is accepted and not settled, so that a turn of the worker is never idle.
        rcases step.work_or_idle with ⟨now, reply, rfl⟩ | idle
        · have busy := sound.busy_of_unsettled (by omega)
          have forward : t.progress < (t.step (.work now reply)).progress := by
            rw [step_work]
            rcases progress_work t now reply with forward | gone | ⟨ready, empty, -⟩
            · exact forward
            · simp [gone] at busy
            · exact absurd ⟨ready, empty⟩ busy.2
          rw [List.countP_cons_of_pos rfl]
          omega
        · rw [progress_idle t idle] at worked
          simpa [idle] using worked

end Sound

theorem finished_step (finished : t.pipeline.stage = .finished)
    (step : Step) :
    (t.step step).pipeline.stage = .finished ∧ (t.step step).accepted = t.accepted := by
  cases step with
  | begin call =>
      rw [step_begin]
      rcases begin_cases t call with ⟨-, begun⟩ | ⟨-, begun⟩ <;>
        rw [begun] <;> exact ⟨finished, rfl⟩
  | advance caller =>
      rw [step_advance]
      rcases advance_cases t caller with stays | ⟨a, q, b, -, advanced, next⟩
      · rw [stays]
        exact ⟨finished, rfl⟩
      · rw [next]
        refine ⟨advanced.undisturbed.1.stage.trans finished, ?_⟩
        rcases advanced.accepts with ⟨same, -⟩ | ⟨-, -, -, alive, -⟩
        · rw [Attempt.news_of_same same, List.append_nil]
        · simp [Pipeline.hasReceiver, finished] at alive
  | work now reply =>
      rw [step_work, work_of_finished finished]
      exact ⟨finished, rfl⟩
  | shutdown | release => exact ⟨finished, rfl⟩

theorem finished_run (finished : t.pipeline.stage = .finished) (steps : List Step) :
    (t.run steps).pipeline.stage = .finished ∧ (t.run steps).accepted = t.accepted := by
  induction steps generalizing t with
  | nil => exact ⟨finished, rfl⟩
  | cons step rest ih =>
      obtain ⟨still, same⟩ := finished_step finished step
      exact ⟨(ih still).1, (ih still).2.trans same⟩

theorem phase_of_unshared {a : Attempt} (unshared : a.hasShare = false) :
    ∃ answer, a.phase = .done answer := by
  unfold Attempt.hasShare at unshared
  split at unshared
  · exact ⟨_, ‹_›⟩
  · cases unshared

namespace Sound

theorem closed_step (sound : t.Sound room) (closed : t.pipeline.accepting = false)
    (unshared : t.pipeline.shares = 0) (step : Step) :
    (t.step step).pipeline.accepting = false ∧ (t.step step).pipeline.shares = 0 ∧
      (t.step step).pipeline.nextTicket = t.pipeline.nextTicket := by
  cases step with
  | begin call =>
      rw [step_begin]
      rcases begin_cases t call with ⟨isOpen, -⟩ | ⟨-, begun⟩
      · simp [closed] at isOpen
      · rw [begun]
        exact ⟨closed, unshared, rfl⟩
  | advance caller =>
      rw [step_advance]
      rcases advance_cases t caller with stays | ⟨a, q, b, found, advanced, next⟩
      · rw [stays]
        exact ⟨closed, unshared, rfl⟩
      · -- Nobody has a share, so that the caller is done and its section changes nothing.
        have shares := sound.callers.shares
        rw [unshared, eq_comm, List.countP_eq_zero] at shares
        have ended := phase_of_unshared (by simpa using shares a (List.mem_of_getElem? found))
        obtain ⟨answer, ended⟩ := ended
        rw [next]
        cases advanced with
        | stay => exact ⟨closed, unshared, rfl⟩
        | _ => simp_all
  | work now reply =>
      have worked := worked t now reply
      rw [step_work]
      generalize t.work now reply = next at worked ⊢
      cases worked <;> exact ⟨closed, unshared, rfl⟩
  | shutdown => exact ⟨rfl, unshared, rfl⟩
  | release => exact ⟨closed, unshared, rfl⟩

theorem progress_le (sound : t.Sound room) : t.progress ≤ 5 * t.pipeline.nextTicket := by
  have counted := sound.accepted_length
  have bound := progress_lt t
  cases inHand : t.pipeline.stage.job? with
  | some job =>
      simp only [inHand, Option.toList, List.length_singleton] at counted
      omega
  | none =>
      have idle : t.pipeline.stage.depth = 0 := by
        cases stage : t.pipeline.stage <;> simp [stage, Stage.job?] at inHand <;> rfl
      unfold progress
      omega

theorem gone_or_progress (sound : t.Sound room) (closed : t.pipeline.accepting = false)
    (unshared : t.pipeline.shares = 0) (steps : List Step) :
    (t.run steps).pipeline.hasReceiver = false ∨
      ((t.run steps).pipeline.nextTicket = t.pipeline.nextTicket ∧
        t.progress + steps.countP Step.isWork ≤ (t.run steps).progress) := by
  induction steps generalizing t with
  | nil => exact .inr ⟨rfl, Nat.le_refl _⟩
  | cons step rest ih =>
      obtain ⟨stillClosed, stillUnshared, same⟩ := sound.closed_step closed unshared step
      rw [run_cons]
      rcases ih (sound.step step) stillClosed stillUnshared with gone | ⟨issued, worked⟩
      · exact .inl gone
      · rcases step.work_or_idle with ⟨now, reply, rfl⟩ | idle
        · rw [step_work] at *
          have stays (gone : (t.work now reply).pipeline.hasReceiver = false) :
              ((t.work now reply).run rest).pipeline.hasReceiver = false := by
            have finished := (sound.step (.work now reply)).finished_of_gone gone
            have still := (finished_run finished rest).1
            rw [step_work] at still
            simp only [Pipeline.hasReceiver, still]
          rcases progress_work t now reply with forward | gone | ⟨-, -, ends⟩
          · refine .inr ⟨issued.trans same, ?_⟩
            rw [List.countP_cons_of_pos rfl]
            omega
          · have finished := sound.finished_of_gone gone
            exact .inl (stays (by rw [work_of_finished finished, gone]))
          · exact .inl (stays (ends closed unshared))
        · rw [progress_idle t idle] at worked
          exact .inr ⟨issued.trans same, by simpa [idle] using worked⟩

theorem shutdown_drains (sound : t.Sound room) (closed : t.pipeline.accepting = false)
    (unshared : t.pipeline.shares = 0) (steps : List Step)
    (turns : 5 * t.pipeline.nextTicket < steps.countP Step.isWork) :
    (t.run steps).pipeline.hasReceiver = false := by
  rcases sound.gone_or_progress closed unshared steps with gone | ⟨issued, worked⟩
  · exact gone
  · have bound := (sound.run steps).progress_le
    omega

end Sound

/-- Whatever callers, worker and shutdown do after a start and in whatever order: the calls taken
and those that wait are the accepted ones in order, each of one attempt; each call taken is
executed once, and its ticket resolves to what this execution came to, for good, and after so many
sections of the worker at the latest; the queue has room for what waits; and a worker that is
finished has executed every accepted call, nobody has a share of the sender any more, and nothing
is accepted later. After a shutdown, when nobody has a share, the worker is finished after so many
of its sections at the latest. -/
theorem fifo_exactly_once {credentials : Credentials} {capacity : Nat} {seed : UInt64}
    {reply : Reply} {now : Instant} {p : Pipeline}
    (started : Pipeline.start credentials capacity seed reply now = .ok p) (steps : List Step) :
    let t := run { pipeline := p } steps
    t.taken ++ t.pipeline.waiting = t.accepted ∧
      t.accepted.map Job.ticket = List.range t.pipeline.nextTicket ∧
      (t.attempts.filterMap Attempt.job?).Perm t.accepted ∧
      t.pipeline.waiting.length ≤ max capacity 1 ∧
      t.done.map (·.job) ++ t.pipeline.stage.job?.toList = t.taken ∧
      t.pipeline.settled.map Prod.fst = t.done.map (·.job.ticket) ∧
      (t.pipeline.settled.map Prod.fst).Nodup ∧
      (∀ ticket result, t.pipeline.result? ticket = some result ↔
        ∃ e ∈ t.done, e.job.ticket = ticket ∧ e.outcome? = some result) ∧
      (∀ ticket, t.pipeline.result? ticket ≠ some (.error .dropped)) ∧
      (∀ later, t.pipeline.settled <+: (t.run later).pipeline.settled) ∧
      (∀ later, ∀ ticket < t.pipeline.nextTicket, 5 * (ticket + 1) ≤ later.countP Step.isWork →
        ∃ result, (t.run later).pipeline.result? ticket = some result) ∧
      (t.pipeline.hasReceiver = false →
        t.pipeline.waiting = [] ∧ t.done.map (·.job) = t.accepted ∧
          (∀ a ∈ t.attempts, a.hasShare = false ∧ ∀ job ∈ a.job?, ∃ e ∈ t.done, e.job = job) ∧
          ∀ later, (t.run later).accepted = t.accepted) ∧
      (t.pipeline.accepting = false → t.pipeline.shares = 0 →
        ∀ later, 5 * t.pipeline.nextTicket < later.countP Step.isWork →
          (t.run later).pipeline.hasReceiver = false) := by
  intro t
  have sound : t.Sound (max capacity 1) := (sound_start started).run steps
  have once : (t.pipeline.settled.map Prod.fst).Nodup := sound.settled_range ▸ List.nodup_range
  refine ⟨sound.line.order, sound.callers.tickets, sound.callers.owned, sound.line.fits,
    sound.desk.hands, sound.settled_tickets, once, sound.result?_iff, ?_,
    fun later => (run_grows t later).2, ?_, ?_, sound.shutdown_drains⟩
  · intro ticket dropped
    obtain ⟨e, -, -, outcome⟩ := (sound.result?_iff ticket _).mp dropped
    exact e.outcome?_ne_dropped outcome
  · intro later ticket accepted turns
    apply (sound.run later).result?_isSome
    rcases sound.settled_or_progress accepted later with settled | worked
    · exact settled
    · have bound := progress_lt (t.run later)
      omega
  · intro gone
    have finished := sound.finished_of_gone gone
    obtain ⟨empty, executed, unshared⟩ := sound.finished_all finished
    refine ⟨empty, executed, fun a attempted => ⟨unshared a attempted, ?_⟩,
      fun later => (finished_run finished later).2⟩
    intro job accepted
    have listed : job ∈ t.accepted :=
      sound.callers.owned.subset (List.mem_filterMap.mpr ⟨a, attempted, accepted⟩)
    rw [← executed] at listed
    exact List.mem_map.mp listed

theorem fifo_exactly_once_across_shutdown :
    let grant := Json.object [("result", .array [.string "a", .string "r", .nat 900])]
    let credentials : Credentials := ⟨"k", "s"⟩
    let p : Pipeline := {
      credentials
      capacity := 1
      token := ⟨"a", 900, 0⟩
      nextId := 8
      posts := [tokenPost credentials 7] }
    let call : Call := ⟨"private/cancel", .null⟩
    let work : Step := .work 0 (.error (.decode "x"))
    let steps := [.begin call, .shutdown, .begin call, work, .advance 0, .advance 0, work,
      .advance 0, .release 0, .advance 0, work, work, work, work]
    let t := run { pipeline := p } steps
    Pipeline.start credentials 0 7 (.ok grant) 0 = .ok p ∧ t.accepted.map Job.ticket = [0] ∧
      t.pipeline.hasReceiver = false ∧ t.done.map (·.job) = t.accepted := by
  intro grant credentials p call work steps t
  have started : Pipeline.start credentials 0 7 (.ok grant) 0 = .ok p := rfl
  have gone : t.pipeline.hasReceiver = false := by decide +kernel
  obtain ⟨-, -, -, -, -, -, -, -, -, -, -, drained, -⟩ := fifo_exactly_once started steps
  exact ⟨started, by decide +kernel, gone, (drained gone).2.1⟩

end Traffic

end FeedBridge.Trading
