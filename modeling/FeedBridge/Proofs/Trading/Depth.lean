import FeedBridge.Proofs.Trading.Books

/-!
# The depth counter

A caller raises the counter before it offers its call, and lowers it again if the call is refused;
the worker lowers it after it took a call out. So the counter is never behind the queue: it is ahead
of it by the calls that are on their way in or out (`Traffic.Measured`). It is never lowered from
zero, and a counter of 64 bits that wraps around never does (`Traffic.depth_measured`).
-/

namespace FeedBridge.Trading

def Stage.undiscounted : Stage → Nat
  | .received _ => 1
  | _ => 0

theorem Stage.undiscounted_le (stage : Stage) : stage.undiscounted ≤ stage.job?.toList.length := by
  cases stage <;> simp [undiscounted, job?]

namespace Attempt

/-- Whether a caller has raised the counter for a call that is not in the queue, and has not lowered
it again. -/
def isAhead (a : Attempt) : Bool :=
  match a.phase with
  | .announced | .answered (.error _) => true
  | .sharing | .answered (.ok _) | .counted _ | .done _ => false

theorem not_isAhead_of_unshared {a : Attempt} (unshared : a.hasShare = false) :
    a.isAhead = false := by
  unfold hasShare at unshared
  unfold isAhead
  rcases phase : a.phase with _ | _ | (cause | ticket) | answer | answer <;> simp_all

theorem not_isAhead_of_accepted {a : Attempt} (accepted : a.job?.isSome) : a.isAhead = false := by
  unfold job? answer? at accepted
  unfold isAhead
  rcases phase : a.phase with _ | _ | (cause | ticket) | answer | answer <;> simp_all

theorem Advanced.balance {p q : Pipeline} {a b : Attempt} (advanced : Advanced p a q b) :
    q.counters.depth + p.waiting.length + a.isAhead.toNat =
      p.counters.depth + q.waiting.length + b.isAhead.toNat := by
  cases advanced with
  | announce sharing =>
      simp [Pipeline.announce, Pipeline.setDepth, isAhead, sharing]
      omega
  | accept announced alive room =>
      simp [Pipeline.enqueue, isAhead, announced]
      omega
  | refuse cause announced => simp [isAhead, announced]
  | count ticket answered =>
      simp [Pipeline.countSubmission, Pipeline.publishDepth, isAhead, answered]
  | withdraw cause answered =>
      simp [Pipeline.withdraw, Pipeline.setDepth, isAhead, answered]
      omega
  | leave answer counted => simp [Pipeline.returnShare, isAhead, counted]
  | stay answer ended => rfl

end Attempt

namespace Traffic

variable {t : Traffic} {room : Nat}

def depth (t : Traffic) : Int := t.pipeline.counters.depth

def Measured (t : Traffic) : Prop :=
  t.depth = t.pipeline.waiting.length + t.attempts.countP Attempt.isAhead +
    t.pipeline.stage.undiscounted

@[simp] theorem depth_settle (p : Pipeline) (job : Job) (result : Result) :
    (p.settle job result).counters.depth = p.counters.depth := by
  cases result <;> rfl

theorem Measured.begin (measured : t.Measured) (call : Call) : (t.begin call).Measured := by
  unfold Measured depth at *
  rcases begin_cases t call with ⟨-, begun⟩ | ⟨-, begun⟩
  · rw [begun]
    simpa [List.countP_cons, Attempt.isAhead] using measured
  · rw [begun]
    simpa [List.countP_cons, Attempt.isAhead] using measured

theorem Measured.advance (measured : t.Measured) (caller : Nat) : (t.advance caller).Measured := by
  rcases advance_cases t caller with stays | ⟨a, q, b, found, advanced, next⟩
  · rw [stays]
    exact measured
  · obtain ⟨before, after, split, replaced⟩ := attempts_split found
    have balance := advanced.balance
    have stage := advanced.undisturbed.1.stage
    have weight (a : Attempt) : (if a.isAhead = true then 1 else 0) = a.isAhead.toNat := by
      cases a.isAhead <;> rfl
    unfold Measured depth at *
    rw [split, List.countP_append, List.countP_cons, weight] at measured
    rw [next, replaced, List.countP_append, List.countP_cons, weight]
    rw [← stage] at measured
    dsimp only
    omega

theorem Measured.work (measured : t.Measured) (now : Instant) (reply : Reply) :
    (t.work now reply).Measured := by
  have worked := worked t now reply
  unfold Measured depth at *
  generalize t.work now reply = next at worked ⊢
  cases worked with
  | gone | idle => exact measured
  | finish ready => rwa [ready] at measured
  | receive job rest ready queue =>
      rw [ready, queue] at measured
      simp only [Stage.undiscounted, List.length_cons] at measured ⊢
      omega
  | discount job received =>
      rw [received] at measured
      simp only [Stage.undiscounted, Pipeline.publishDepth, Pipeline.setDepth] at measured ⊢
      omega
  | askToken job dispatching | call job dispatching => rwa [dispatching] at measured
  | renew job token authenticating => rwa [authenticating] at measured
  | refuse job cause authenticating =>
      rw [authenticating] at measured
      rwa [depth_settle]
  | settle job calling =>
      rw [calling] at measured
      rwa [depth_settle]

theorem Measured.step (measured : t.Measured) (step : Step) : (t.step step).Measured := by
  cases step with
  | begin call => exact measured.begin call
  | advance caller => exact measured.advance caller
  | work now reply => exact measured.work now reply
  | shutdown | release => exact measured

theorem Measured.run (measured : t.Measured) (steps : List Step) : (t.run steps).Measured := by
  induction steps generalizing t with
  | nil => exact measured
  | cons step rest ih => exact ih (measured.step step)

theorem measured_start {credentials : Credentials} {capacity : Nat} {seed : UInt64} {reply : Reply}
    {now : Instant} {p : Pipeline}
    (started : Pipeline.start credentials capacity seed reply now = .ok p) :
    Measured { pipeline := p } := by
  obtain ⟨token, -, rfl⟩ := Pipeline.start_ok started
  rfl

theorem Measured.waiting_le (measured : t.Measured) :
    (t.pipeline.waiting.length : Int) ≤ t.depth := by
  unfold Measured at measured
  omega

theorem Measured.depth_le (measured : t.Measured) (sound : t.Sound room) :
    t.depth ≤ t.attempts.length := by
  have owned := sound.callers.owned.length_eq
  have order := congrArg List.length sound.line.order
  have hands := congrArg List.length sound.desk.hands
  have undiscounted := t.pipeline.stage.undiscounted_le
  have split := List.length_eq_countP_add_countP Attempt.isAhead (l := t.attempts)
  have apart : t.attempts.countP (fun a => a.job?.isSome) ≤
      t.attempts.countP (fun a => decide (¬a.isAhead = true)) :=
    List.countP_mono_left fun a _ accepted => by
      simp [Attempt.not_isAhead_of_accepted accepted]
  rw [List.length_filterMap_eq_countP] at owned
  rw [List.length_append] at order hands
  unfold Measured at measured
  omega

/-! ## Words -/

theorem depth_step (t : Traffic) (step : Step) :
    (t.step step).depth = t.depth ∨ (t.step step).depth = t.depth + 1 ∨
      (t.step step).depth = t.depth - 1 := by
  unfold depth
  cases step with
  | begin call =>
      left
      rw [step_begin]
      rcases begin_cases t call with ⟨-, begun⟩ | ⟨-, begun⟩ <;> rw [begun]
  | advance caller =>
      rw [step_advance]
      rcases advance_cases t caller with stays | ⟨a, q, b, -, advanced, next⟩
      · rw [stays]
        exact .inl rfl
      · rw [next]
        cases advanced with
        | announce => exact .inr (.inl rfl)
        | withdraw => exact .inr (.inr rfl)
        | _ => exact .inl rfl
  | work now reply =>
      have worked := worked t now reply
      rw [step_work]
      generalize t.work now reply = next at worked ⊢
      cases worked with
      | discount => exact .inr (.inr rfl)
      | refuse | settle => exact .inl (depth_settle _ _ _)
      | _ => exact .inl rfl
  | shutdown | release => exact .inl rfl

def followed (word : UInt64) (before after : Int) : UInt64 :=
  if before < after then word + 1 else if after < before then word - 1 else word

theorem toNat_followed {word : UInt64} {before after : Int} (shown : word.toNat = before)
    (near : after = before ∨ after = before + 1 ∨ after = before - 1) (lower : 0 ≤ after)
    (upper : after < UInt64.size) : (followed word before after).toNat = after := by
  have one : (1 : UInt64).toNat = 1 := rfl
  unfold followed
  rcases near with same | raised | lowered
  · rw [if_neg (by omega), if_neg (by omega), same, shown]
  · have fits : word.toNat + 1 < UInt64.size := by omega
    rw [if_pos (by omega), UInt64.toNat_add, one, Nat.mod_eq_of_lt fits, raised, ← shown]
    rfl
  · have positive : 1 ≤ word := by
      rw [UInt64.le_iff_toNat_le, one]
      omega
    rw [if_neg (by omega), if_pos (by omega), UInt64.toNat_sub_of_le _ _ positive, one]
    omega

/-- What a word shows that follows the counter through a run. -/
def register (t : Traffic) (word : UInt64) : List Step → UInt64
  | [] => word
  | step :: rest => (t.step step).register (followed word t.depth (t.step step).depth) rest

theorem attempts_step (t : Traffic) (step : Step) :
    t.attempts.length ≤ (t.step step).attempts.length := by
  cases step with
  | begin call =>
      rw [step_begin]
      rcases begin_cases t call with ⟨-, begun⟩ | ⟨-, begun⟩ <;> rw [begun] <;> simp
  | advance caller =>
      rw [step_advance]
      rcases advance_cases t caller with stays | ⟨a, q, b, -, -, next⟩
      · rw [stays]
      · rw [next, List.length_set]
  | work now reply =>
      have worked := worked t now reply
      rw [step_work]
      generalize t.work now reply = next at worked ⊢
      cases worked <;> exact Nat.le_refl _
  | shutdown | release => exact Nat.le_refl _

theorem attempts_run (t : Traffic) (steps : List Step) :
    t.attempts.length ≤ (t.run steps).attempts.length := by
  induction steps generalizing t with
  | nil => exact Nat.le_refl _
  | cons step rest ih => exact Nat.le_trans (attempts_step t step) (ih _)

theorem Measured.register_eq (measured : t.Measured) (sound : t.Sound room) {word : UInt64}
    (shown : word.toNat = t.depth) (steps : List Step)
    (few : (t.run steps).attempts.length < UInt64.size) :
    (t.register word steps).toNat = (t.run steps).depth := by
  induction steps generalizing t word with
  | nil => exact shown
  | cons step rest ih =>
      have later := measured.step step
      have soundly := sound.step step
      have lower := later.waiting_le
      have upper := later.depth_le soundly
      have fits := Nat.lt_of_le_of_lt (attempts_run (t.step step) rest) few
      exact ih later soundly
        (toNat_followed shown (depth_step t step) (by omega) (by omega)) few

/-- Whatever callers, worker and shutdown do after a start, section by section and in any order: the
counter shows the calls that wait, those announced or refused and not yet withdrawn, and the one
that the worker has not discounted yet. So it is never below the queue and never lowered from zero,
and it is the length of the queue when no submission and no receipt is on the way. A word of 64 bits
shows the same, as long as fewer submissions than words were ever begun. -/
theorem depth_measured {credentials : Credentials} {capacity : Nat} {seed : UInt64} {reply : Reply}
    {now : Instant} {p : Pipeline}
    (started : Pipeline.start credentials capacity seed reply now = .ok p) (steps : List Step) :
    let t := run { pipeline := p } steps
    t.depth = t.pipeline.waiting.length + t.attempts.countP Attempt.isAhead +
        t.pipeline.stage.undiscounted ∧
      t.pipeline.waiting.length ≤ t.depth ∧
      (∀ step, (t.step step).depth < t.depth → 0 < t.depth) ∧
      ((∀ a ∈ t.attempts, a.hasShare = false) → (∀ job, t.pipeline.stage ≠ .received job) →
        t.depth = t.pipeline.waiting.length) ∧
      (t.attempts.length < UInt64.size → (register { pipeline := p } 0 steps).toNat = t.depth) := by
  intro t
  have first := measured_start started
  have measured : t.Measured := first.run steps
  have shown : (0 : UInt64).toNat = depth { pipeline := p } := by
    obtain ⟨token, -, rfl⟩ := Pipeline.start_ok started
    rfl
  refine ⟨measured, measured.waiting_le, fun step lowered => ?_, fun resting between => ?_,
    first.register_eq (sound_start started) shown steps⟩
  · have lower := (measured.step step).waiting_le
    omega
  · have nobody : t.attempts.countP Attempt.isAhead = 0 :=
      List.countP_eq_zero.mpr fun a attempted => by
        simp [Attempt.not_isAhead_of_unshared (resting a attempted)]
    have nothing : t.pipeline.stage.undiscounted = 0 := by
      cases stage : t.pipeline.stage with
      | received job => exact absurd stage (between job)
      | _ => rfl
    rw [measured, nobody, nothing]
    simp

theorem depth_measured_of_late_withdrawal :
    let grant := Json.object [("result", .array [.string "a", .string "r", .nat 900])]
    let credentials : Credentials := ⟨"k", "s"⟩
    let p : Pipeline := {
      credentials
      capacity := 1
      token := ⟨"a", 900, 0⟩
      nextId := 8
      posts := [tokenPost credentials 7] }
    let call : Call := ⟨"private/cancel", .null⟩
    let steps := [.begin call, .begin call, .advance 0, .advance 1, .advance 0, .advance 1,
      .work 0 (.ok .null)]
    let t := run { pipeline := p } steps
    Pipeline.start credentials 1 7 (.ok grant) 0 = .ok p ∧ t.pipeline.waiting.length = 0 ∧
      t.attempts.countP Attempt.isAhead = 1 ∧ t.pipeline.stage.undiscounted = 1 ∧
      t.attempts.length < UInt64.size ∧ t.depth = 2 ∧
      (register { pipeline := p } 0 steps).toNat = t.depth := by
  intro grant credentials p call steps t
  have started : Pipeline.start credentials 1 7 (.ok grant) 0 = .ok p := rfl
  have few : t.attempts.length < UInt64.size := by decide
  have empty : t.pipeline.waiting.length = 0 := by decide
  have ahead : t.attempts.countP Attempt.isAhead = 1 := by decide
  have received : t.pipeline.stage.undiscounted = 1 := by decide
  obtain ⟨balance, -, -, -, register⟩ := depth_measured started steps
  rw [empty, ahead, received] at balance
  exact ⟨started, empty, ahead, received, few, balance, register few⟩

end Traffic

end FeedBridge.Trading
