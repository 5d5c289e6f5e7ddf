import FeedBridge.Proofs.Number.Registers
import FeedBridge.Proofs.Trading.Accounts

namespace FeedBridge.Trading

/-- The numbers that a pipeline counts and never lowers. -/
inductive Tally
  | submitted
  | succeeded
  | failed
  | renewed
  | renewalsPublished
  | published (outcome : Outcome)
  | timed (outcome : Outcome)

def Tally.read (tally : Tally) (p : Pipeline) : Nat :=
  match tally with
  | submitted => p.counters.submitted
  | succeeded => p.counters.succeeded
  | failed => p.counters.failed
  | renewed => p.counters.reauthentications
  | renewalsPublished => p.metrics.reauthentications
  | published outcome => p.metrics.requests.get outcome
  | timed outcome => p.metrics.timings.get outcome

def Attempt.isCounted (a : Attempt) : Bool :=
  match a.phase with
  | .counted (.ok _) | .done (.ok _) => true
  | _ => false

namespace Attempt.Advanced

variable {p q : Pipeline} {a b : Attempt}

theorem submitted (advanced : Attempt.Advanced p a q b) :
    (b.isCounted = a.isCounted ∧ q.counters.submitted = p.counters.submitted) ∨
      (a.isCounted = false ∧ b.isCounted = true ∧
        q.counters.submitted = p.counters.submitted + 1) := by
  cases advanced with
  | announce sharing => exact .inl ⟨by simp only [isCounted, sharing], rfl⟩
  | accept announced | refuse _ announced => exact .inl ⟨by simp only [isCounted, announced], rfl⟩
  | count ticket answered => exact .inr ⟨by simp only [isCounted, answered], rfl, rfl⟩
  | withdraw cause answered => exact .inl ⟨by simp only [isCounted, answered], rfl⟩
  | leave answer counted =>
      refine .inl ⟨?_, rfl⟩
      cases answer <;> simp only [isCounted, counted]
  | stay => exact .inl ⟨rfl, rfl⟩

theorem recorded (advanced : Attempt.Advanced p a q b) (recorded : p.Recorded) : q.Recorded := by
  cases advanced <;> exact { recorded with }

end Attempt.Advanced

theorem get_le_bump (counts : PerOutcome) (outcome other : Outcome) :
    counts.get other ≤ (counts.bump outcome).get other := by
  rw [get_bump]
  exact Nat.le_add_right _ _

theorem countP_outcomes (settled : List (Nat × Result)) :
    settled.countP (fun entry => outcomeOf entry.2 = .success) +
        settled.countP (fun entry => outcomeOf entry.2 = .rejected) +
        settled.countP (fun entry => outcomeOf entry.2 = .failed) = settled.length := by
  induction settled with
  | nil => rfl
  | cons entry rest ih =>
      simp only [List.countP_cons, List.length_cons, ← ih]
      cases outcomeOf entry.2 <;> simp <;> omega

namespace Traffic

variable {t : Traffic} {room : Nat}

def settledAs (t : Traffic) (outcome : Outcome) : Nat :=
  t.pipeline.settled.countP fun entry => outcomeOf entry.2 = outcome

def total (t : Traffic) : Tally → Nat
  | .submitted => t.attempts.countP Attempt.isCounted
  | .succeeded => t.settledAs .success
  | .failed => t.settledAs .rejected + t.settledAs .failed
  | .renewed | .renewalsPublished => (t.executions.filterMap Execution.granted?).length
  | .published outcome | .timed outcome => t.settledAs outcome

structure Tallied (t : Traffic) : Prop extends t.pipeline.Recorded where
  submitted : t.pipeline.counters.submitted = t.attempts.countP Attempt.isCounted

namespace Tallied

theorem begin (tallied : t.Tallied) (call : Call) : (t.begin call).Tallied := by
  obtain ⟨recorded, submitted⟩ := tallied
  rcases begin_cases t call with ⟨-, begun⟩ | ⟨-, begun⟩
  all_goals
    rw [begun]
    refine ⟨{ recorded with }, ?_⟩
    simpa [List.countP_cons, Attempt.isCounted] using submitted

theorem advance (tallied : t.Tallied) (caller : Nat) : (t.advance caller).Tallied := by
  rcases advance_cases t caller with stays | ⟨a, q, b, found, advanced, next⟩
  · rwa [stays]
  · obtain ⟨before, after, split, replaced⟩ := attempts_split found
    obtain ⟨recorded, submitted⟩ := tallied
    rw [split, List.countP_append, List.countP_cons] at submitted
    rw [next]
    refine ⟨advanced.recorded recorded, ?_⟩
    rw [replaced, List.countP_append, List.countP_cons]
    rcases advanced.submitted with ⟨same, kept⟩ | ⟨fresh, counted, grown⟩
    · rw [kept, same, submitted]
    · rw [grown, counted, submitted, fresh]
      simp only [Bool.false_eq_true, if_false, if_true]
      omega

theorem work (tallied : t.Tallied) (now : Instant) (reply : Reply) :
    (t.work now reply).Tallied := by
  have worked := worked t now reply
  generalize t.work now reply = next at worked ⊢
  obtain ⟨recorded, submitted⟩ := tallied
  cases worked with
  | gone | idle => exact ⟨recorded, submitted⟩
  | finish | receive | discount | askToken | call => exact ⟨{ recorded with }, submitted⟩
  | renew job token => exact ⟨{ recorded.renew token with }, submitted⟩
  | refuse job cause => exact ⟨recorded.settle job _, submitted⟩
  | settle job =>
      refine ⟨recorded.settle job _, ?_⟩
      cases resultOfReply reply <;> exact submitted

theorem step (tallied : t.Tallied) (step : Step) : (t.step step).Tallied := by
  cases step with
  | begin call => exact tallied.begin call
  | advance caller => exact tallied.advance caller
  | work now reply => exact tallied.work now reply
  | shutdown => exact { tallied with }
  | release => exact tallied

theorem run (tallied : t.Tallied) (steps : List Step) : (t.run steps).Tallied := by
  induction steps generalizing t with
  | nil => exact tallied
  | cons step rest ih => exact ih (tallied.step step)

end Tallied

theorem tallied_start {credentials : Credentials} {capacity : Nat} {seed : UInt64} {reply : Reply}
    {now : Instant} {p : Pipeline}
    (started : Pipeline.start credentials capacity seed reply now = .ok p) :
    Tallied { pipeline := p } := by
  have recorded := Pipeline.recorded_start started
  obtain ⟨token, -, rfl⟩ := Pipeline.start_ok started
  exact ⟨recorded, rfl⟩

/-! ## Growing, and how far -/

theorem read_settle (tally : Tally) (p : Pipeline) (job : Job) (result : Result) :
    tally.read p ≤ tally.read (p.settle job result) := by
  cases tally with
  | submitted | renewed => cases result <;> exact Nat.le_refl _
  | succeeded =>
      cases result with
      | ok value => exact Nat.le_succ _
      | error cause => exact Nat.le_refl _
  | failed =>
      cases result with
      | ok value => exact Nat.le_refl _
      | error cause => exact Nat.le_succ _
  | renewalsPublished => exact Nat.le_refl _
  | published outcome | timed outcome => exact get_le_bump _ _ _

theorem read_step (tally : Tally) (t : Traffic) (step : Step) :
    tally.read t.pipeline ≤ tally.read (t.step step).pipeline := by
  cases step with
  | begin call =>
      rw [step_begin]
      rcases begin_cases t call with ⟨-, begun⟩ | ⟨-, begun⟩ <;> rw [begun]
      cases tally <;> exact Nat.le_refl _
  | advance caller =>
      rw [step_advance]
      rcases advance_cases t caller with stays | ⟨a, q, b, -, advanced, next⟩
      · rw [stays]
      · rw [next]
        cases advanced with
        | count =>
            cases tally with
            | submitted => exact Nat.le_succ _
            | _ => exact Nat.le_refl _
        | _ => cases tally <;> exact Nat.le_refl _
  | work now reply =>
      have worked := worked t now reply
      rw [step_work]
      generalize t.work now reply = next at worked ⊢
      cases worked with
      | refuse | settle => exact read_settle tally _ _ _
      | renew =>
          cases tally with
          | renewed | renewalsPublished => exact Nat.le_succ _
          | _ => exact Nat.le_refl _
      | _ => cases tally <;> exact Nat.le_refl _
  | shutdown | release => cases tally <;> exact Nat.le_refl _

theorem Sound.accepted_le (sound : t.Sound room) : t.accepted.length ≤ t.attempts.length := by
  rw [← sound.callers.owned.length_eq]
  exact List.length_filterMap_le _ _

theorem Sound.executions_le (sound : t.Sound room) : t.executions.length ≤ t.accepted.length := by
  have hands := congrArg List.length sound.desk.hands
  have order := congrArg List.length sound.line.order
  have awaits := sound.desk.awaits
  have current : t.current.toList.length ≤ t.pipeline.stage.job?.toList.length := by
    cases stage : t.pipeline.stage with
    | authenticating | calling =>
        rw [stage] at awaits
        obtain ⟨e, current, -⟩ := awaits
        simp [current, Stage.job?]
    | _ =>
        rw [stage] at awaits
        have nothing : t.current = none := awaits
        simp [nothing]
  simp only [executions, List.length_append, List.length_map] at hands order ⊢
  omega

theorem Tallied.read_eq {credentials : Credentials} {seed : UInt64} {initial : Token}
    (tallied : t.Tallied) (ledger : t.Ledger credentials seed initial) (tally : Tally) :
    tally.read t.pipeline = t.total tally := by
  cases tally with
  | submitted => exact tallied.submitted
  | succeeded => exact tallied.succeeded.trans (tallied.outcomes .success)
  | failed =>
      exact tallied.failed.trans
        (congrArg₂ (· + ·) (tallied.outcomes .rejected) (tallied.outcomes .failed))
  | renewed => exact ledger.renewals
  | renewalsPublished => exact tallied.renewals.symm.trans ledger.renewals
  | published outcome => exact tallied.outcomes outcome
  | timed outcome =>
      exact (congrArg (·.get outcome) tallied.timings).trans (tallied.outcomes outcome)

theorem Sound.total_le (sound : t.Sound room) (tally : Tally) :
    t.total tally ≤ t.attempts.length := by
  have accepted := sound.accepted_le
  have executed := sound.executions_le
  have settled : t.pipeline.settled.length ≤ t.executions.length := by
    rw [sound.settled_length, executions, List.length_append]
    exact Nat.le_add_right _ _
  have outcomes := countP_outcomes t.pipeline.settled
  have each (outcome : Outcome) : t.settledAs outcome ≤ t.pipeline.settled.length :=
    List.countP_le_length
  cases tally with
  | submitted => exact List.countP_le_length
  | succeeded => exact (each _).trans (settled.trans (executed.trans accepted))
  | failed =>
      have refused : t.settledAs .rejected + t.settledAs .failed ≤ t.pipeline.settled.length := by
        unfold settledAs
        omega
      exact refused.trans (settled.trans (executed.trans accepted))
  | renewed | renewalsPublished =>
      exact (List.length_filterMap_le _ _).trans (executed.trans accepted)
  | published outcome | timed outcome =>
      exact (each outcome).trans (settled.trans (executed.trans accepted))

/-- Whatever callers, worker and shutdown do after a start, section by section and in any order:
every counter shows what it counts, and so does a register of 64 bits that is raised along with it,
as long as fewer submissions than such a register has values were ever begun. -/
theorem tallies_told {credentials : Credentials} {capacity : Nat} {seed : UInt64} {reply : Reply}
    {now : Instant} {p : Pipeline}
    (started : Pipeline.start credentials capacity seed reply now = .ok p) (steps : List Step)
    (tally : Tally) :
    let t := run { pipeline := p } steps
    tally.read t.pipeline = t.total tally ∧
      (t.attempts.length < UInt64.size →
        (tracked step (fun t => tally.read t.pipeline) 0 { pipeline := p } steps).toNat =
          t.total tally) := by
  intro t
  have sound : t.Sound _ := (sound_start started).run steps
  have ledger : t.Ledger credentials seed p.token :=
    (ledger_start started).run (sound_start started) steps
  have read := ((tallied_start started).run steps).read_eq ledger tally
  refine ⟨read, fun few => ?_⟩
  have fits : tally.read t.pipeline < UInt64.size :=
    read ▸ Nat.lt_of_le_of_lt (sound.total_le tally) few
  have shown : (0 : UInt64).toNat = tally.read p := by
    obtain ⟨token, -, rfl⟩ := Pipeline.start_ok started
    cases tally with
    | published outcome | timed outcome => cases outcome <;> rfl
    | _ => rfl
  rw [← read]
  exact toNat_tracked_of_grows (read_step tally) shown fits

end Traffic

end FeedBridge.Trading
