import FeedBridge.Proofs.Trading.Accounts
import FeedBridge.Trading.Rehearsal

namespace FeedBridge.Trading

def Ending.IsReply : Ending → Prop
  | .reply _ => True
  | .crash => False

structure Script.Sturdy (s : Script) : Prop where
  inOrder : ∀ planned ∈ s.inOrder, planned.ending.IsReply
  grants : ∀ planned ∈ s.grants, planned.ending.IsReply
  answers : ∀ planned ∈ s.answers, planned.ending.IsReply

theorem Script.Sturdy.next {s : Script} (sturdy : s.Sturdy) (post : Post) :
    (s.next post).1.ending.IsReply ∧ (s.next post).2.Sturdy := by
  obtain ⟨inOrder, grants, answers, number, grant⟩ := s
  obtain ⟨calmInOrder, calmGrants, calmAnswers⟩ := sturdy
  unfold Script.next
  cases inOrder with
  | cons planned rest =>
      obtain ⟨first, others⟩ := List.forall_mem_cons.mp calmInOrder
      exact ⟨first, others, calmGrants, calmAnswers⟩
  | nil =>
      dsimp only
      split_ifs
      · cases grants with
        | cons planned rest =>
            obtain ⟨first, others⟩ := List.forall_mem_cons.mp calmGrants
            exact ⟨first, calmInOrder, others, calmAnswers⟩
        | nil => exact ⟨True.intro, calmInOrder, calmGrants, calmAnswers⟩
      · cases answers with
        | cons planned rest =>
            obtain ⟨first, others⟩ := List.forall_mem_cons.mp calmAnswers
            exact ⟨first, calmInOrder, calmGrants, others⟩
        | nil => exact ⟨True.intro, calmInOrder, calmGrants, calmAnswers⟩

namespace Rehearsal

structure Reached (first : Pipeline) (r : Rehearsal) : Prop where
  sturdy : r.script.Sturdy
  due : ∀ moment ending, r.due = some (moment, ending) → ending.IsReply
  played : ∃ moves, r.pipeline = first.play moves

namespace Reached

variable {first : Pipeline} {r : Rehearsal}

theorem play (reached : r.Reached first) (moves : List Pipeline.Move) :
    Reached first { r with pipeline := r.pipeline.play moves } := by
  obtain ⟨earlier, same⟩ := reached.played
  exact ⟨reached.sturdy, reached.due, earlier ++ moves, by rw [same, Pipeline.play_append]⟩

theorem await (reached : r.Reached first) : r.await.Reached first := by
  obtain ⟨sturdy, due, played⟩ := reached
  unfold Rehearsal.await
  split
  · rename_i post _ _
    obtain ⟨replied, later⟩ := sturdy.next post
    exact ⟨later, fun moment ending found => by cases found; exact replied, played⟩
  · rename_i post _ _
    obtain ⟨replied, later⟩ := sturdy.next post
    exact ⟨later, fun moment ending found => by cases found; exact replied, played⟩
  · exact ⟨sturdy, nofun, played⟩

theorem move (reached : r.Reached first) {next : Rehearsal} (moved : r.move? = some next) :
    next.Reached first := by
  unfold move? at moved
  cases due : r.due with
  | none =>
      rw [due] at moved
      dsimp only at moved
      split at moved
      · split_ifs at moved
        cases moved
        exact (reached.play [.dequeue, .dispatch (momentOfMillis r.now)]).await
      · cases moved
  | some pending =>
      obtain ⟨moment, ending⟩ := pending
      rw [due] at moved
      dsimp only at moved
      split_ifs at moved
      cases ending with
      | reply reply =>
          cases moved
          exact (reached.play [.hear reply (momentOfMillis r.now)]).await
      | crash => exact (reached.due moment .crash due).elim

theorem moves (reached : r.Reached first) (fuel : Nat) : (moves fuel r).Reached first := by
  induction fuel generalizing r with
  | zero => exact reached
  | succ fuel ih =>
      unfold Rehearsal.moves
      cases moved : r.move? with
      | none => exact reached
      | some next => exact ih (reached.move moved)

theorem congr (reached : r.Reached first) {other : Rehearsal} (script : other.script = r.script)
    (due : other.due = r.due) (pipeline : other.pipeline = r.pipeline) : other.Reached first :=
  ⟨script ▸ reached.sturdy, due ▸ reached.due, pipeline ▸ reached.played⟩

theorem settle (reached : r.Reached first) : r.settle.Reached first := reached.moves r.movesLeft

theorem stopAt (reached : r.Reached first) (moment : Nat) : (r.stopAt moment).Reached first :=
  settle (reached.congr rfl rfl rfl)

theorem waitFrom (reached : r.Reached first) (happened : Rehearsal → Bool) (deadline : Option Nat)
    (fuel : Nat) : (waitFrom happened deadline fuel r).Reached first := by
  induction fuel generalizing r with
  | zero => exact reached
  | succ fuel ih =>
      have settled := reached.settle
      unfold Rehearsal.waitFrom
      dsimp only
      split_ifs
      · exact settled
      · cases due : r.settle.due with
        | some pending =>
            cases deadline with
            | some deadline =>
                dsimp only
                split_ifs
                · exact settled.stopAt deadline
                · exact ih (settled.congr rfl due.symm rfl)
            | none => exact ih (settled.congr rfl due.symm rfl)
        | none =>
            cases deadline with
            | some deadline => exact settled.stopAt deadline
            | none => exact settled

theorem waitUntil (reached : r.Reached first) (happened : Rehearsal → Bool) (deadline : Option Nat) :
    (r.waitUntil happened deadline).Reached first :=
  reached.waitFrom happened deadline r.movesLeft

theorem waitTimeout (reached : r.Reached first) (ticket millis : Nat) :
    (r.waitTimeout ticket millis).1.Reached first := by
  unfold Rehearsal.waitTimeout
  dsimp only
  split_ifs
  · exact reached.settle
  · exact reached.waitUntil _ _
  · exact reached.waitUntil _ _

theorem step (reached : r.Reached first) (step : Step) : (r.step step).1.Reached first := by
  cases step with
  | request operation =>
      have requested := reached.play [.request operation]
      have same : (r.step (.request operation)).1 =
          { r with pipeline := r.pipeline.play [.request operation] } := by
        simp only [Rehearsal.step, Pipeline.play, Pipeline.move, List.foldl]
        split <;> simp_all
      rw [same]
      exact requested
  | wait ticket =>
      unfold Rehearsal.step
      dsimp only
      split_ifs
      · exact reached
      · exact (reached.waitUntil (isSettled ticket) none).congr rfl rfl rfl
  | waitTimeout ticket millis =>
      unfold Rehearsal.step
      dsimp only
      split_ifs
      · exact reached
      · exact (reached.waitTimeout ticket millis).congr rfl rfl rfl
  | release ticket =>
      unfold Rehearsal.step
      dsimp only
      split_ifs
      · exact reached
      · exact reached.congr rfl rfl rfl
  | sleep millis => exact reached.waitUntil (fun _ => false) (some (r.now + millis))
  | yield => exact reached.settle
  | shutdown => exact (reached.play [.close]).waitUntil (fun r => !r.pipeline.hasReceiver) none

end Reached

theorem begin_ok {key secret : String} {capacity : Nat} {script : Script} {r : Rehearsal}
    (began : begin key secret capacity script = .ok r) :
    ∃ credentials reply,
      Pipeline.start credentials capacity 0 reply (momentOfMillis r.now) = .ok r.pipeline ∧
      r.script = (script.next (tokenPost credentials 0)).2 ∧ r.due = none ∧ r.released = [] := by
  unfold begin at began
  generalize Credentials.ofTexts key secret = checked at began
  cases checked with
  | error cause => cases began
  | ok credentials =>
      dsimp only at began
      refine ⟨credentials, ?_⟩
      generalize script.next (tokenPost credentials 0) = next at began ⊢
      obtain ⟨⟨ending, delay⟩, rest⟩ := next
      cases ending with
      | crash => cases began
      | reply reply =>
          dsimp only at began
          cases started : Pipeline.start credentials capacity 0 reply (momentOfMillis delay) with
          | error cause => simp [started] at began
          | ok pipeline =>
              simp only [started, Except.ok.injEq] at began
              subst began
              exact ⟨reply, started, rfl, rfl, rfl⟩

theorem reached_begin {key secret : String} {capacity : Nat} {script : Script} {r : Rehearsal}
    (began : begin key secret capacity script = .ok r) (sturdy : script.Sturdy) :
    r.Reached r.pipeline ∧ r.due = none ∧ ∃ credentials reply,
      Pipeline.start credentials capacity 0 reply (momentOfMillis r.now) = .ok r.pipeline := by
  obtain ⟨credentials, reply, started, rest, due, -⟩ := begin_ok began
  refine ⟨⟨?_, fun moment ending found => ?_, [], rfl⟩, due, credentials, reply, started⟩
  · rw [rest]
    exact (sturdy.next _).2
  · rw [due] at found
    cases found

theorem Reached.run {first : Pipeline} {r : Rehearsal} (reached : r.Reached first)
    (steps : List Step) :
    (r.run steps).2.Reached first ∧
      ∀ report ∈ (r.run steps).1, ∃ moves, report.counters = (first.play moves).counters := by
  induction steps generalizing r with
  | nil => exact ⟨reached, nofun⟩
  | cons step rest ih =>
      have stepped := reached.step step
      obtain ⟨last, reports⟩ := ih stepped
      refine ⟨last, fun report reported => ?_⟩
      rcases List.mem_cons.mp reported with rfl | later
      · obtain ⟨moves, same⟩ := stepped.played
        exact ⟨moves, congrArg Pipeline.counters same⟩
      · exact reports report later

theorem reports_balance {key secret : String} {capacity : Nat} {script : Script} {r : Rehearsal}
    (began : begin key secret capacity script = .ok r) (sturdy : script.Sturdy) (steps : List Step)
    {report : Report} (reported : report ∈ (r.run steps).1) :
    ∃ waiting inHand : Nat, inHand ≤ 1 ∧ report.counters.depth = waiting ∧
      report.counters.submitted =
        report.counters.succeeded + report.counters.failed + waiting + inHand := by
  obtain ⟨reached, -, credentials, reply, started⟩ := reached_begin began sturdy
  obtain ⟨moves, same⟩ := (reached.run steps).2 report reported
  have balanced := (Pipeline.balanced_start started).play moves
  have conserved := balanced.conserved
  have few : (r.pipeline.play moves).stage.job?.toList.length ≤ 1 := by
    cases (r.pipeline.play moves).stage.job? <;> simp
  rw [same]
  exact ⟨_, _, few, balanced.depth, by omega⟩

end Rehearsal

end FeedBridge.Trading
