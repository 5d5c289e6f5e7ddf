import FeedBridge.Proofs.Trading.Watched

namespace FeedBridge.Trading

namespace Audience

theorem hold_self (a : Audience) {ticket : Nat} (issued : ticket < a.traffic.pipeline.nextTicket)
    (act : Handle.Act) : (a.step (.hold ticket act)).handles ticket =
      (a.handles ticket).act a.traffic.pipeline.hasReceiver a.now act := by
  simp [Audience.step, issued, onHandle]

theorem hold_other (a : Audience) {ticket other : Nat} (different : other ≠ ticket)
    (act : Handle.Act) : (a.step (.hold ticket act)).handles other = a.handles other := by
  simp only [Audience.step]
  split_ifs
  · simp [onHandle, different]
  · rfl

end Audience

namespace Rehearsal

variable {first : Pipeline} {room : Nat} {r s next : Rehearsal} {a b c : Audience}

theorem Watched.hold (watched : r.Watched first room a) (ticket : Nat) (act : Handle.Act) :
    r.Watched first room (a.step (.hold ticket act)) := by
  have seen := a.common_hold ticket act
  simp only [Audience.common, Prod.mk.injEq] at seen
  obtain ⟨traffic, now, -⟩ := seen
  exact ⟨watched.toReached, watched.kept.step _, traffic ▸ watched.pipeline, now.trans watched.now,
    watched.unshared, watched.posted, watched.awaited⟩

structure Told (first : Pipeline) (room : Nat) (r : Rehearsal) (a : Audience) (ticket : Nat)
    (after : Rehearsal) (response : Response) (b : Audience) : Prop where
  reached : ∃ steps, b = a.run steps
  watched : after.Watched first room b
  released : after.released = r.released
  others : ∀ other ≠ ticket, (b.handles other).stance = (a.handles other).stance
  answered : ∃ result, response = .result result ∧ (b.handles ticket).answer? = some result

theorem Told.onward {ticket : Nat} {response : Response}
    (told : Told first room r a ticket s response b) (onward : Onward first room s b next c) :
    Told first room r a ticket next response c := by
  obtain ⟨⟨steps, rfl⟩, -, released, others, result, same, answered⟩ := told
  obtain ⟨later, -, rfl⟩ := id onward.meanwhile
  have stance := onward.meanwhile.stance
  refine ⟨⟨steps ++ later, List.foldl_append.symm⟩, onward.watched,
    onward.released.trans released, fun other different => ?_, result, same, ?_⟩
  · rw [stance, others other different]
  · rw [← answered]
    unfold Handle.answer?
    rw [stance]

theorem Onward.told {ticket : Nat} {limit : Option Span}
    (onward : Onward first room r (a.step (.hold ticket (.wait limit))) s b) (act : Handle.Act)
    {result : Result} (answered : ((b.step (.hold ticket act)).handles ticket).answer? = some result) :
    Told first room r a ticket s (.result result) (b.step (.hold ticket act)) := by
  obtain ⟨steps, -, same⟩ := id onward.meanwhile
  refine ⟨⟨.hold ticket (.wait limit) :: (steps ++ [.hold ticket act]), ?_⟩,
    onward.watched.hold ticket act, onward.released, fun other different => ?_, result, rfl, answered⟩
  · rw [same]
    simp [Audience.run]
  · rw [Audience.hold_other b different, onward.meanwhile.stance, Audience.hold_other a different]

namespace Watched

variable {ticket : Nat} (watched : r.Watched first room a)
  (issued : ticket < r.pipeline.nextTicket) (holding : (a.handles ticket).stance = .holding)
include watched issued holding

theorem waits_on {limit : Option Span}
    (onward : Onward first room r (a.step (.hold ticket (.wait limit))) s b) :
    (b.handles ticket).stance = .waiting limit a.now ∧
      ticket < b.traffic.pipeline.nextTicket := by
  rw [← watched.pipeline] at issued
  have begun : ((a.step (.hold ticket (.wait limit))).handles ticket).stance =
      .waiting limit a.now := by
    rw [Audience.hold_self a issued]
    simp only [Handle.act, Handle.wait, holding]
  have grown := onward.meanwhile.nextTicket (watched.hold ticket _).kept onward.watched.kept
  have same := (watched.hold ticket (.wait limit)).pipeline.trans watched.pipeline.symm
  rw [same] at grown
  exact ⟨(onward.meanwhile.stance ticket).trans begun, Nat.lt_of_lt_of_le issued grown⟩

theorem told_by_look {limit : Option Span}
    (onward : Onward first room r (a.step (.hold ticket (.wait limit))) s b)
    (settled : isSettled ticket s = true) (error : RequestError) :
    Told first room r a ticket s (s.resultOr ticket error) (b.step (.hold ticket .look)) := by
  obtain ⟨waits, given⟩ := watched.waits_on issued holding onward
  obtain ⟨result, found⟩ := Option.isSome_iff_exists.mp settled
  have same : s.resultOr ticket error = .result result := by simp [resultOr, found]
  rw [same]
  refine onward.told .look ?_
  rw [Audience.hold_self b given]
  rw [← onward.watched.pipeline] at found
  exact (onward.watched.kept.shows ticket).answer_of_look waits found _

theorem told_by_timer {millis : Nat}
    (onward : Onward first room r (a.step (.hold ticket (.wait (some (.ofMillis millis))))) s b)
    (elapsed : r.now + millis ≤ s.now) :
    Told first room r a ticket s (s.resultOr ticket (.timeout (.ofMillis millis)))
      (b.step (.hold ticket .expire)) := by
  obtain ⟨waits, given⟩ := watched.waits_on issued holding onward
  have late : a.now + ((Span.ofMillis millis).nanos : Int) ≤ b.now := by
    rw [watched.now, onward.watched.now]
    simp only [momentOfMillis, Span.ofMillis]
    rw [← Int.natCast_add, ← Nat.add_mul]
    exact Int.ofNat_le.mpr (Nat.mul_le_mul_right _ elapsed)
  refine onward.told .expire ?_
  rw [Audience.hold_self b given, ← onward.watched.pipeline]
  exact (onward.watched.kept.shows ticket).answer_of_expire (onward.watched.kept.served given) waits late

theorem wait : ∃ b, Told first room r a ticket (r.waitUntil (isSettled ticket) none)
    ((r.waitUntil (isSettled ticket) none).resultOr ticket .dropped) b := by
  have waiting := watched.hold ticket (.wait none)
  obtain ⟨s, b, onward, rest, -, ends⟩ := waiting.waitUntil (isSettled ticket) none (by simp)
  obtain ⟨-, given⟩ := watched.waits_on issued holding onward
  generalize r.waitUntil (isSettled ticket) none = waited at ends ⊢
  cases ends with
  | met settled => exact ⟨_, watched.told_by_look issued holding onward settled _⟩
  | idle _ idle =>
      rw [onward.watched.pipeline] at given
      have settled := onward.watched.settled_of_idle rest idle given
      exact ⟨_, watched.told_by_look issued holding onward settled _⟩
  | late moment limited => cases limited

theorem waitTimeout (millis : Nat) : ∃ b, Told first room r a ticket
    (r.waitTimeout ticket millis).1 (r.waitTimeout ticket millis).2 b := by
  have waiting := watched.hold ticket (.wait (some (.ofMillis millis)))
  unfold Rehearsal.waitTimeout
  dsimp only
  by_cases instant : (millis = 0 || isSettled ticket r) = true
  · rw [if_pos instant]
    simp only [Bool.or_eq_true, decide_eq_true_eq] at instant
    rcases instant with rfl | settled
    · have told := watched.told_by_timer issued holding waiting.stays (Nat.le_refl _)
      obtain ⟨-, -, -, -, c, onward⟩ := told.watched.settle
      exact ⟨c, told.onward onward⟩
    · have told := watched.told_by_look issued holding waiting.stays settled
        (.timeout (.ofMillis millis))
      obtain ⟨-, -, -, -, c, onward⟩ := told.watched.settle
      exact ⟨c, told.onward onward⟩
  · rw [if_neg instant]
    have before : r.now < r.now + millis := by
      simp only [Bool.or_eq_true, decide_eq_true_eq, not_or] at instant
      omega
    obtain ⟨s, b, onward, -, soon, ends⟩ := waiting.waitUntil (isSettled ticket)
      (some (r.now + millis)) (by simp)
    obtain ⟨due, early⟩ := soon _ rfl
    generalize r.waitUntil (isSettled ticket) (some (r.now + millis)) = waited at ends ⊢
    cases ends with
    | met settled =>
        rw [if_neg (Nat.ne_of_lt (early before))]
        exact ⟨_, watched.told_by_look issued holding onward settled _⟩
    | idle unlimited => cases unlimited
    | late moment limited unsettled =>
        cases limited
        obtain ⟨c, passed⟩ := onward.watched.pass due
        have told := watched.told_by_timer issued holding (onward.trans passed) (Nat.le_refl _)
        have none : s.pipeline.result? ticket = none := by simpa [isSettled] using unsettled
        simp only [resultOr, none, Option.getD_none] at told
        obtain ⟨-, now, -, -, d, settled⟩ := told.watched.settle
        have now' : (s.stopAt (r.now + millis)).now = r.now + millis := now
        rw [if_pos now']
        exact ⟨d, told.onward settled⟩

end Watched

structure Mirrors (first : Pipeline) (room : Nat) (r : Rehearsal) (a : Audience) : Prop
    extends r.Watched first room a where
  held : ∀ ticket ∉ r.released, (a.handles ticket).stance = .holding

theorem Mirrors.onward (mirrors : r.Mirrors first room a) (onward : Onward first room r a next b) :
    ∃ steps, next.Mirrors first room (a.run steps) := by
  obtain ⟨steps, -, rfl⟩ := id onward.meanwhile
  refine ⟨steps, onward.watched, fun ticket held => ?_⟩
  rw [onward.released] at held
  exact (onward.meanwhile.stance ticket).trans (mirrors.held ticket held)

theorem Mirrors.release (mirrors : r.Mirrors first room a) {ticket : Nat}
    (watched : next.Watched first room b) (released : next.released = r.released)
    (others : ∀ other ≠ ticket, (b.handles other).stance = (a.handles other).stance) :
    (next.release ticket).Mirrors first room b := by
  refine ⟨⟨watched.toReached.congr rfl rfl rfl, watched.kept, watched.pipeline, watched.now,
    watched.unshared, watched.posted, watched.awaited⟩, fun other held => ?_⟩
  obtain ⟨different, held⟩ := not_or.mp (mt List.mem_cons.mpr held)
  rw [released] at held
  exact (others other different).trans (mirrors.held other held)

theorem Mirrors.told (mirrors : r.Mirrors first room a) {ticket : Nat} {response : Response}
    (told : Told first room r a ticket next response b) :
    ∃ steps result, (next.release ticket).Mirrors first room (a.run steps) ∧
      response = .result result ∧ ((a.run steps).handles ticket).answer? = some result := by
  obtain ⟨steps, rfl⟩ := told.reached
  obtain ⟨result, same, answered⟩ := told.answered
  exact ⟨steps, result, mirrors.release told.watched told.released told.others, same, answered⟩

def Step.IsTold (after : Audience) : Step → Response → Prop
  | .wait ticket, .result result => (after.handles ticket).answer? = some result
  | .waitTimeout ticket _, .result result => (after.handles ticket).answer? = some result
  | .release ticket, .released => (after.handles ticket).stance = .dropped
  | _, _ => True

theorem holds_iff (r : Rehearsal) (ticket : Nat) :
    r.holds ticket = true ↔ ticket < r.pipeline.nextTicket ∧ ticket ∉ r.released := by
  simp [holds]

theorem Mirrors.step (mirrors : r.Mirrors first room a) (step : Step) :
    ∃ steps, (r.step step).1.Mirrors first room (a.run steps) ∧
      step.IsTold (a.run steps) (r.step step).2 := by
  cases step with
  | request operation =>
      obtain ⟨b, onward⟩ := mirrors.request operation
      obtain ⟨steps, after⟩ := mirrors.onward onward
      have same : (r.step (.request operation)).1 =
          { r with pipeline := (r.pipeline.request operation).1 } := by
        simp only [Rehearsal.step]
        split <;> simp_all
      exact ⟨steps, same ▸ after, True.intro⟩
  | wait ticket =>
      unfold Rehearsal.step
      dsimp only
      split_ifs with held
      · exact ⟨[], mirrors, True.intro⟩
      · obtain ⟨issued, held⟩ := (holds_iff r ticket).mp (by simpa using held)
        obtain ⟨b, told⟩ := mirrors.wait issued (mirrors.held ticket held)
        obtain ⟨steps, result, after, same, answered⟩ := mirrors.told told
        refine ⟨steps, after, ?_⟩
        rw [same]
        exact answered
  | waitTimeout ticket millis =>
      unfold Rehearsal.step
      dsimp only
      split_ifs with held
      · exact ⟨[], mirrors, True.intro⟩
      · obtain ⟨issued, held⟩ := (holds_iff r ticket).mp (by simpa using held)
        obtain ⟨b, told⟩ := mirrors.waitTimeout issued (mirrors.held ticket held) millis
        obtain ⟨steps, result, after, same, answered⟩ := mirrors.told told
        refine ⟨steps, after, ?_⟩
        rw [same]
        exact answered
  | release ticket =>
      unfold Rehearsal.step
      dsimp only
      split_ifs with held
      · exact ⟨[], mirrors, True.intro⟩
      · obtain ⟨issued, held⟩ := (holds_iff r ticket).mp (by simpa using held)
        have holding := mirrors.held ticket held
        have others (other : Nat) (different : other ≠ ticket) :
            ((a.step (.hold ticket .drop)).handles other).stance = (a.handles other).stance := by
          rw [Audience.hold_other a different]
        refine ⟨[.hold ticket .drop],
          mirrors.release (mirrors.toWatched.hold ticket .drop) rfl others, ?_⟩
        rw [← mirrors.pipeline] at issued
        have dropped := Audience.hold_self a issued .drop
        have isOpen : (a.handles ticket).isOpen = true := by simp [Handle.isOpen, holding]
        simp only [Handle.act, Handle.drop, isOpen, if_true] at dropped
        exact congrArg Handle.stance dropped
  | sleep millis =>
      obtain ⟨b, onward⟩ := mirrors.onward_waitUntil (fun _ => false)
        (some (r.now + millis)) (by simp)
      obtain ⟨steps, after⟩ := mirrors.onward onward
      exact ⟨steps, after, True.intro⟩
  | yield =>
      obtain ⟨-, -, -, -, b, onward⟩ := mirrors.settle
      obtain ⟨steps, after⟩ := mirrors.onward onward
      exact ⟨steps, after, True.intro⟩
  | shutdown =>
      obtain ⟨b, closed⟩ := mirrors.close
      obtain ⟨c, waited⟩ := closed.watched.onward_waitUntil (fun r => !r.pipeline.hasReceiver)
        none (by simp)
      obtain ⟨steps, after⟩ := mirrors.onward (closed.trans waited)
      exact ⟨steps, after, True.intro⟩

theorem Mirrors.run (mirrors : r.Mirrors first room a) (steps : List Step) :
    ∃ acts, (r.run steps).2.Mirrors first room (a.run acts) := by
  induction steps generalizing r a with
  | nil => exact ⟨[], mirrors⟩
  | cons step rest ih =>
      obtain ⟨acts, stepped, -⟩ := mirrors.step step
      obtain ⟨later, done⟩ := ih stepped
      refine ⟨acts ++ later, ?_⟩
      rw [Audience.run, List.foldl_append]
      exact done

theorem mirrors_begin {key secret : String} {capacity : Nat} {script : Script} {r : Rehearsal}
    (began : begin key secret capacity script = .ok r) (sturdy : script.Sturdy) :
    r.Mirrors r.pipeline (max capacity 1)
      { traffic := { pipeline := r.pipeline }, now := momentOfMillis r.now } := by
  obtain ⟨reached, idle, credentials, reply, started⟩ := reached_begin began sturdy
  have kept := Audience.kept_start started
  obtain ⟨token, -, fresh⟩ := Pipeline.start_ok started
  refine ⟨⟨reached, kept, rfl, rfl, ?_, ?_, ?_⟩, fun ticket _ => rfl⟩
  · rw [fresh]
  · simp [fresh]
  · rw [fresh]
    exact idle

theorem answers_told {key secret : String} {capacity : Nat} {script : Script} {r : Rehearsal}
    (began : begin key secret capacity script = .ok r) (sturdy : script.Sturdy) (steps : List Step)
    (step : Step) :
    let next := (r.run steps).2.step step
    let start : Audience := { traffic := { pipeline := r.pipeline }, now := momentOfMillis r.now }
    ∃ acts, (start.run acts).traffic.pipeline = next.1.pipeline ∧
      (start.run acts).now = momentOfMillis next.1.now ∧ step.IsTold (start.run acts) next.2 := by
  intro next start
  obtain ⟨acts, before⟩ := (mirrors_begin began sturdy).run steps
  obtain ⟨later, after, told⟩ := before.step step
  have whole : start.run (acts ++ later) = (start.run acts).run later := List.foldl_append
  refine ⟨acts ++ later, ?_, ?_, ?_⟩
  · rw [whole]
    exact after.pipeline
  · rw [whole]
    exact after.now
  · rw [whole]
    exact told

end Rehearsal

end FeedBridge.Trading
