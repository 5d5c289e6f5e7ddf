import FeedBridge.Proofs.Client.Lane
import Mathlib.Tactic.SplitIfs

namespace FeedBridge

def Payloads (frames : List Frame) : Prop := ∀ frame ∈ frames, frame.isClose = false

section

variable {before : List Frame}

theorem writtenFrames_append (payloads : Payloads before)
    (rest : List Frame) : writtenFrames (before ++ rest) = before ++ writtenFrames rest := by
  induction before with
  | nil => rfl
  | cons frame more ih =>
      obtain ⟨first, others⟩ := List.forall_mem_cons.mp payloads
      simp [writtenFrames, first, ih others]

theorem writtenFrames_eq (payloads : Payloads before) : writtenFrames before = before := by
  simpa [writtenFrames] using writtenFrames_append payloads []

theorem singleton_prefix_writtenFrames (frame : Frame) (rest : List Frame) :
    [frame] <+: writtenFrames (frame :: rest) := by
  unfold writtenFrames
  split_ifs
  · exact List.prefix_rfl
  · exact ⟨writtenFrames rest, rfl⟩

end

/-! ## The writer -/

inductive Writer.Ending
  | farewell
  | broken (lost : Frame)
  | starved

inductive Writer.Phase
  | receiving
  | writing (frame : Frame)
  | ended (ending : Writer.Ending)

structure Writer where
  lane : Lane
  phase : Writer.Phase := .receiving
  written : List Frame := []

namespace Writer

inductive Event
  | send (payload : String)
  | close
  | receive
  | write (succeeds : Bool)
  | starve

def finish (w : Writer) (ending : Ending) : Writer :=
  { w with lane := w.lane.act .dropReceiver, phase := .ended ending }

def step (w : Writer) : Event → Writer
  | .send payload => { w with lane := w.lane.act (.send payload) }
  | .close => { w with lane := w.lane.act .close }
  | .receive =>
    match w.phase, w.lane.response .receive with
    | .receiving, .frames [frame] =>
      { w with lane := w.lane.act .receive, phase := .writing frame }
    | _, _ => w
  | .write succeeds =>
    match w.phase with
    | .writing frame =>
      if succeeds then
        let wrote := { w with phase := .receiving, written := w.written ++ [frame] }
        if frame.isClose then wrote.finish .farewell else wrote
      else w.finish (.broken frame)
    | _ => w
  | .starve =>
    match w.phase, w.lane.response .receive with
    | .receiving, .frames [] => w.finish .starved
    | _, _ => w

def run (w : Writer) (events : List Event) : Writer := events.foldl step w

def drain : Nat → List Event
  | 0 => []
  | rounds + 1 => .receive :: .write true :: drain rounds

/-- What an ending says about the frames that were written and those that were accepted. -/
def Ending.Explains : Ending → List Frame → List Frame → Prop
  | farewell, written, accepted =>
    written = writtenFrames accepted ∧ ∃ frame ∈ accepted, frame.isClose = true
  | broken lost, written, accepted => written ++ [lost] <+: writtenFrames accepted
  | starved, written, accepted => written = accepted ∧ Payloads accepted

def Stands (o : Outbox) (written received : List Frame) : Phase → Prop
  | .receiving => o.writerAlive = true ∧ received = written ∧ Payloads written
  | .writing frame => o.writerAlive = true ∧ received = written ++ [frame] ∧ Payloads written
  | .ended .farewell => o.writerAlive = false ∧ received = written ∧
    ∃ before last, written = before ++ [last] ∧ Payloads before ∧ last.isClose = true
  | .ended (.broken lost) =>
    o.writerAlive = false ∧ received = written ++ [lost] ∧ Payloads written
  | .ended .starved =>
    o.writerAlive = false ∧ received = written ∧ Payloads written ∧ o.waiting = []

structure Sound (room : Nat) (w : Writer) (o : Outbox) : Prop where
  honest : w.lane.Honest room o
  stands : Stands o w.written w.lane.received w.phase

variable {w : Writer} {room : Nat} {o : Outbox}

theorem Stands.alive_iff {written received : List Frame} {phase : Phase}
    (stands : Stands o written received phase) :
    o.writerAlive = true ↔ ∀ ending, phase ≠ .ended ending := by
  rcases phase with _ | frame | _ | lost | _
  · exact iff_of_true stands.1 (by simp)
  · exact iff_of_true stands.1 (by simp)
  all_goals exact iff_of_false (by simp [stands.1]) (by simp)

theorem Stands.frozen {written received : List Frame} {phase : Phase} {o' : Outbox}
    (stands : Stands o written received phase) (alive : o'.writerAlive = o.writerAlive)
    (frozen : o.writerAlive = false → o' = o) : Stands o' written received phase := by
  rcases phase with _ | frame | _ | lost | _
  · exact ⟨alive.trans stands.1, stands.2⟩
  · exact ⟨alive.trans stands.1, stands.2⟩
  all_goals exact frozen stands.1 ▸ stands

theorem Sound.offer (sound : w.Sound room o) {act : Lane.Act} {frame : Frame}
    (offers : act.frame? w.lane.format = some frame) :
    ∃ o', { w with lane := w.lane.act act }.Sound room o' := by
  obtain ⟨o', honest', received, alive, frozen⟩ := sound.honest.offer offers
  refine ⟨o', honest', ?_⟩
  dsimp only
  rw [received]
  exact sound.stands.frozen alive fun dead => (frozen dead).1

theorem Sound.receive (sound : w.Sound room o) (ready : w.phase = .receiving) :
    (o.waiting = [] ∧ w.step .receive = w) ∨
    ∃ frame rest, o.waiting = frame :: rest ∧
      w.step .receive = { w with lane := w.lane.act .receive, phase := .writing frame } ∧
      (w.step .receive).Sound room { o with waiting := rest } := by
  have stands := sound.stands
  rw [ready] at stands
  obtain ⟨alive, all, payloads⟩ := stands
  obtain ⟨told, honest', received⟩ := sound.honest.receive alive
  cases queue : o.waiting with
  | nil =>
      rw [queue] at told
      exact .inl ⟨rfl, by simp only [step, ready, told, List.take_nil]⟩
  | cons frame rest =>
      rw [queue] at told honest' received
      have next : w.step .receive =
          { w with lane := w.lane.act .receive, phase := .writing frame } := by
        simp only [step, ready, told, List.take_succ_cons, List.take_zero]
      refine .inr ⟨frame, rest, rfl, next, ?_⟩
      rw [next]
      exact ⟨honest', alive, by rw [received, all]; rfl, payloads⟩

theorem Sound.write (sound : w.Sound room o) {frame : Frame} (inHand : w.phase = .writing frame) :
    (w.step (.write true)).written = w.written ++ [frame] ∧
      ((frame.isClose = true ∧ (w.step (.write true)).phase = .ended .farewell ∧
          (w.step (.write true)).Sound room { o with writerAlive := false }) ∨
        (frame.isClose = false ∧ (w.step (.write true)).phase = .receiving ∧
          (w.step (.write true)).Sound room o)) := by
  have stands := sound.stands
  rw [inHand] at stands
  obtain ⟨alive, all, payloads⟩ := stands
  cases closes : frame.isClose with
  | true =>
      obtain ⟨honest', received⟩ := sound.honest.dropReceiver
      have next : w.step (.write true) =
          { w with phase := .receiving, written := w.written ++ [frame] }.finish .farewell := by
        simp [step, inHand, closes]
      rw [next]
      exact ⟨rfl, .inl ⟨rfl, rfl, honest', rfl, received.trans all, w.written, frame, rfl, payloads,
        closes⟩⟩
  | false =>
      have next : w.step (.write true) =
          { w with phase := .receiving, written := w.written ++ [frame] } := by
        simp [step, inHand, closes]
      rw [next]
      refine ⟨rfl, .inr ⟨rfl, rfl, sound.honest, alive, all, ?_⟩⟩
      exact List.forall_mem_append.mpr ⟨payloads, by simpa using closes⟩

theorem Sound.fail (sound : w.Sound room o) {frame : Frame} (inHand : w.phase = .writing frame) :
    (w.step (.write false)).Sound room { o with writerAlive := false } := by
  have stands := sound.stands
  rw [inHand] at stands
  obtain ⟨alive, all, payloads⟩ := stands
  obtain ⟨honest', received⟩ := sound.honest.dropReceiver
  have next : w.step (.write false) = w.finish (.broken frame) := by simp [step, inHand]
  rw [next]
  exact ⟨honest', rfl, received.trans all, payloads⟩

theorem Sound.starve (sound : w.Sound room o) (ready : w.phase = .receiving) :
    ∃ o', (w.step .starve).Sound room o' := by
  have stands := sound.stands
  rw [ready] at stands
  obtain ⟨alive, all, payloads⟩ := stands
  obtain ⟨told, -⟩ := sound.honest.receive alive
  cases queue : o.waiting with
  | nil =>
      rw [queue] at told
      obtain ⟨honest', received⟩ := sound.honest.dropReceiver
      have next : w.step .starve = w.finish .starved := by
        simp only [step, ready, told, List.take_nil]
      rw [next]
      exact ⟨_, honest', rfl, received.trans all, payloads, queue⟩
  | cons frame rest =>
      rw [queue] at told
      have stays : w.step .starve = w := by
        simp only [step, ready, told, List.take_succ_cons, List.take_zero]
      exact ⟨o, stays.symm ▸ sound⟩

theorem Sound.step (sound : w.Sound room o) (event : Event) :
    ∃ o', (w.step event).Sound room o' := by
  cases event with
  | send payload => exact sound.offer rfl
  | close => exact sound.offer rfl
  | receive =>
      cases phase : w.phase with
      | receiving =>
          rcases sound.receive phase with ⟨-, stays⟩ | ⟨_, _, -, -, sound'⟩
          · exact ⟨o, stays.symm ▸ sound⟩
          · exact ⟨_, sound'⟩
      | writing | ended => exact ⟨o, by simpa only [Writer.step, phase] using sound⟩
  | write succeeds =>
      cases phase : w.phase with
      | writing frame =>
          cases succeeds with
          | true =>
              rcases (sound.write phase).2 with ⟨-, -, sound'⟩ | ⟨-, -, sound'⟩ <;> exact ⟨_, sound'⟩
          | false => exact ⟨_, sound.fail phase⟩
      | receiving | ended => exact ⟨o, by simpa only [Writer.step, phase] using sound⟩
  | starve =>
      cases phase : w.phase with
      | receiving => exact sound.starve phase
      | writing | ended => exact ⟨o, by simpa only [Writer.step, phase] using sound⟩

theorem Sound.run (sound : w.Sound room o) (events : List Event) :
    ∃ o', (w.run events).Sound room o' := by
  induction events generalizing w o with
  | nil => exact ⟨o, sound⟩
  | cons event rest ih =>
      obtain ⟨o', sound'⟩ := sound.step event
      exact ih sound'

/-! ## What was written -/

def Phase.inHand : Phase → List Frame
  | writing frame => [frame]
  | receiving | ended _ => []

theorem Sound.accepted_eq (sound : w.Sound room o) (alive : o.writerAlive = true) :
    w.lane.accepted = w.written ++ (w.phase.inHand ++ o.waiting) ∧ Payloads w.written := by
  have stands := sound.stands
  have unended := stands.alive_iff.mp alive
  rw [← sound.honest.order]
  cases phase : w.phase with
  | receiving =>
      rw [phase] at stands
      obtain ⟨-, all, payloads⟩ := stands
      exact ⟨by rw [all]; rfl, payloads⟩
  | writing frame =>
      rw [phase] at stands
      obtain ⟨-, all, payloads⟩ := stands
      exact ⟨by rw [all, List.append_assoc]; rfl, payloads⟩
  | ended ending => exact absurd phase (unended ending)

theorem Sound.explains (sound : w.Sound room o) {ending : Ending}
    (ended : w.phase = .ended ending) : ending.Explains w.written w.lane.accepted := by
  have stands := sound.stands
  rw [← sound.honest.order]
  rw [ended] at stands
  cases ending with
  | farewell =>
      obtain ⟨-, all, before, last, split, payloads, closes⟩ := stands
      refine ⟨?_, last, ?_, closes⟩
      · rw [all, split, List.append_assoc, writtenFrames_append payloads]
        simp [writtenFrames, closes]
      · simp [all, split]
  | broken lost =>
      obtain ⟨-, all, payloads⟩ := stands
      rw [Ending.Explains, all, List.append_assoc, writtenFrames_append payloads]
      exact (List.prefix_append_right_inj _).mpr (singleton_prefix_writtenFrames lost _)
  | starved =>
      obtain ⟨-, all, payloads, empty⟩ := stands
      rw [Ending.Explains, all, empty, List.append_nil]
      exact ⟨rfl, payloads⟩

theorem Sound.written_prefix (sound : w.Sound room o) :
    w.written <+: writtenFrames w.lane.accepted := by
  cases phase : w.phase with
  | receiving | writing frame =>
      have alive := sound.stands.alive_iff.mpr (by simp [phase])
      obtain ⟨all, payloads⟩ := sound.accepted_eq alive
      rw [all, writtenFrames_append payloads]
      exact List.prefix_append _ _
  | ended ending =>
      have explains := sound.explains phase
      cases ending with
      | farewell => exact explains.1 ▸ List.prefix_rfl
      | broken lost => exact (List.prefix_append _ _).trans explains
      | starved =>
          have all : w.written = writtenFrames w.lane.accepted := by
            rw [writtenFrames_eq explains.2, explains.1]
          exact all ▸ List.prefix_rfl

theorem Sound.step_ended (sound : w.Sound room o) {ending : Ending}
    (ended : w.phase = .ended ending) (event : Event) :
    (w.step event).phase = .ended ending ∧ (w.step event).written = w.written ∧
      (w.step event).lane.accepted = w.lane.accepted := by
  have dead : o.writerAlive = false := by
    have alive := sound.stands.alive_iff
    rw [ended] at alive
    simpa using alive
  have frozen {act : Lane.Act} {frame : Frame} (offers : act.frame? w.lane.format = some frame) :
      (w.lane.act act).accepted = w.lane.accepted := by
    obtain ⟨o', -, -, -, frozen⟩ := sound.honest.offer offers
    exact (frozen dead).2
  cases event with
  | send payload => exact ⟨ended, rfl, frozen rfl⟩
  | close => exact ⟨ended, rfl, frozen rfl⟩
  | receive | write | starve => simp only [Writer.step, ended, and_self]

theorem Sound.run_ended (sound : w.Sound room o) {ending : Ending}
    (ended : w.phase = .ended ending) (events : List Event) :
    (w.run events).written = w.written ∧ (w.run events).lane.accepted = w.lane.accepted := by
  induction events generalizing w o with
  | nil => exact ⟨rfl, rfl⟩
  | cons event rest ih =>
      obtain ⟨o', sound'⟩ := sound.step event
      obtain ⟨phase, written, accepted⟩ := sound.step_ended ended event
      obtain ⟨written', accepted'⟩ := ih sound' phase
      exact ⟨written'.trans written, accepted'.trans accepted⟩

theorem Sound.hold (sound : w.Sound room o) (alive : o.writerAlive = true) {frame : Frame}
    {rest : List Frame} (left : w.phase.inHand ++ o.waiting = frame :: rest) :
    (w.step .receive).Sound room { o with waiting := rest } ∧
      (w.step .receive).phase = .writing frame ∧ (w.step .receive).written = w.written := by
  cases phase : w.phase with
  | receiving =>
      rw [phase] at left
      rcases sound.receive phase with ⟨empty, -⟩ | ⟨first, others, queue, next, sound'⟩
      · rw [empty] at left
        cases left
      · rw [queue] at left
        cases left
        exact ⟨sound', by rw [next], by rw [next]⟩
  | writing held =>
      rw [phase] at left
      cases left
      have stays : w.step .receive = w := by simp only [Writer.step, phase]
      rw [stays]
      exact ⟨sound, phase, rfl⟩
  | ended ending => exact absurd phase (sound.stands.alive_iff.mp alive ending)

theorem Sound.rest (sound : w.Sound room o) (alive : o.writerAlive = true)
    (nothing : w.phase.inHand ++ o.waiting = []) : (w.step .receive).step (.write true) = w := by
  obtain ⟨empty, idle⟩ := List.append_eq_nil_iff.mp nothing
  cases phase : w.phase with
  | receiving =>
      rcases sound.receive phase with ⟨-, stays⟩ | ⟨first, others, queue, -⟩
      · rw [stays]
        simp only [Writer.step, phase]
      · rw [idle] at queue
        cases queue
  | writing frame => simp [phase, Phase.inHand] at empty
  | ended ending => exact absurd phase (sound.stands.alive_iff.mp alive ending)

theorem Sound.run_drain (sound : w.Sound room o) (alive : o.writerAlive = true) {left : List Frame}
    (whole : w.phase.inHand ++ o.waiting = left) {rounds : Nat} (enough : left.length ≤ rounds) :
    (w.run (drain rounds)).written = w.written ++ writtenFrames left := by
  induction rounds generalizing w o left with
  | zero =>
      obtain rfl := List.eq_nil_of_length_eq_zero (Nat.le_zero.mp enough)
      exact (List.append_nil _).symm
  | succ rounds ih =>
      change (((w.step .receive).step (.write true)).run (drain rounds)).written = _
      cases left with
      | nil =>
          rw [sound.rest alive whole]
          exact ih sound alive whole (Nat.zero_le _)
      | cons frame rest =>
          obtain ⟨held, inHand, same⟩ := sound.hold alive whole
          obtain ⟨wrote, ⟨closes, ended, sound'⟩ | ⟨goesOn, ready, sound'⟩⟩ := held.write inHand
          · rw [(sound'.run_ended ended _).1, wrote, same]
            simp [writtenFrames, closes]
          · have further : Phase.inHand _ ++ rest = rest := congrArg (·.inHand ++ rest) ready
            rw [ih sound' alive further (Nat.le_of_succ_le_succ enough), wrote, same]
            simp [writtenFrames, goesOn]

theorem lane_step (w : Writer) (event : Event) : ∃ acts, (w.step event).lane = w.lane.run acts := by
  cases event with
  | send payload => exact ⟨[.send payload], rfl⟩
  | close => exact ⟨[.close], rfl⟩
  | receive =>
      simp only [step]
      split
      · exact ⟨[.receive], rfl⟩
      · exact ⟨[], rfl⟩
  | write succeeds =>
      simp only [step]
      split
      · split_ifs
        · exact ⟨[.dropReceiver], rfl⟩
        · exact ⟨[], rfl⟩
        · exact ⟨[.dropReceiver], rfl⟩
      · exact ⟨[], rfl⟩
  | starve =>
      simp only [step]
      split
      · exact ⟨[.dropReceiver], rfl⟩
      · exact ⟨[], rfl⟩

theorem lane_run (w : Writer) (events : List Event) :
    ∃ acts, (w.run events).lane = w.lane.run acts := by
  induction events generalizing w with
  | nil => exact ⟨[], rfl⟩
  | cons event rest ih =>
      obtain ⟨first, now⟩ := w.lane_step event
      obtain ⟨more, later⟩ := ih (w.step event)
      refine ⟨first ++ more, later.trans ?_⟩
      rw [now, Lane.run, Lane.run, Lane.run, List.foldl_append]

/-- Whatever is done to a session at both ends and in whatever order: the frames received and those
that wait are the accepted ones in order, no more of them wait than there is room for, and every
answer is true; a refused frame changes nothing but counts, and counts only if the receiver is still
there. A writer that has the receiving end writes the accepted frames in order, and stops after the
first farewell, at a write that fails, or when nothing more can come; if it is let to, it gets there. -/
theorem queue_is_honest (r : Roster) (id : SessionId) (format : WireFormat) (capacity : Nat) :
    let first := Lane.fresh r id format capacity
    let room := max capacity 1
    (∀ acts, let lane := first.run acts
      lane.id = id ∧ lane.format = format ∧
        ∃ o, lane.Honest room o ∧ (o.writerAlive = true ↔ .dropReceiver ∉ acts) ∧
          ∀ act, (∀ frame, act.frame? format = some frame → lane.response act =
              .accepted (some (o.writerAlive && o.waiting.length < room))) ∧
            ∃ o' drops, (lane.act act).Honest room o' ∧ lane.Proceeds room o act o' drops) ∧
    ∀ events, let w := run { lane := first } events
      (∃ acts, w.lane = first.run acts) ∧
        w.written <+: writtenFrames w.lane.accepted ∧
        (∀ ending, w.phase = .ended ending → ending.Explains w.written w.lane.accepted ∧
          ∀ later, (w.run later).written = w.written ∧
            (w.run later).lane.accepted = w.lane.accepted) ∧
        ((∀ ending, w.phase ≠ .ended ending) → ∀ rounds > room,
          (w.run (drain rounds)).written = writtenFrames w.lane.accepted) := by
  intro first room
  have honest : first.Honest room (.empty capacity) := Lane.honest_fresh r id format capacity
  refine ⟨fun acts => ?_, fun events => ?_⟩
  · intro lane
    obtain ⟨sameId, sameFormat⟩ := Lane.run_same first acts
    obtain ⟨o, honestO, alive⟩ := honest.run acts
    refine ⟨sameId, sameFormat, o, honestO, by simpa [Outbox.empty] using alive, fun act => ?_⟩
    obtain ⟨o', drops, honest', proceeds⟩ := honestO.act act
    refine ⟨fun frame offers => ?_, o', drops, honest', proceeds⟩
    exact proceeds.acted.answer (by rw [sameFormat]; exact offers)
  · intro w
    have begins : Sound room { lane := first } (.empty capacity) := ⟨honest, rfl, rfl, nofun⟩
    obtain ⟨o, sound⟩ := begins.run events
    refine ⟨lane_run _ events, sound.written_prefix, fun ending ended => ?_, fun unended => ?_⟩
    · exact ⟨sound.explains ended, sound.run_ended ended⟩
    · intro rounds enough
      have alive := sound.stands.alive_iff.mpr unended
      obtain ⟨all, payloads⟩ := sound.accepted_eq alive
      have fits := sound.honest.fits
      have few : (w.phase.inHand ++ o.waiting).length ≤ rounds := by
        have one : w.phase.inHand.length ≤ 1 := by cases w.phase <;> simp [Phase.inHand]
        rw [List.length_append]
        omega
      rw [all, writtenFrames_append payloads]
      exact sound.run_drain alive rfl few

end Writer

end FeedBridge
