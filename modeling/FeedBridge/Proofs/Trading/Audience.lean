import FeedBridge.Proofs.Trading.Queue
import Mathlib.Logic.Function.Basic

namespace FeedBridge.Trading

inductive Stance
  | holding
  | waiting (limit : Option Span) (since : Instant)
  | dropped
  | answered (result : Result)
  | timedOut (limit : Span) (since : Instant)

structure Handle where
  slot : Option Result := none
  stance : Stance := .holding

namespace Handle

def isOpen (h : Handle) : Bool :=
  match h.stance with
  | .holding | .waiting _ _ => true
  | .dropped | .answered _ | .timedOut _ _ => false

def answer? (h : Handle) : Option Result :=
  match h.stance with
  | .answered result => some result
  | .timedOut limit _ => some (.error (.timeout limit))
  | .holding | .waiting _ _ | .dropped => none

def send (h : Handle) (result : Result) : Handle × Except Result Unit :=
  if h.isOpen then ({ h with slot := some result }, .ok ()) else (h, .error result)

def wait (h : Handle) (limit : Option Span) (now : Instant) : Handle :=
  match h.stance with
  | .holding => { h with stance := .waiting limit now }
  | _ => h

def look (h : Handle) (alive : Bool) : Handle :=
  match h.stance, h.slot with
  | .waiting _ _, some result => { h with stance := .answered result }
  | .waiting _ _, none => if alive then h else { h with stance := .answered (.error .dropped) }
  | _, _ => h

def expire (h : Handle) (alive : Bool) (now : Instant) : Handle :=
  let looked := h.look alive
  match looked.stance with
  | .waiting (some limit) since =>
    if since + limit.nanos ≤ now then { looked with stance := .timedOut limit since } else looked
  | _ => looked

def drop (h : Handle) : Handle := if h.isOpen then { h with stance := .dropped } else h

inductive Act
  | wait (limit : Option Span)
  | look
  | expire
  | drop

def act (h : Handle) (alive : Bool) (now : Instant) : Act → Handle
  | .wait limit => h.wait limit now
  | .look => h.look alive
  | .expire => h.expire alive now
  | .drop => h.drop

def Shows (h : Handle) (result? : Option Result) (now : Instant) (moments : Instant → Prop) : Prop :=
  match h.stance with
  | .holding | .waiting _ _ => h.slot = result?
  | .dropped => True
  | .answered result => result? = some result
  | .timedOut limit since =>
    since + limit.nanos ≤ now ∧ ∀ moment, moments moment → since + limit.nanos ≤ moment

variable {h : Handle} {result? : Option Result} {now : Instant} {moments : Instant → Prop}

theorem Shows.pass (shows : h.Shows result? now moments) (nanos : Nat) :
    h.Shows result? (now + nanos) moments := by
  unfold Shows at *
  cases stance : h.stance with
  | timedOut limit since =>
      rw [stance] at shows
      exact ⟨Int.le_trans shows.1 (Int.le_add_of_nonneg_right (Int.natCast_nonneg nanos)), shows.2⟩
  | _ => rwa [stance] at shows

theorem Shows.send (shows : h.Shows none now moments) (result : Result) :
    (h.send result).1.Shows (some result) now (fun moment => moments moment ∨ moment = now) := by
  unfold Shows at shows
  cases stance : h.stance with
  | holding | waiting | dropped => simp [Handle.send, isOpen, Shows, stance]
  | answered other =>
      rw [stance] at shows
      cases shows
  | timedOut limit since =>
      rw [stance] at shows
      obtain ⟨elapsed, none⟩ := shows
      have later : ∀ moment, moments moment ∨ moment = now → since + limit.nanos ≤ moment := by
        rintro moment (earlier | rfl)
        · exact none moment earlier
        · exact elapsed
      simpa [Handle.send, isOpen, Shows, stance] using And.intro elapsed later

theorem Shows.look (shows : h.Shows result? now moments) {alive : Bool}
    (served : alive = false → result?.isSome) : (h.look alive).Shows result? now moments := by
  have before := shows
  unfold Shows at before
  cases stance : h.stance with
  | waiting limit since =>
      rw [stance] at before
      cases slot : h.slot with
      | some result => simpa [Handle.look, Shows, stance, slot] using before.symm.trans slot
      | none =>
          -- There is no result yet, so that the worker is still there.
          have alive : alive = true := by
            by_contra gone
            simpa [← before, slot] using served (by simpa using gone)
          simpa [Handle.look, stance, slot, alive] using shows
  | _ => simpa [Handle.look, stance] using shows

theorem slot_of_look {alive : Bool} {limit : Option Span} {since : Instant}
    (waits : (h.look alive).stance = .waiting limit since) : (h.look alive).slot = none := by
  unfold Handle.look at *
  cases stance : h.stance <;> cases slot : h.slot <;> cases alive <;> simp_all

theorem Shows.expire (shows : h.Shows result? now moments) {alive : Bool}
    (served : alive = false → result?.isSome) (unsettled : result? = none → ∀ moment, ¬moments moment) :
    (h.expire alive now).Shows result? now moments := by
  have looked := shows.look served
  have empty : ∀ limit since, (h.look alive).stance = .waiting limit since →
      (h.look alive).slot = none := fun _ _ => slot_of_look
  unfold Handle.expire
  generalize h.look alive = g at looked empty ⊢
  obtain ⟨slot, stance⟩ := g
  cases stance with
  | waiting limit since =>
      cases limit with
      | none => exact looked
      | some limit =>
          have nothing : result? = none := Eq.trans (Eq.symm looked) (empty _ _ rfl)
          dsimp only
          split_ifs with elapsed
          · exact ⟨elapsed, fun moment settled => absurd settled (unsettled nothing moment)⟩
          · exact looked
  | _ => exact looked

theorem Shows.act (shows : h.Shows result? now moments) {alive : Bool}
    (served : alive = false → result?.isSome) (unsettled : result? = none → ∀ moment, ¬moments moment)
    (act : Act) : (h.act alive now act).Shows result? now moments := by
  cases act with
  | wait limit =>
      cases stance : h.stance with
      | holding => simpa [Handle.act, Handle.wait, Shows, stance] using shows
      | _ => simpa [Handle.act, Handle.wait, stance] using shows
  | look => exact shows.look served
  | expire => exact shows.expire served unsettled
  | drop =>
      unfold Handle.act Handle.drop
      split_ifs
      · exact True.intro
      · exact shows

theorem Shows.answer (shows : h.Shows result? now moments) {answer : Result}
    (told : h.answer? = some answer) :
    result? = some answer ∨ ∃ limit since, answer = .error (.timeout limit) ∧
      h.stance = .timedOut limit since ∧ ∀ moment, moments moment → since + limit.nanos ≤ moment := by
  unfold Shows at shows
  unfold answer? at told
  cases stance : h.stance with
  | holding | waiting | dropped =>
      rw [stance] at told
      cases told
  | answered result =>
      rw [stance] at told shows
      cases told
      exact .inl shows
  | timedOut limit since =>
      rw [stance] at told shows
      cases told
      exact .inr ⟨limit, since, rfl, rfl, shows.2⟩

theorem Shows.answer_of_look (shows : h.Shows result? now moments) {limit : Option Span}
    {since : Instant} (waits : h.stance = .waiting limit since) {result : Result}
    (settled : result? = some result) (alive : Bool) : (h.look alive).answer? = some result := by
  unfold Shows at shows
  rw [waits, settled] at shows
  simp [Handle.look, answer?, waits, shows]

theorem Shows.answer_of_expire (shows : h.Shows result? now moments) {alive : Bool}
    (served : alive = false → result?.isSome) {limit : Span} {since : Instant}
    (waits : h.stance = .waiting (some limit) since) (elapsed : since + limit.nanos ≤ now) :
    (h.expire alive now).answer? = some (result?.getD (.error (.timeout limit))) := by
  unfold Shows at shows
  rw [waits] at shows
  subst shows
  cases slot : h.slot <;> cases alive <;>
    simp_all [Handle.expire, Handle.look, answer?]

end Handle

/-! ## Everybody -/

/-- The traffic, the time, and the handles of all tickets. -/
structure Audience where
  traffic : Traffic
  now : Instant
  handles : Nat → Handle := fun _ => {}
  moments : List (Nat × Instant) := []

namespace Audience

def onHandle (a : Audience) (ticket : Nat) (change : Handle → Handle) : Audience :=
  { a with handles := Function.update a.handles ticket (change (a.handles ticket)) }

def handOver (a : Audience) (results : List (Nat × Result)) : Audience :=
  results.foldl (fun a entry => a.onHandle entry.1 fun h => (h.send entry.2).1) a

def work (a : Audience) (reply : Reply) : Audience :=
  let after := a.traffic.work a.now reply
  let news := after.pipeline.settled.drop a.traffic.pipeline.settled.length
  { a with
    traffic := after
    moments := a.moments ++ news.map fun entry : Nat × Result => (entry.1, a.now) }.handOver news

inductive Step
  | pass (nanos : Nat)
  | begin (call : Call)
  | advance (caller : Nat)
  | work (reply : Reply)
  | shutdown
  | hold (ticket : Nat) (act : Handle.Act)

def step (a : Audience) : Step → Audience
  | .pass nanos => { a with now := a.now + nanos }
  | .begin call => { a with traffic := a.traffic.begin call }
  | .advance caller => { a with traffic := a.traffic.advance caller }
  | .work reply => a.work reply
  | .shutdown => { a with traffic := a.traffic.step .shutdown }
  | .hold ticket act =>
    if ticket < a.traffic.pipeline.nextTicket then
      a.onHandle ticket (·.act a.traffic.pipeline.hasReceiver a.now act)
    else a

def run (a : Audience) (steps : List Step) : Audience := steps.foldl step a

def Step.isShared : Step → Bool
  | .hold _ _ => false
  | _ => true

def common (a : Audience) : Traffic × Instant × List (Nat × Instant) :=
  (a.traffic, a.now, a.moments)

theorem common_handOver (a : Audience) (results : List (Nat × Result)) :
    (a.handOver results).common = a.common := by
  induction results generalizing a with
  | nil => rfl
  | cons entry rest ih => exact ih _

theorem common_hold (a : Audience) (ticket : Nat) (act : Handle.Act) :
    (a.step (.hold ticket act)).common = a.common := by
  simp only [Audience.step]
  split_ifs <;> rfl

theorem common_step {a b : Audience} (same : a.common = b.common) (step : Step) :
    (a.step step).common = (b.step step).common := by
  have parts := same
  simp only [common, Prod.mk.injEq] at parts
  obtain ⟨traffic, now, moments⟩ := parts
  cases step with
  | hold ticket act => rw [common_hold, common_hold, same]
  | work reply =>
      simp only [Audience.step, work, common_handOver]
      simp only [common, traffic, now, moments]
  | pass | begin | advance | shutdown => simp only [Audience.step, common, traffic, now, moments]

theorem common_run {a b : Audience} (same : a.common = b.common) (steps : List Step) :
    (a.run steps).common = (b.run (steps.filter Step.isShared)).common := by
  induction steps generalizing a b with
  | nil => exact same
  | cons step rest ih =>
      cases shared : step.isShared with
      | true =>
          rw [List.filter_cons_of_pos shared]
          exact ih (common_step same step)
      | false =>
          rw [List.filter_cons_of_neg (by simp [shared])]
          cases step with
          | hold ticket act => exact ih ((common_hold a ticket act).trans same)
          | _ => cases shared

/-! ## What each one is told -/

/-- Every handle shows the truth about its ticket, and every ticket was settled at the moment that
is written down, in the past. -/
structure Kept (room : Nat) (a : Audience) : Prop where
  sound : a.traffic.Sound room
  shows : ∀ ticket, (a.handles ticket).Shows (a.traffic.pipeline.result? ticket) a.now
    fun moment => (ticket, moment) ∈ a.moments
  recorded : a.moments.map Prod.fst = a.traffic.pipeline.settled.map Prod.fst

theorem settled_work (t : Traffic) (now : Instant) (reply : Reply) :
    (t.work now reply).pipeline.settled = t.pipeline.settled ∨ ∃ ticket result,
      (t.work now reply).pipeline.settled = t.pipeline.settled ++ [(ticket, result)] := by
  have worked := t.worked now reply
  generalize t.work now reply = next at worked ⊢
  cases worked with
  | refuse | settle => exact .inr ⟨_, _, rfl⟩
  | _ => exact .inl rfl

theorem work_cases (a : Audience) (reply : Reply) :
    let after := a.traffic.work a.now reply
    let settled := a.traffic.pipeline.settled
    (after.pipeline.settled = settled ∧ a.work reply = { a with traffic := after }) ∨
      ∃ ticket result, after.pipeline.settled = settled ++ [(ticket, result)] ∧
        a.work reply = { a with traffic := after, moments := a.moments ++ [(ticket, a.now)] }.onHandle
          ticket fun h => (h.send result).1 := by
  intro after settled
  rcases settled_work a.traffic a.now reply with same | ⟨ticket, result, grown⟩
  · refine .inl ⟨same, ?_⟩
    simp [work, same, handOver, after]
  · refine .inr ⟨ticket, result, grown, ?_⟩
    simp [work, grown, handOver, after]

namespace Kept

variable {room : Nat} {a : Audience}

theorem served (kept : a.Kept room) {ticket : Nat}
    (issued : ticket < a.traffic.pipeline.nextTicket)
    (gone : a.traffic.pipeline.hasReceiver = false) :
    (a.traffic.pipeline.result? ticket).isSome := by
  have settled : ticket < a.traffic.pipeline.settled.length := by
    by_contra open'
    have busy := (kept.sound.busy_of_unsettled (by omega)).1
    rw [gone] at busy
    cases busy
  obtain ⟨result, found⟩ := kept.sound.result?_isSome settled
  rw [found]
  rfl

theorem unsettled (kept : a.Kept room) {ticket : Nat}
    (nothing : a.traffic.pipeline.result? ticket = none) (moment : Instant) :
    (ticket, moment) ∉ a.moments := by
  intro listed
  have ticketed : ticket ∈ a.traffic.pipeline.settled.map Prod.fst :=
    kept.recorded ▸ List.mem_map_of_mem listed
  rw [kept.sound.settled_range, List.mem_range] at ticketed
  obtain ⟨result, found⟩ := kept.sound.result?_isSome ticketed
  rw [found] at nothing
  cases nothing

theorem quiet (kept : a.Kept room) {after : Traffic} (sound : after.Sound room)
    (same : after.pipeline.settled = a.traffic.pipeline.settled) :
    Kept room { a with traffic := after } := by
  refine ⟨sound, fun ticket => ?_, ?_⟩
  · have shows := kept.shows ticket
    rw [Pipeline.result?, ← same] at shows
    exact shows
  · rw [kept.recorded, same]

theorem work (kept : a.Kept room) (reply : Reply) : (a.work reply).Kept room := by
  have sound := kept.sound.step (.work a.now reply)
  rw [Traffic.step_work] at sound
  rcases a.work_cases reply with ⟨same, next⟩ | ⟨ticket, result, grown, next⟩
  · rw [next]
    exact kept.quiet sound same
  · have once := sound.settled_range ▸ List.nodup_range
    rw [grown, List.map_append, List.nodup_append] at once
    have fresh : a.traffic.pipeline.result? ticket = none := by
      refine List.lookup_eq_none_iff.mpr fun earlier listed => ?_
      have different := once.2.2 earlier.1 (List.mem_map_of_mem listed) ticket (by simp)
      simpa using different.symm
    have results (other : Nat) : (a.traffic.work a.now reply).pipeline.result? other =
        (a.traffic.pipeline.result? other).or (List.lookup other [(ticket, result)]) := by
      simp only [Pipeline.result?, grown, List.lookup_append]
    rw [next]
    refine ⟨sound, fun other => ?_, ?_⟩
    · have shows := kept.shows other
      rcases eq_or_ne other ticket with rfl | different
      · rw [fresh] at shows
        simpa [onHandle, results, fresh] using shows.send result
      · simpa [onHandle, results, List.lookup_cons, beq_false_of_ne different, different] using shows
    · simp [onHandle, kept.recorded, grown]

theorem step (kept : a.Kept room) (step : Step) : (a.step step).Kept room := by
  cases step with
  | pass nanos => exact ⟨kept.sound, fun ticket => (kept.shows ticket).pass nanos, kept.recorded⟩
  | begin call =>
      have idle : Traffic.Step.isWork (.begin call) = false := rfl
      exact kept.quiet (kept.sound.step (.begin call)) (a.traffic.step_undisturbed idle).1.settled
  | advance caller =>
      have idle : Traffic.Step.isWork (.advance caller) = false := rfl
      exact kept.quiet (kept.sound.step (.advance caller)) (a.traffic.step_undisturbed idle).1.settled
  | work reply => exact kept.work reply
  | shutdown => exact kept.quiet (kept.sound.step .shutdown) rfl
  | hold ticket act =>
      simp only [Audience.step]
      split_ifs with issued
      · refine ⟨kept.sound, fun other => ?_, kept.recorded⟩
        rcases eq_or_ne other ticket with rfl | different
        · have acted := (kept.shows other).act (kept.served issued)
            (fun nothing moment => kept.unsettled nothing moment) act
          simpa [onHandle] using acted
        · simpa [onHandle, different] using kept.shows other
      · exact kept

theorem run (kept : a.Kept room) (steps : List Step) : (a.run steps).Kept room := by
  induction steps generalizing a with
  | nil => exact kept
  | cons step rest ih => exact ih (kept.step step)

end Kept

theorem kept_start {credentials : Credentials} {capacity : Nat} {seed : UInt64} {reply : Reply}
    {now : Instant} {p : Pipeline}
    (started : Pipeline.start credentials capacity seed reply now = .ok p) :
    Kept (max capacity 1) { traffic := { pipeline := p }, now } := by
  have sound := Traffic.sound_start started
  obtain ⟨token, -, rfl⟩ := Pipeline.start_ok started
  exact ⟨sound, fun ticket => rfl, rfl⟩

theorem Kept.ne_timeout {room : Nat} {a : Audience} (kept : a.Kept room) {ticket : Nat}
    {limit : Span} : a.traffic.pipeline.result? ticket ≠ some (.error (.timeout limit)) := by
  intro settled
  obtain ⟨e, -, -, failed⟩ := (kept.sound.result?_iff ticket _).mp settled
  simpa using Execution.outcome?_error failed

/-- Two runs since a start that differ in what the holders of handles do, and when, and in nothing
else: the pipeline is the same, with its posts, counters and metrics, and whoever gets a result in
both gets the same. An answer is the result of the ticket, or it says that time is out, and then
the ticket was not settled before the wait was over; and who waits is answered, with the result if
there is one. -/
theorem undisturbed_by_holders {credentials : Credentials} {capacity : Nat} {seed : UInt64}
    {reply : Reply} {now : Instant} {p : Pipeline}
    (started : Pipeline.start credentials capacity seed reply now = .ok p) {steps steps' : List Step}
    (same : steps.filter Step.isShared = steps'.filter Step.isShared) :
    let first : Audience := { traffic := { pipeline := p }, now }
    let a := first.run steps
    let b := first.run steps'
    let result? := a.traffic.pipeline.result?
    a.traffic = b.traffic ∧ a.now = b.now ∧
      (∀ ticket result result', (a.handles ticket).stance = .answered result →
        (b.handles ticket).stance = .answered result' → result = result') ∧
      (∀ ticket answer, (a.handles ticket).answer? = some answer →
        (result? ticket = some answer ∧ ∀ limit, answer ≠ .error (.timeout limit)) ∨
        ∃ limit since, answer = .error (.timeout limit) ∧
          (a.handles ticket).stance = .timedOut limit since ∧
          ∀ moment, (ticket, moment) ∈ a.moments → since + limit.nanos ≤ moment) ∧
      (∀ ticket < a.traffic.pipeline.nextTicket, ∀ limit since,
        (a.handles ticket).stance = .waiting limit since →
        (∀ result, result? ticket = some result →
          ((a.step (.hold ticket .look)).handles ticket).answer? = some result) ∧
        ∀ span, limit = some span → since + span.nanos ≤ a.now →
          ((a.step (.hold ticket .expire)).handles ticket).answer? =
            some ((result? ticket).getD (.error (.timeout span)))) ∧
      a.moments.map Prod.fst = a.traffic.pipeline.settled.map Prod.fst := by
  intro first a b result?
  have common : a.common = b.common := by
    have left := common_run (a := first) rfl steps
    have right := common_run (a := first) rfl steps'
    rw [same] at left
    exact left.trans right.symm
  have traffic : a.traffic = b.traffic := congrArg Prod.fst common
  have kept : a.Kept (max capacity 1) := (kept_start started).run steps
  have kept' : b.Kept (max capacity 1) := (kept_start started).run steps'
  refine ⟨traffic, congrArg (·.2.1) common, ?_, ?_, ?_, kept.recorded⟩
  · intro ticket result result' answered answered'
    have shown : a.traffic.pipeline.result? ticket = some result := by
      have shows := kept.shows ticket
      rwa [Handle.Shows, answered] at shows
    have shown' : b.traffic.pipeline.result? ticket = some result' := by
      have shows := kept'.shows ticket
      rwa [Handle.Shows, answered'] at shows
    rw [traffic, shown'] at shown
    exact (Option.some.inj shown).symm
  · intro ticket answer told
    rcases (kept.shows ticket).answer told with own | late
    · refine .inl ⟨own, fun limit timeout => ?_⟩
      rw [timeout] at own
      exact kept.ne_timeout own
    · exact .inr late
  · intro ticket issued limit since waits
    have shows := kept.shows ticket
    constructor
    · intro result settled
      have answered := shows.answer_of_look waits settled a.traffic.pipeline.hasReceiver
      simpa [Audience.step, issued, onHandle, Handle.act] using answered
    · rintro span rfl elapsed
      have answered := shows.answer_of_expire (kept.served issued) waits elapsed
      simpa [Audience.step, issued, onHandle, Handle.act] using answered

theorem undisturbed_by_impatience :
    let grant := Json.object [("result", .array [.string "a", .string "r", .nat 900])]
    let credentials : Credentials := ⟨"k", "s"⟩
    let p : Pipeline := {
      credentials
      capacity := 2
      token := ⟨"a", 900, 0⟩
      nextId := 8
      posts := [tokenPost credentials 7] }
    let call : Call := ⟨"private/cancel", .null⟩
    let submit (caller : Nat) : List Step := [.begin call, .advance caller, .advance caller]
    let execute : List Step := List.replicate 4 (.work (.error (.decode "x")))
    let submits := submit 0 ++ submit 1
    let patient := submits ++ [.hold 0 (.wait none), .hold 1 .drop, .pass 5] ++ execute ++
      [.hold 0 .look] ++ execute
    let impatient := submits ++ [.hold 0 (.wait (some ⟨5⟩)), .pass 5, .hold 0 .expire] ++ execute ++
      [.hold 1 (.wait none)] ++ execute ++ [.hold 1 .look]
    let first : Audience := { traffic := { pipeline := p }, now := 0 }
    let failure? (steps : List Step) (ticket : Nat) : Option RequestError :=
      match ((first.run steps).handles ticket).answer? with
      | some (.error cause) => some cause
      | _ => none
    Pipeline.start credentials 2 7 (.ok grant) 0 = .ok p ∧
      patient.filter Step.isShared = impatient.filter Step.isShared ∧
      (first.run patient).traffic = (first.run impatient).traffic ∧
      (first.run patient).traffic.pipeline.counters.failed = 2 ∧
      failure? patient 0 = some (.transport (.decode "x")) ∧
      failure? impatient 0 = some (.timeout ⟨5⟩) := by
  intro grant credentials p call submit execute submits patient impatient first failure?
  have started : Pipeline.start credentials 2 7 (.ok grant) 0 = .ok p := rfl
  have same : patient.filter Step.isShared = impatient.filter Step.isShared := rfl
  obtain ⟨traffic, -⟩ := undisturbed_by_holders started same
  exact ⟨started, same, traffic, by decide +kernel, by decide +kernel, by decide +kernel⟩

end Audience

end FeedBridge.Trading
