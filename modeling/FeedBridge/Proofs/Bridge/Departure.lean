import FeedBridge.Proofs.Bridge.Turns

namespace FeedBridge

/-- The number in whose name a task may subscribe. -/
def TaskStand.holds? : TaskStand → Option SessionId
  | standing (.gone _) => none
  | stand => stand.number?

namespace TaskStand

theorem holds?_of_hears? {stand : TaskStand} {id : SessionId} (hears : stand.hears? = some id) :
    stand.holds? = some id := by
  cases stand with
  | answered => exact hears
  | standing point => cases point <;> simp_all [hears?, holds?, number?, TaskPoint.number?]

theorem number?_of_holds? {stand : TaskStand} {id : SessionId} (holds : stand.holds? = some id) :
    stand.number? = some id := by
  cases stand with
  | answered => exact holds
  | standing point => cases point <;> simp_all [holds?, number?, TaskPoint.number?]

end TaskStand

namespace Service

variable {s : Service}

def Attributed (s : Service) : Prop :=
  ∀ entry ∈ s.bridge.router.entries, ∃ (task : Nat) (stand : TaskStand),
    s.tasks[task]? = some stand ∧ stand.holds? = some entry.session

theorem Turn.entries {b after : Bridge} {task : Nat} {step : Step} {stand next : TaskStand}
    {calls : List SessionCall} {reads : List Incoming}
    (turn : Turn b task step stand after next calls reads) {entry : Subscription}
    (member : entry ∈ after.router.entries) :
    next.holds? = some entry.session ∨
      entry ∈ b.router.entries ∧ stand.holds? ≠ some entry.session := by
  have keeps (old : entry ∈ b.router.entries) (same : next.holds? = stand.holds?) :
      next.holds? = some entry.session ∨
        entry ∈ b.router.entries ∧ stand.holds? ≠ some entry.session := by
    by_cases own : stand.holds? = some entry.session
    · exact .inl (same.trans own)
    · exact .inr ⟨old, own⟩
  cases turn with
  | number | refuse => exact .inr ⟨member, by simp [TaskStand.holds?, TaskStand.number?,
      TaskPoint.number?]⟩
  | hear id goesOn aloof hears => exact keeps (aloof.entries member) (TaskStand.holds?_of_hears? hears)
  | finish id topic request result =>
      cases result with
      | ok done =>
          rcases List.mem_append.mp member with old | new
          · exact keeps old rfl
          · exact .inl (by rw [List.mem_singleton.mp new]; rfl)
      | error cause => exact keeps member rfl
  | forget id =>
      obtain ⟨old, stranger⟩ := List.mem_filter.mp member
      refine .inr ⟨old, fun own => ?_⟩
      cases own
      simp at stranger
  | register | greet | hangUp | cancel | write | unregister | idle => exact keeps member rfl

theorem Attributed.step (attributed : s.Attributed) (step : Step) : (s.step step).Attributed := by
  intro entry member
  cases s.step_change step with
  | @turn task stand next own located turn tasks =>
      obtain ⟨here, elsewhere⟩ := tasks_set located tasks
      rcases turn.entries member with own | ⟨old, stranger⟩
      · exact ⟨task, next, here, own⟩
      · obtain ⟨other, holder, seated, holds⟩ := attributed entry old
        have differ : task ≠ other := by
          rintro rfl
          rw [located] at seated
          cases seated
          exact stranger holds
        exact ⟨other, holder, (elsewhere other differ).trans seated, holds⟩
  | arrival tasks bridge =>
      rw [bridge] at member
      obtain ⟨task, holder, seated, holds⟩ := attributed entry member
      exact ⟨task, holder, tasks_append tasks seated, holds⟩
  | outside tasks bridge =>
      rw [tasks]
      exact attributed entry (bridge.entries member)

theorem Attributed.run (attributed : s.Attributed) (steps : List Step) :
    (s.run steps).Attributed := by
  induction steps generalizing s with
  | nil => exact attributed
  | cons step rest ih => exact ih (attributed.step step)

theorem Turn.stays_gone {b after : Bridge} {task : Nat} {step : Step} {id : SessionId}
    {next : TaskStand} {calls : List SessionCall} {reads : List Incoming}
    (turn : Turn b task step (.standing (.gone id)) after next calls reads) :
    next = .standing (.gone id) := by
  cases turn with
  | idle => rfl

theorem Turn.gone {b after : Bridge} {task : Nat} {step : Step} {stand : TaskStand}
    {id : SessionId} {calls : List SessionCall} {reads : List Incoming}
    (turn : Turn b task step stand after (.standing (.gone id)) calls reads)
    (arrives : stand ≠ .standing (.gone id)) :
    step = .advance task .proceed ∧ stand = .standing (.unregistered id) ∧ after = b.forget id := by
  cases turn with
  | hear _ _ _ hears => cases hears
  | forget => exact ⟨rfl, rfl, rfl⟩
  | idle => exact absurd rfl arrives

theorem gone_step {task : Nat} {id : SessionId} (gone : s.tasks[task]? = some (.standing (.gone id)))
    (step : Step) : (s.step step).tasks[task]? = some (.standing (.gone id)) := by
  cases s.step_change step with
  | @turn other stand next own located turn tasks =>
      obtain ⟨here, elsewhere⟩ := tasks_set located tasks
      by_cases differ : other = task
      · subst differ
        rw [gone] at located
        cases located
        rw [here, turn.stays_gone]
      · exact (elsewhere task differ).trans gone
  | arrival tasks bridge => exact tasks_append tasks gone
  | outside tasks bridge => rwa [tasks]

theorem gone_run {task : Nat} {id : SessionId} (gone : s.tasks[task]? = some (.standing (.gone id)))
    (steps : List Step) : (s.run steps).tasks[task]? = some (.standing (.gone id)) := by
  induction steps generalizing s with
  | nil => exact gone
  | cons step rest ih => exact ih (gone_step gone step)

theorem gone_cases {task : Nat} {id : SessionId} {step : Step}
    (gone : (s.step step).tasks[task]? = some (.standing (.gone id))) :
    s.tasks[task]? = some (.standing (.gone id)) ∨
      step = .advance task .proceed ∧ s.tasks[task]? = some (.standing (.unregistered id)) ∧
        (s.step step).bridge = s.bridge.forget id := by
  cases s.step_change step with
  | @turn other stand next own located turn tasks =>
      obtain ⟨here, elsewhere⟩ := tasks_set located tasks
      by_cases differ : other = task
      · subst differ
        rw [here] at gone
        cases gone
        by_cases before : stand = .standing (.gone id)
        · exact .inl (before ▸ located)
        · obtain ⟨made, unregistered, bridge⟩ := turn.gone before
          exact .inr ⟨made, unregistered ▸ located, bridge⟩
      · exact .inl ((elsewhere task differ).symm.trans gone)
  | arrival tasks bridge =>
      rcases tasks_append_cases tasks gone with old | ⟨-, new⟩
      · exact .inl old
      · cases new
  | outside tasks bridge => exact .inl (by rwa [tasks] at gone)

theorem exists_departure {steps : List Step} {task : Nat} {id : SessionId}
    (present : s.tasks[task]? ≠ some (.standing (.gone id)))
    (gone : (s.run steps).tasks[task]? = some (.standing (.gone id))) :
    ∃ before after, steps = before ++ .advance task .proceed :: after ∧
      (s.run before).tasks[task]? = some (.standing (.unregistered id)) ∧
      ((s.run before).step (.advance task .proceed)).bridge = (s.run before).bridge.forget id := by
  induction steps generalizing s with
  | nil => exact absurd gone present
  | cons step rest ih =>
      by_cases went : (s.step step).tasks[task]? = some (.standing (.gone id))
      · obtain ⟨rfl, unregistered, bridge⟩ := (gone_cases went).resolve_left present
        exact ⟨[], rest, rfl, unregistered, bridge⟩
      · obtain ⟨before, after, rfl, unregistered, bridge⟩ := ih went gone
        exact ⟨step :: before, after, rfl, unregistered, bridge⟩

/-- A task that is gone went in a step that removed the subscriptions of its number and no others,
and from then on there is none of its number, unless all numbers are used up and another task has
the same. -/
theorem entries_of_gone (settings : BrokerSettings) (interval : String) (steps : List Step)
    {task : Nat} {id : SessionId}
    (gone : ((start settings interval).run steps).tasks[task]? = some (.standing (.gone id))) :
    (∃ before after, steps = before ++ .advance task .proceed :: after ∧
      let s := (start settings interval).run before
      s.tasks[task]? = some (.standing (.unregistered id)) ∧
        (s.step (.advance task .proceed)).bridge.router.entries =
          s.bridge.router.entries.filter fun entry => entry.session != id) ∧
      ∀ later, let t := (start settings interval).run (steps ++ later)
        t.tasks[task]? = some (.standing (.gone id)) ∧
          ∀ entry ∈ t.bridge.router.entries, entry.session = id →
            UInt64.size < t.numbers.length ∧
              ∃ other ≠ task, ∃ stand : TaskStand,
                t.tasks[other]? = some stand ∧ stand.holds? = some id := by
  constructor
  · obtain ⟨before, after, split, unregistered, bridge⟩ :=
      exists_departure (by simp [start]) gone
    exact ⟨before, after, split, unregistered, by rw [bridge]; rfl⟩
  · intro later t
    have still : t.tasks[task]? = some (.standing (.gone id)) := by
      rw [show t = ((start settings interval).run steps).run later from run_append _ _ _]
      exact gone_run gone later
    refine ⟨still, fun entry member named => ?_⟩
    have attributed : (start settings interval).Attributed := by simp [Attributed, start]
    obtain ⟨other, stand, seated, holds⟩ := attributed.run (steps ++ later) entry member
    rw [named] at holds
    have differ : other ≠ task := by
      rintro rfl
      rw [still] at seated
      cases seated
      cases holds
    refine ⟨Nat.lt_of_not_le fun few => ?_, other, differ, stand, seated, holds⟩
    have numbered := (numbered_start settings interval).run (steps ++ later)
    exact differ (eq_of_number (numbered.distinct few) seated still
      (TaskStand.number?_of_holds? holds) rfl)

theorem entries_of_gone_while_asked :
    let settings : BrokerSettings := ⟨⟨.v4 [127, 0, 0, 1], 9000⟩, .text, 65536, 4⟩
    let serve (task : Nat) : List Step :=
      [.accept, .advance task .handshakeDone, .advance task .proceed, .advance task .proceed]
    let ask (task : Nat) (text : String) : Step :=
      .advance task (.incoming (.message (.text text)))
    let written (task : Nat) : List Step := [.write task (.ok ()), .finish task]
    let before : List Step :=
      .connect "ws://a/" (.ofSeconds 10) .accepted :: serve 0 ++ serve 1 ++
        [ask 0 "[\"subscribe_orderbook\",\"A\"]", ask 1 "[\"subscribe_position\",\"B\"]"] ++
        written 1 ++ written 0 ++ [ask 1 "[\"subscribe_orderbook\",\"A\"]"] ++
        [.advance 0 (.incoming .ended), .advance 0 .proceed]
    let steps := before ++ [.advance 0 .proceed]
    let later : List Step := .stopBroker :: written 1
    let entries (steps : List Step) : Subscriptions :=
      ((start settings Topic.defaultInterval).run steps).bridge.router.entries
    let a : Topic := ⟨.orderbook, "A"⟩
    let b : Topic := ⟨.position, "B"⟩
    ((start settings Topic.defaultInterval).run steps).tasks[0]? = some (.standing (.gone ⟨1⟩)) ∧
      entries before = [⟨b, ⟨2⟩⟩, ⟨a, ⟨1⟩⟩] ∧ entries steps = [⟨b, ⟨2⟩⟩] ∧
      entries (steps ++ later) = [⟨b, ⟨2⟩⟩, ⟨a, ⟨2⟩⟩] ∧
      ∀ entry ∈ entries (steps ++ later), entry.session ≠ ⟨1⟩ := by
  intro settings serve ask written before steps later entries a b
  have gone : ((start settings Topic.defaultInterval).run steps).tasks[0]? =
      some (.standing (.gone ⟨1⟩)) := by decide +kernel
  have few : ((start settings Topic.defaultInterval).run (steps ++ later)).numbers.length = 2 := by
    decide +kernel
  refine ⟨gone, by decide +kernel, by decide +kernel, by decide +kernel, ?_⟩
  intro entry member own
  have many := ((entries_of_gone settings Topic.defaultInterval steps gone).2 later).2 entry
    member own
  rw [few] at many
  exact absurd many.1 (by decide)

end Service

end FeedBridge
