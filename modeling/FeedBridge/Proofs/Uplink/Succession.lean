import FeedBridge.Proofs.Uplink.Switchboard
import Mathlib.Data.List.Count

/-!
# A connection and its successor

A reader checks once whether its connection is still open, and tears down in later sections
whatever it finds. So the teardown of an ended connection spares its successor if the successor was
not dialled before all earlier readers were done, and only then (`Switchboard.kept_iff_settled`).
-/

namespace FeedBridge.Switchboard

variable {s t : Switchboard}

/-- An open connection whose call has returned has its sink and its gauge, and ends only by its own
reader or by a call that closes. -/
def Kept (s : Switchboard) : Prop :=
  ∀ latest, s.uplink.state = .open → latest + 1 = s.uplink.made →
    .returned (some latest) ∈ s.connects →
      s.uplink.sink = some latest ∧ s.uplink.metrics.connected = true ∧
        ∀ step, (s.step step).uplink.state ≠ .open → step = .close ∨ step = .advanceReader latest

/-- All readers have done their share of the teardown. -/
def Settled (s : Switchboard) : Prop := ∀ point ∈ s.readers, point.isDone = true

def Patient : Switchboard → List Step → Prop
  | _, [] => True
  | s, step :: rest =>
    (step = .connect → s.uplink.beginConnect?.isSome → s.Settled) ∧ Patient (s.step step) rest

instance (s : Switchboard) : Decidable s.Settled :=
  inferInstanceAs (Decidable (∀ point ∈ s.readers, point.isDone = true))

instance decidablePatient : (s : Switchboard) → (steps : List Step) → Decidable (Patient s steps)
  | _, [] => inferInstanceAs (Decidable True)
  | s, step :: rest =>
    have := decidablePatient (s.step step) rest
    inferInstanceAs (Decidable ((step = .connect → s.uplink.beginConnect?.isSome → s.Settled) ∧
      Patient (s.step step) rest))

def DoneBut (s : Switchboard) (connection : Nat) : Prop :=
  ∀ (other : Nat) (point : ReaderPoint), s.readers[other]? = some point → other ≠ connection →
    point.isDone = true

/-! ## Parties that exclude each other -/

section Solo

variable {α : Type} {isActive : α → Bool} {points : List α} {call : Nat} {before after : α}

theorem countP_set (located : points[call]? = some before) :
    (points.set call after).countP isActive =
      points.countP isActive - (if isActive before then 1 else 0) +
        (if isActive after then 1 else 0) := by
  obtain ⟨inside, rfl⟩ := List.getElem?_eq_some_iff.mp located
  exact List.countP_set inside

theorem active_of_located (located : points[call]? = some before)
    (active : isActive before = true) : points.countP isActive ≠ 0 := by
  intro none
  exact List.countP_eq_zero.mp none before (List.mem_of_getElem? located) active

theorem inactive_of_set (located : points[call]? = some before) (active : isActive before = true)
    (once : points.countP isActive = 1) {point : α} (member : point ∈ points.set call after) :
    point = after ∨ isActive point = false := by
  obtain ⟨inside, rfl⟩ := List.getElem?_eq_some_iff.mp located
  have split : points = points.take call ++ points[call] :: points.drop (call + 1) := by simp
  rw [split, List.countP_append, List.countP_cons, if_pos active] at once
  rw [List.set_eq_take_append_cons_drop, if_pos inside, List.mem_append, List.mem_cons] at member
  have idle : ∀ rest : List α, rest.countP isActive = 0 → point ∈ rest →
      isActive point = false := by
    intro rest none inRest
    simpa using List.countP_eq_zero.mp none point inRest
  rcases member with early | same | late
  · exact .inr (idle _ (by omega) early)
  · exact .inl same
  · exact .inr (idle _ (by omega) late)

theorem inactive_set (located : points[call]? = some before) (active : isActive before = true)
    (once : points.countP isActive = 1) (idle : isActive after = false) :
    ∀ point ∈ points.set call after, isActive point = false := by
  intro point member
  rcases inactive_of_set located active once member with rfl | inactive
  · exact idle
  · exact inactive

theorem eq_of_active (located : points[call]? = some before) (active : isActive before = true)
    (once : points.countP isActive = 1) {point : α} (member : point ∈ points)
    (busy : isActive point = true) : point = before := by
  have same : points.set call before = points := by
    obtain ⟨inside, rfl⟩ := List.getElem?_eq_some_iff.mp located
    exact List.set_getElem_self inside
  rcases inactive_of_set located active once (same ▸ member) with equal | idle
  · exact equal
  · rw [busy] at idle
    cases idle

theorem mem_set_of_ne (located : points[call]? = some before) {point : α} (member : point ∈ points)
    (other : point ≠ before) : point ∈ points.set call after := by
  obtain ⟨place, found⟩ := List.mem_iff_getElem?.mp member
  have elsewhere : call ≠ place := by
    rintro rfl
    rw [located] at found
    exact other (Option.some.inj found).symm
  exact List.mem_of_getElem? ((List.getElem?_set_ne elsewhere).trans found)

end Solo

structure Sound (s : Switchboard) : Prop where
  connecting : s.connects.countP ConnectPoint.isActive =
    if s.uplink.state = .connecting then 1 else 0
  closing : s.closes.countP ClosePoint.isActive = if s.uplink.state = .closing then 1 else 0
  numbered : s.readers.length = s.uplink.made
  latest : ∀ connection, .stored connection ∈ s.connects →
    connection + 1 = s.uplink.made ∧ s.readers[connection]? = some .waiting
  awaited : ∀ connection, s.readers[connection]? = some .waiting → .stored connection ∈ s.connects

namespace Sound

theorem connecting_of_active (sound : s.Sound) {call : Nat} {point : ConnectPoint}
    (located : s.connects[call]? = some point) (active : point.isActive = true) :
    s.uplink.state = .connecting ∧ s.connects.countP ConnectPoint.isActive = 1 := by
  have count := sound.connecting
  have some := active_of_located located active
  split_ifs at count with connecting
  · exact ⟨connecting, count⟩
  · exact absurd count some

theorem closing_of_active (sound : s.Sound) {call : Nat} {point : ClosePoint}
    (located : s.closes[call]? = some point) (active : point.isActive = true) :
    s.uplink.state = .closing ∧ s.closes.countP ClosePoint.isActive = 1 := by
  have count := sound.closing
  have some := active_of_located located active
  split_ifs at count with closing
  · exact ⟨closing, count⟩
  · exact absurd count some

theorem inactive (sound : s.Sound) (elsewhere : s.uplink.state ≠ .connecting)
    {point : ConnectPoint} (member : point ∈ s.connects) : point.isActive = false := by
  have count := sound.connecting
  rw [if_neg elsewhere] at count
  simpa using List.countP_eq_zero.mp count point member

theorem inactive_of_free (sound : s.Sound) (free : s.uplink.beginConnect?.isSome)
    {point : ConnectPoint} (member : point ∈ s.connects) : point.isActive = false := by
  refine sound.inactive ?_ member
  rcases Uplink.state_of_beginConnect?_isSome free with idle | closed
  · simp [idle]
  · simp [closed]

theorem setReader (sound : s.Sound) {connection : Nat} {before after : ReaderPoint}
    (located : s.readers[connection]? = some before) (started : before ≠ .waiting)
    (later : after ≠ .waiting) : (s.setReader connection after).Sound := by
  obtain ⟨connecting, closing, numbered, latest, awaited⟩ := sound
  refine ⟨connecting, closing, (List.length_set ..).trans numbered, ?_, ?_⟩
  · intro stored member
    obtain ⟨last, waits⟩ := latest stored member
    have elsewhere : connection ≠ stored := by
      rintro rfl
      rw [located] at waits
      exact started (Option.some.inj waits)
    exact ⟨last, (List.getElem?_set_ne elsewhere).trans waits⟩
  · intro other waits
    by_cases same : connection = other
    · subst same
      rw [Switchboard.setReader, List.getElem?_set_self', located] at waits
      exact absurd (Option.some.inj waits) later
    · exact awaited other ((List.getElem?_set_ne same).symm.trans waits)

theorem congr (sound : s.Sound) (uplink : Uplink) (state : uplink.state = s.uplink.state)
    (made : uplink.made = s.uplink.made) : Sound { s with uplink } := by
  obtain ⟨connecting, closing, numbered, latest, awaited⟩ := sound
  refine ⟨?_, ?_, ?_, ?_, awaited⟩
  · rw [connecting, state]
  · rw [closing, state]
  · rw [numbered, made]
  · rw [made]
    exact latest

theorem step (sound : s.Sound) (step : Step) : (s.step step).Sound := by
  have next := stepped s step
  generalize s.step step = after at next ⊢
  cases next with
  | refuse busy =>
      refine ⟨?_, sound.closing, sound.numbered, ?_, ?_⟩
      · simpa [List.countP_append, ConnectPoint.isActive] using sound.connecting
      · simpa using sound.latest
      · simpa using sound.awaited
  | dial free =>
      have calm : s.uplink.state ≠ .connecting ∧ s.uplink.state ≠ .closing := by
        have begun : s.uplink.beginConnect?.isSome := by simp [free]
        rcases Uplink.state_of_beginConnect?_isSome begun with idle | closed
        · simp [idle]
        · simp [closed]
      refine ⟨?_, ?_, sound.numbered, ?_, ?_⟩
      · simpa [List.countP_append, ConnectPoint.isActive, calm.1] using sound.connecting
      · simpa [calm.2] using sound.closing
      · simpa using sound.latest
      · simpa using sound.awaited
  | store call located =>
      obtain ⟨connecting, once⟩ := sound.connecting_of_active located rfl
      refine ⟨?_, sound.closing, ?_, ?_, ?_⟩
      · rw [countP_set located]
        simp [ConnectPoint.isActive, once, Uplink.storeSink, connecting]
      · simp [Uplink.storeSink, sound.numbered]
      · intro connection member
        rcases inactive_of_set located rfl once member with same | idle
        · cases same
          simp [Uplink.storeSink, ← sound.numbered]
        · cases idle
      · intro connection waits
        have unawaited : s.readers[connection]? ≠ some .waiting := fun earlier => by
          cases eq_of_active located rfl once (sound.awaited connection earlier) rfl
        rw [List.getElem?_append] at waits
        split_ifs at waits with inside
        · exact absurd waits unawaited
        · have place := (List.getElem?_eq_some_iff.mp waits).1
          have same : connection = s.uplink.made := by
            rw [← sound.numbered]
            simp only [List.length_singleton] at place
            omega
          rw [same]
          exact List.mem_set (List.getElem?_eq_some_iff.mp located).1 _
  | abort call dial located =>
      obtain ⟨connecting, once⟩ := sound.connecting_of_active located rfl
      refine ⟨?_, ?_, sound.numbered, ?_, ?_⟩
      · rw [countP_set located]
        simp [ConnectPoint.isActive, once, Uplink.abortConnect]
      · simpa [Uplink.abortConnect, connecting] using sound.closing
      · intro connection member
        cases inactive_set located rfl once rfl _ member
      · intro connection waits
        cases eq_of_active located rfl once (sound.awaited connection waits) rfl
  | enter call connection dial located =>
      obtain ⟨connecting, once⟩ := sound.connecting_of_active located rfl
      refine ⟨?_, ?_, ?_, ?_, ?_⟩
      · rw [countP_set located]
        simp [ConnectPoint.isActive, once, Uplink.setOpen, Uplink.setGauge]
      · simpa [Uplink.setOpen, Uplink.setGauge, connecting] using sound.closing
      · simpa [Uplink.setOpen, Uplink.setGauge] using sound.numbered
      · intro other member
        cases inactive_set located rfl once rfl _ member
      · intro other waits
        rw [List.getElem?_set] at waits
        split_ifs at waits with same inside
        · cases waits
        · cases eq_of_active located rfl once (sound.awaited other waits) rfl
          exact absurd rfl same
  | keepReader call connection dial located =>
      have same := sound.congr (s.uplink.storeReader connection) rfl rfl
      refine ⟨?_, sound.closing, sound.numbered, ?_, ?_⟩
      · rw [countP_set located]
        exact same.connecting
      · intro other member
        rcases List.mem_or_eq_of_mem_set member with old | new
        · exact sound.latest other old
        · cases new
      · intro other waits
        exact mem_set_of_ne located (sound.awaited other waits) (by simp)
  | leaveLoop connection located => exact sound.setReader located (by simp) (by simp)
  | endOpen connection located isOpen =>
      have closed : Sound { s with uplink := { s.uplink with state := .closed } } := by
        refine ⟨?_, ?_, sound.numbered, sound.latest, sound.awaited⟩
        · simpa [isOpen] using sound.connecting
        · simpa [isOpen] using sound.closing
      exact closed.setReader located (by simp) (by simp)
  | endOther connection located elsewhere => exact sound.setReader located (by simp) (by simp)
  | unhook connection located =>
      exact (sound.congr s.uplink.dropSink rfl rfl).setReader located (by simp) (by simp)
  | clear connection located =>
      exact (sound.congr s.uplink.clearGauge rfl rfl).setReader located (by simp) (by simp)
  | tell connection located => exact sound.setReader located (by simp) (by simp)
  | refuseClose shut =>
      refine ⟨sound.connecting, ?_, sound.numbered, sound.latest, sound.awaited⟩
      simpa [List.countP_append, ClosePoint.isActive] using sound.closing
  | beginClose isOpen =>
      refine ⟨?_, ?_, sound.numbered, sound.latest, sound.awaited⟩
      · simpa [isOpen] using sound.connecting
      · simpa [List.countP_append, ClosePoint.isActive, isOpen] using sound.closing
  | takeReader call located =>
      obtain ⟨closing, once⟩ := sound.closing_of_active located rfl
      refine ⟨sound.connecting, ?_, sound.numbered, sound.latest, sound.awaited⟩
      rw [countP_set located]
      simp [ClosePoint.isActive, once, closing]
  | takeSink call reader located joined =>
      obtain ⟨closing, once⟩ := sound.closing_of_active located rfl
      refine ⟨sound.connecting, ?_, sound.numbered, sound.latest, sound.awaited⟩
      rw [countP_set located]
      simp [ClosePoint.isActive, once, Uplink.dropSink, closing]
  | finishClose call located =>
      obtain ⟨closing, once⟩ := sound.closing_of_active located rfl
      refine ⟨?_, ?_, sound.numbered, sound.latest, sound.awaited⟩
      · simpa [Uplink.finishClose, Uplink.clearGauge, Uplink.setGauge, closing] using sound.connecting
      · rw [countP_set located]
        simp [ClosePoint.isActive, once, Uplink.finishClose, Uplink.clearGauge, Uplink.setGauge]
  | stay step => exact sound

end Sound

structure Serves (s : Switchboard) (latest : Nat) : Prop where
  last : latest + 1 = s.uplink.made
  sink : s.uplink.sink = some latest
  gauge : s.uplink.metrics.connected = true
  reads : s.readers[latest]? = some .reading ∨ s.readers[latest]? = some .ending
  rest : s.DoneBut latest

structure Orderly (s : Switchboard) : Prop extends s.Sound where
  dialing : .dialing ∈ s.connects → s.Settled
  ready : ∀ connection, .stored connection ∈ s.connects →
    s.uplink.sink = some connection ∧ s.DoneBut connection
  serves : s.uplink.state = .open → ∃ latest, s.Serves latest

theorem Settled.setReader (settled : s.Settled) {connection : Nat} {after : ReaderPoint}
    (done : after.isDone = true) : (s.setReader connection after).Settled := by
  intro point member
  rcases List.mem_or_eq_of_mem_set member with old | rfl
  · exact settled point old
  · exact done

theorem DoneBut.setReader {latest : Nat} (rest : s.DoneBut latest) {connection : Nat}
    {after : ReaderPoint} (fine : connection = latest ∨ after.isDone = true) :
    (s.setReader connection after).DoneBut latest := by
  intro other point located elsewhere
  rw [Switchboard.setReader, List.getElem?_set] at located
  split_ifs at located with same inside
  · cases located
    exact fine.resolve_left (same ▸ elsewhere)
  · exact rest other point located elsewhere

namespace Orderly

theorem inactive_of_busy (orderly : s.Orderly) {connection : Nat} {before : ReaderPoint}
    (located : s.readers[connection]? = some before) (started : before ≠ .waiting)
    (busy : before.isDone = false) {point : ConnectPoint} (member : point ∈ s.connects) :
    point.isActive = false := by
  have undone : before.isDone ≠ true := by simp [busy]
  cases point with
  | dialing =>
      exact absurd (orderly.dialing member before (List.mem_of_getElem? located)) undone
  | stored other =>
      have same : connection = other :=
        by_contra fun elsewhere =>
          undone ((orderly.ready other member).2 connection before located elsewhere)
      have waits := (orderly.latest other member).2
      rw [← same, located] at waits
      exact absurd (Option.some.inj waits) started
  | opened other => rfl
  | returned result => rfl

theorem serves_of_busy (orderly : s.Orderly) {connection : Nat} {before : ReaderPoint}
    (located : s.readers[connection]? = some before) (busy : before.isDone = false)
    (isOpen : s.uplink.state = .open) : s.Serves connection := by
  obtain ⟨latest, serves⟩ := orderly.serves isOpen
  have same : connection = latest := by
    by_contra elsewhere
    have done := serves.rest connection before located elsewhere
    rw [busy] at done
    cases done
  exact same ▸ serves

theorem of_inactive (sound : t.Sound)
    (inactive : ∀ point ∈ t.connects, ConnectPoint.isActive point = false)
    (serves : t.uplink.state = .open → ∃ latest, t.Serves latest) : t.Orderly := by
  refine ⟨sound, ?_, ?_, serves⟩
  · intro member
    cases inactive _ member
  · intro connection member
    cases inactive _ member

theorem of_quiet (orderly : s.Orderly) (sound : t.Sound)
    (uplink : t.uplink = { s.uplink with reader := t.uplink.reader })
    (readers : t.readers = s.readers)
    (quiet : ∀ point ∈ t.connects, point.isActive = true → point ∈ s.connects) : t.Orderly := by
  have sinks : t.uplink.sink = s.uplink.sink := by rw [uplink]
  have rest : ∀ connection, s.DoneBut connection → t.DoneBut connection := by
    intro connection rest
    rw [DoneBut, readers]
    exact rest
  refine ⟨sound, ?_, ?_, ?_⟩
  · intro member
    rw [Settled, readers]
    exact orderly.dialing (quiet _ member rfl)
  · intro connection member
    obtain ⟨sink, done⟩ := orderly.ready connection (quiet _ member rfl)
    exact ⟨sinks.trans sink, rest connection done⟩
  · intro isOpen
    rw [uplink] at isOpen
    obtain ⟨latest, last, sink, gauge, reads, done⟩ := orderly.serves isOpen
    refine ⟨latest, ?_, sinks.trans sink, ?_, ?_, rest latest done⟩
    · rw [uplink]
      exact last
    · rw [uplink]
      exact gauge
    · rwa [readers]

theorem step (orderly : s.Orderly) (step : Step)
    (patient : step = .connect → s.uplink.beginConnect?.isSome → s.Settled) :
    (s.step step).Orderly := by
  have sound := orderly.toSound.step step
  have next := stepped s step
  generalize s.step step = after at next sound ⊢
  cases next with
  | refuse busy =>
      refine orderly.of_quiet sound rfl rfl ?_
      intro point member active
      rcases List.mem_append.mp member with old | new
      · exact old
      · cases List.mem_singleton.mp new
        cases active
  | dial free =>
      have settled : s.Settled := patient rfl (by simp [free])
      refine ⟨sound, fun _ => settled, ?_, ?_⟩
      · intro connection member
        have old : .stored connection ∈ s.connects := by simpa using member
        cases orderly.inactive_of_free (by simp [free]) old
      · intro isOpen
        cases isOpen
  | store call located =>
      obtain ⟨connecting, once⟩ := orderly.connecting_of_active located rfl
      have settled := orderly.dialing (List.mem_of_getElem? located)
      refine ⟨sound, ?_, ?_, ?_⟩
      · intro member
        rcases inactive_of_set located rfl once member with same | idle
        · cases same
        · cases idle
      · intro connection member
        rcases inactive_of_set located rfl once member with same | idle
        · cases same
          refine ⟨rfl, ?_⟩
          intro other point place elsewhere
          rw [List.getElem?_append] at place
          split_ifs at place with inside
          · exact settled point (List.mem_of_getElem? place)
          · have last := (List.getElem?_eq_some_iff.mp place).1
            simp only [List.length_singleton] at last
            have := orderly.numbered
            omega
        · cases idle
      · intro isOpen
        rw [Uplink.storeSink, connecting] at isOpen
        cases isOpen
  | abort call dial located =>
      obtain ⟨-, once⟩ := orderly.connecting_of_active located rfl
      exact of_inactive sound (inactive_set located rfl once rfl) (fun isOpen => by cases isOpen)
  | enter call connection dial located =>
      obtain ⟨-, once⟩ := orderly.connecting_of_active located rfl
      have member := List.mem_of_getElem? located
      obtain ⟨sink, rest⟩ := orderly.ready connection member
      obtain ⟨last, waits⟩ := orderly.latest connection member
      refine of_inactive sound (inactive_set located rfl once rfl)
        (fun _ => ⟨connection, last, sink, rfl, .inl ?_, ?_⟩)
      · rw [List.getElem?_set_self', waits]
        rfl
      · exact rest.setReader (.inl rfl)
  | keepReader call connection dial located =>
      refine orderly.of_quiet sound rfl rfl ?_
      intro point member active
      rcases List.mem_or_eq_of_mem_set member with old | rfl
      · exact old
      · cases active
  | leaveLoop connection located =>
      refine of_inactive sound
        (fun _ member => orderly.inactive_of_busy located (by simp) rfl member) ?_
      intro isOpen
      obtain ⟨last, sink, gauge, -, rest⟩ := orderly.serves_of_busy located rfl isOpen
      refine ⟨connection, last, sink, gauge, .inr ?_, rest.setReader (.inl rfl)⟩
      rw [Switchboard.setReader, List.getElem?_set_self', located]
      rfl
  | endOpen connection located isOpen =>
      exact of_inactive sound
        (fun _ member => orderly.inactive_of_busy located (by simp) rfl member)
        (fun isOpen => by cases isOpen)
  | endOther connection located elsewhere =>
      exact of_inactive sound
        (fun _ member => orderly.inactive_of_busy located (by simp) rfl member)
        (fun isOpen => absurd isOpen elsewhere)
  | unhook connection located =>
      refine of_inactive sound
        (fun _ member => orderly.inactive_of_busy located (by simp) rfl member) ?_
      intro isOpen
      have reads := (orderly.serves_of_busy located rfl isOpen).reads
      simp [located] at reads
  | clear connection located =>
      refine of_inactive sound
        (fun _ member => orderly.inactive_of_busy located (by simp) rfl member) ?_
      intro isOpen
      have reads := (orderly.serves_of_busy located rfl isOpen).reads
      simp [located] at reads
  | tell connection located =>
      refine ⟨sound, ?_, ?_, ?_⟩
      · intro member
        exact (orderly.dialing member).setReader rfl
      · intro stored member
        obtain ⟨sink, rest⟩ := orderly.ready stored member
        exact ⟨sink, rest.setReader (.inr rfl)⟩
      · intro isOpen
        obtain ⟨latest, last, sink, gauge, reads, rest⟩ := orderly.serves isOpen
        have elsewhere : connection ≠ latest := by
          rintro rfl
          simp [located] at reads
        refine ⟨latest, last, sink, gauge, ?_, rest.setReader (.inr rfl)⟩
        rwa [Switchboard.setReader, List.getElem?_set_ne elsewhere]
  | refuseClose shut => exact orderly.of_quiet sound rfl rfl (fun _ member _ => member)
  | beginClose isOpen =>
      refine of_inactive sound ?_ (fun isOpen => by cases isOpen)
      intro point member
      exact orderly.inactive (by simp [isOpen]) member
  | takeReader call located => exact orderly.of_quiet sound rfl rfl (fun _ member _ => member)
  | takeSink call reader located joined =>
      obtain ⟨closing, -⟩ := orderly.closing_of_active located rfl
      refine of_inactive sound ?_ (fun isOpen => by simp [Uplink.dropSink, closing] at isOpen)
      intro point member
      exact orderly.inactive (by simp [closing]) member
  | finishClose call located =>
      obtain ⟨closing, -⟩ := orderly.closing_of_active located rfl
      refine of_inactive sound ?_ (fun isOpen => by cases isOpen)
      intro point member
      exact orderly.inactive (by simp [closing]) member
  | stay step => exact orderly

theorem kept (orderly : s.Orderly) : s.Kept := by
  intro latest isOpen last _
  obtain ⟨own, serves⟩ := orderly.serves isOpen
  have same : own = latest := by
    have := serves.last
    omega
  subst same
  refine ⟨serves.sink, serves.gauge, ?_⟩
  intro step left
  have next := stepped s step
  generalize s.step step = after at next left
  cases next with
  | refuse busy => exact absurd isOpen left
  | dial free =>
      have begun : s.uplink.beginConnect?.isSome := by simp [free]
      rcases Uplink.state_of_beginConnect?_isSome begun with idle | closed
      · rw [isOpen] at idle
        cases idle
      · rw [isOpen] at closed
        cases closed
  | store call located | abort call dial located | enter call connection dial located =>
      have connecting := (orderly.connecting_of_active located rfl).1
      rw [isOpen] at connecting
      cases connecting
  | keepReader call connection dial located => exact absurd isOpen left
  | endOpen connection located isOpen =>
      have reads := (orderly.serves_of_busy located rfl isOpen).last
      have : connection = own := by omega
      exact .inr (by rw [this])
  | leaveLoop connection located | unhook connection located | clear connection located
  | tell connection located => exact absurd isOpen left
  | endOther connection located elsewhere => exact absurd isOpen elsewhere
  | refuseClose shut => exact absurd isOpen shut
  | beginClose isOpen => exact .inl rfl
  | takeReader call located => exact absurd isOpen left
  | takeSink call reader located joined => exact absurd isOpen left
  | finishClose call located =>
      have closing := (orderly.closing_of_active located rfl).1
      rw [isOpen] at closing
      cases closing
  | stay step => exact absurd isOpen left

theorem run (orderly : s.Orderly) (steps : List Step) (patient : Patient s steps) :
    (s.run steps).Orderly := by
  induction steps generalizing s with
  | nil => exact orderly
  | cons step rest ih => exact ih (orderly.step step patient.1) patient.2

theorem initial : ({} : Switchboard).Orderly where
  connecting := rfl
  closing := rfl
  numbered := rfl
  latest := by simp
  awaited := by simp
  dialing := by simp
  ready := by simp
  serves := by simp

end Orderly

/-! ## Haste breaks the successor -/

theorem Patient.of_no_connect {steps : List Step} (calm : ∀ step ∈ steps, step ≠ .connect) :
    Patient s steps := by
  induction steps generalizing s with
  | nil => trivial
  | cons step rest ih =>
      refine ⟨fun same => absurd same (calm step (by simp)), ih ?_⟩
      intro later member
      exact calm later (by simp [member])

theorem run_accepted (sound : s.Sound) (free : s.uplink.beginConnect?.isSome) :
    (s.step .connect).run (List.replicate 3 (.advanceConnect s.connects.length .accepted)) = { s with
      uplink := s.uplink.storeSink.setOpen.storeReader s.uplink.made
      connects := s.connects ++ [.returned (some s.uplink.made)]
      readers := s.readers ++ [.reading] } := by
  rcases s.uplink.beginConnect?_cases with ⟨busy, -⟩ | ⟨begun, -⟩
  · simp [busy] at free
  · have opened : (s.readers ++ [ReaderPoint.waiting]).set s.uplink.made .reading =
        s.readers ++ [.reading] := by
      rw [← sound.numbered]
      simp
    simp [Switchboard.step, beginConnect, advanceConnect, begun, List.replicate, opened,
      Uplink.storeSink, Uplink.setOpen, Uplink.setGauge, Uplink.storeReader]

theorem not_kept_of_ending {latest connection : Nat} (isOpen : s.uplink.state = .open)
    (last : latest + 1 = s.uplink.made) (returned : .returned (some latest) ∈ s.connects)
    (earlier : connection ≠ latest) (located : s.readers[connection]? = some .ending) :
    ¬ s.Kept := by
  intro kept
  have left : (s.step (.advanceReader connection)).uplink.state ≠ .open := by
    simp [Switchboard.step, advanceReader, located, Uplink.endOpen, Uplink.isOpen, isOpen,
      Switchboard.setReader]
  rcases (kept latest isOpen last returned).2.2 _ left with other | same
  · cases other
  · cases same
    exact earlier rfl

theorem exists_not_kept {latest connection : Nat} {point : ReaderPoint}
    (isOpen : s.uplink.state = .open) (last : latest + 1 = s.uplink.made)
    (returned : .returned (some latest) ∈ s.connects) (earlier : connection ≠ latest)
    (located : s.readers[connection]? = some point) (started : point ≠ .waiting)
    (busy : point.isDone = false) :
    ∃ moves, ¬ (s.run (List.replicate moves (.advanceReader connection))).Kept := by
  cases point with
  | waiting => exact absurd rfl started
  | reading =>
      refine ⟨1, ?_⟩
      have moved : s.run (List.replicate 1 (.advanceReader connection)) =
          s.setReader connection .ending := by
        simp [Switchboard.step, advanceReader, located, List.replicate]
      rw [moved]
      refine not_kept_of_ending (s := s.setReader connection .ending) isOpen last returned earlier ?_
      rw [Switchboard.setReader, List.getElem?_set_self', located]
      rfl
  | ending => exact ⟨0, not_kept_of_ending isOpen last returned earlier located⟩
  | unhooking =>
      refine ⟨1, fun kept => ?_⟩
      have moved : s.run (List.replicate 1 (.advanceReader connection)) =
          { s with uplink := s.uplink.dropSink }.setReader connection .clearing := by
        simp [Switchboard.step, advanceReader, located, List.replicate]
      rw [moved] at kept
      cases (kept latest isOpen last returned).1
  | clearing =>
      refine ⟨1, fun kept => ?_⟩
      have moved : s.run (List.replicate 1 (.advanceReader connection)) =
          { s with uplink := s.uplink.clearGauge }.setReader connection .leaving := by
        simp [Switchboard.step, advanceReader, located, List.replicate]
      rw [moved] at kept
      cases (kept latest isOpen last returned).2.1
  | leaving => cases busy
  | gone => cases busy

/-- As long as nobody dials before all readers are done, the end of a connection spares its
successor; and whenever somebody could dial before, some order of the sections breaks it. -/
theorem kept_iff_settled (steps : List Step) (patient : Patient {} steps) :
    let s := ({} : Switchboard).run steps
    s.Kept ∧ (s.uplink.beginConnect?.isSome →
      (s.Settled ↔ ∀ later, Patient (s.step .connect) later → ((s.step .connect).run later).Kept)) := by
  intro s
  have orderly : s.Orderly := Orderly.initial.run steps patient
  refine ⟨orderly.kept, fun free => ⟨?_, ?_⟩⟩
  · intro settled later waits
    exact ((orderly.step .connect fun _ _ => settled).run later waits).kept
  · intro spared point member
    obtain ⟨connection, located⟩ := List.mem_iff_getElem?.mp member
    have inside := (List.getElem?_eq_some_iff.mp located).1
    have earlier : connection < s.uplink.made := orderly.numbered ▸ inside
    have started : point ≠ .waiting := by
      rintro rfl
      cases orderly.inactive_of_free free (orderly.awaited connection located)
    by_contra undone
    obtain ⟨moves, broken⟩ : ∃ moves, ¬ (((s.step .connect).run
        (List.replicate 3 (.advanceConnect s.connects.length .accepted))).run
          (List.replicate moves (.advanceReader connection))).Kept := by
      rw [run_accepted orderly.toSound free]
      refine exists_not_kept rfl rfl (List.mem_append_right _ (List.mem_singleton_self _))
        (Nat.ne_of_lt earlier) ?_ started (by simpa using undone)
      rw [List.getElem?_append_left inside, located]
    rw [← run_append] at broken
    refine broken (spared _ (Patient.of_no_connect ?_))
    intro step member
    simp only [List.mem_append, List.mem_replicate] at member
    rcases member with ⟨-, rfl⟩ | ⟨-, rfl⟩ <;> simp

theorem kept_of_redial_after_teardown :
    let steps : List Step := [.connect] ++ List.replicate 3 (.advanceConnect 0 .accepted) ++
      List.replicate 4 (.advanceReader 0)
    let later : List Step := List.replicate 3 (.advanceConnect 1 .accepted) ++ [.advanceReader 0]
    let s := ({} : Switchboard).run steps
    Patient {} steps ∧ s.uplink.beginConnect?.isSome ∧ s.readers = [.leaving] ∧
      ((s.step .connect).run later).Kept := by
  intro steps later s
  have patient : Patient {} steps := by decide
  have free : s.uplink.beginConnect?.isSome := by decide
  have settled : s.Settled := by decide
  refine ⟨patient, free, by decide, ?_⟩
  exact ((kept_iff_settled steps patient).2 free).mp settled later (by decide)

/-- The second connection is dialled between the first reader's check and its teardown, and loses
its sink and its gauge: it is open, and every send is refused. -/
theorem reader_unhooks_successor :
    let s := ({} : Switchboard).run
      ([.connect] ++ List.replicate 3 (.advanceConnect 0 .accepted) ++
        List.replicate 2 (.advanceReader 0) ++
        [.connect] ++ List.replicate 3 (.advanceConnect 1 .accepted) ++
        List.replicate 2 (.advanceReader 0))
    s.uplink.state = .open ∧ .returned (some 1) ∈ s.connects ∧ s.uplink.made = 2 ∧
      s.uplink.sink = none ∧ s.uplink.metrics.connected = false ∧
      (∀ text write, s.uplink.send text write = .error .notConnected) ∧ ¬ s.Kept := by
  intro s
  have unhooked : s.uplink.sink = none := by decide
  refine ⟨by decide, by decide, by decide, unhooked, by decide, ?_, ?_⟩
  · intro text write
    simp [Uplink.send, unhooked]
  · intro kept
    have held := (kept 1 (by decide) (by decide) (by decide)).1
    rw [unhooked] at held
    cases held

end FeedBridge.Switchboard
