import FeedBridge.Proofs.Feed.Seat
import Mathlib.Data.List.Count

namespace FeedBridge

namespace Subscriptions

def topicsOf (entries : Subscriptions) (id : SessionId) : List Topic :=
  (entries.filter fun entry => entry.session = id).map (·.topic)

theorem topicsOf_add (entries : Subscriptions) (topic : Topic) (session id : SessionId) :
    (entries.add topic session).topicsOf id =
      if session = id then entries.topicsOf id ++ [topic] else entries.topicsOf id := by
  unfold topicsOf add
  rw [List.filter_append, List.map_append]
  by_cases same : session = id <;> simp [same]

theorem topicsOf_purge (entries : Subscriptions) (isLive : SessionId → Bool) (id : SessionId)
    (live : isLive id = true) : (entries.purge isLive).topicsOf id = entries.topicsOf id := by
  unfold topicsOf purge
  rw [List.filter_filter]
  congr 1
  apply List.filter_congr
  intro entry _
  by_cases same : entry.session = id <;> simp [same, live]

theorem stale_eq_countP (entries : Subscriptions) (isLive : SessionId → Bool) :
    entries.stale isLive = entries.countP fun entry => !isLive entry.session := by
  have split := List.length_eq_countP_add_countP (fun entry => isLive entry.session) (l := entries)
  rw [stale, purge, ← List.countP_eq_length_filter]
  simp only [Bool.not_eq_true, Bool.decide_eq_false] at split
  omega

theorem topicsOf_eq_nil {entries : Subscriptions} {id : SessionId}
    (stranger : ∀ entry ∈ entries, entry.session ≠ id) : entries.topicsOf id = [] := by
  unfold topicsOf
  rw [List.map_eq_nil_iff, List.filter_eq_nil_iff]
  simpa using stranger

theorem count_matching (entries : Subscriptions) (topic : Topic) (id : SessionId) :
    (entries.matching topic).count id = (entries.topicsOf id).count topic := by
  unfold matching topicsOf
  induction entries with
  | nil => rfl
  | cons entry rest ih =>
      by_cases wanted : entry.topic = topic <;> by_cases same : entry.session = id <;>
        simp_all

end Subscriptions

namespace Seat

theorem offer_of_unregistered {seat : Seat} (gone : seat.registered = false) (frame : Frame) :
    seat.offer frame = seat := by
  simp [offer, gone]

theorem offerCopies_of_unregistered {seat : Seat} (gone : seat.registered = false) (frame : Frame)
    (count : Nat) : offerCopies frame count seat = seat := by
  induction count with
  | zero => rfl
  | succ count ih => rw [offerCopies, offer_of_unregistered gone, ih]

@[simp]
theorem format_offer (seat : Seat) (frame : Frame) : (seat.offer frame).format = seat.format := by
  unfold offer
  split <;> rfl

@[simp]
theorem wanted_offer (seat : Seat) (frame : Frame) : (seat.offer frame).wanted = seat.wanted := by
  unfold offer
  split <;> rfl

@[simp]
theorem registered_offer (seat : Seat) (frame : Frame) :
    (seat.offer frame).registered = seat.registered := by
  unfold offer
  split <;> rfl

@[simp]
theorem wanted_offerCopies (frame : Frame) (count : Nat) (seat : Seat) :
    (offerCopies frame count seat).wanted = seat.wanted := by
  induction count generalizing seat with
  | zero => rfl
  | succ count ih => rw [offerCopies, ih, wanted_offer]

@[simp]
theorem registered_offerCopies (frame : Frame) (count : Nat) (seat : Seat) :
    (offerCopies frame count seat).registered = seat.registered := by
  induction count generalizing seat with
  | zero => rfl
  | succ count ih => rw [offerCopies, ih, registered_offer]

theorem offerCopies_grows (frame : Frame) (count : Nat) (seat : Seat) :
    ∃ taken, (offerCopies frame count seat).waiting = seat.waiting ++ taken ∧
      (offerCopies frame count seat).accepted = seat.accepted ++ taken := by
  induction count generalizing seat with
  | zero => exact ⟨[], by simp [offerCopies], by simp [offerCopies]⟩
  | succ count ih =>
      obtain ⟨taken, hWaiting, hAccepted⟩ := ih (seat.offer frame)
      rw [offerCopies, hWaiting, hAccepted]
      unfold offer
      split_ifs
      · exact ⟨frame :: taken, by simp, by simp⟩
      · exact ⟨taken, rfl, rfl⟩

def Describes (seat : Seat) : Option Session → Prop
  | none => seat.writerAlive = false ∧ seat.waiting = [] ∧ seat.accepted = []
  | some session => seat.format = session.format ∧ seat.capacity = session.outbox.capacity ∧
      seat.waiting = session.outbox.waiting ∧ seat.writerAlive = session.outbox.writerAlive

/-- The seat tells the truth about the session of a number. -/
structure Matches (seat : Seat) (roster : Roster) (id : SessionId) : Prop where
  registered : seat.registered = roster.isLive id
  describes : seat.Describes (roster.session? id)

theorem Describes.congr {seat other : Seat} {session : Option Session}
    (describes : seat.Describes session) (format : other.format = seat.format)
    (capacity : other.capacity = seat.capacity) (waiting : other.waiting = seat.waiting)
    (writerAlive : other.writerAlive = seat.writerAlive)
    (accepted : other.accepted = seat.accepted) : other.Describes session := by
  cases session with
  | none => exact ⟨writerAlive.trans describes.1, waiting.trans describes.2.1,
      accepted.trans describes.2.2⟩
  | some session => exact ⟨format.trans describes.1, capacity.trans describes.2.1,
      waiting.trans describes.2.2.1, writerAlive.trans describes.2.2.2⟩

theorem Describes.quiet {seat : Seat} {session : Option Session} (describes : seat.Describes session)
    (idle : ∀ seated, session = some seated → seated.outbox.writerAlive = false) :
    seat.writerAlive = false := by
  cases session with
  | none => exact describes.1
  | some seated => exact describes.2.2.2.trans (idle seated rfl)

theorem Describes.offer {seat : Seat} {session : Session} (describes : seat.Describes (some session))
    (present : seat.registered = true) (frame : Frame) :
    (seat.offer frame).Describes
      (some { session with outbox := session.outbox.offer frame }) := by
  obtain ⟨format, capacity, waiting, writer⟩ := describes
  cases alive : session.outbox.writerAlive with
  | false =>
      rw [alive] at writer
      simp [Seat.offer, Outbox.offer, Outbox.answer, Describes, present, alive, writer, format,
        capacity, waiting]
  | true =>
      rw [alive] at writer
      by_cases room : session.outbox.waiting.length < session.outbox.capacity <;>
        simp [Seat.offer, Outbox.offer, Outbox.answer, Describes, present, alive, writer, format,
          capacity, waiting, room]

theorem Matches.deliver {seat : Seat} {roster : Roster} {id : SessionId} (tidy : roster.Tidy)
    (matched : seat.Matches roster id) (payload : String) :
    (seat.offer (seat.format.frame payload)).Matches (roster.deliver id payload) id := by
  constructor
  · rw [registered_offer, matched.registered,
      Roster.isLive_congr (Roster.registered_deliver roster id payload)]
  · rcases tidy.deliver_cases id payload with ⟨gone, same⟩ | ⟨place, session, live, located, hId, -⟩
    · have unregistered := matched.registered.trans gone
      rw [same, offer_of_unregistered unregistered]
      exact matched.describes
    · have seated : roster.session? id = some session :=
        tidy.session?_eq_some.mpr ⟨List.mem_of_getElem? located, hId⟩
      have describes := matched.describes
      rw [seated] at describes
      rw [tidy.session?_deliver, if_pos ⟨rfl, live⟩, seated, Option.map_some, describes.1]
      exact describes.offer (matched.registered.trans live) _

theorem Matches.deliver_other {seat : Seat} {roster : Roster} {id : SessionId} (tidy : roster.Tidy)
    (matched : seat.Matches roster id) {other : SessionId} (elsewhere : id ≠ other)
    (payload : String) : seat.Matches (roster.deliver other payload) id := by
  constructor
  · rw [Roster.isLive_congr (Roster.registered_deliver roster other payload)]
    exact matched.registered
  · rw [tidy.session?_deliver, if_neg (fun h => elsewhere h.1)]
    exact matched.describes

end Seat

namespace Router

theorem tidy_deliverAll {roster : Roster} (tidy : roster.Tidy) (payload : String)
    (recipients : List SessionId) : (deliverAll roster payload recipients).1.Tidy := by
  induction recipients generalizing roster with
  | nil => exact tidy
  | cons first rest ih => exact ih (tidy.deliver first payload)

theorem session?_deliverAll_none {roster : Roster} (tidy : roster.Tidy) (payload : String)
    (recipients : List SessionId) {id : SessionId} (stranger : roster.session? id = none) :
    (deliverAll roster payload recipients).1.session? id = none := by
  induction recipients generalizing roster with
  | nil => exact stranger
  | cons first rest ih =>
      apply ih (tidy.deliver first payload)
      rw [tidy.session?_deliver]
      split_ifs with same
      · rw [← same.1, stranger]
        rfl
      · exact stranger

theorem matches_deliverAll {roster : Roster} (tidy : roster.Tidy) {seat : Seat} {id : SessionId}
    (matched : seat.Matches roster id) (payload : String) (recipients : List SessionId) :
    (Seat.offerCopies (seat.format.frame payload) (recipients.count id) seat).Matches
      (deliverAll roster payload recipients).1 id := by
  induction recipients generalizing roster seat with
  | nil => exact matched
  | cons first rest ih =>
      by_cases same : first = id
      · subst same
        have after := ih (tidy.deliver first payload) (matched.deliver tidy payload)
        rw [Seat.format_offer] at after
        rw [List.count_cons_self, Seat.offerCopies]
        exact after
      · have after := ih (tidy.deliver first payload)
          (matched.deliver_other tidy (Ne.symm same) payload)
        rw [List.count_cons_of_ne same]
        exact after

/-! ## Routers and seats -/

structure Serves (r : Router) (known : List SessionId) (id : SessionId) (seat : Seat) : Prop where
  tidy : r.roster.Tidy
  strangers : ∀ other, other ∉ known → r.roster.session? other = none
  listed : ∀ entry ∈ r.entries, entry.session ∈ known
  matched : seat.Matches r.roster id
  wanted : seat.registered = true → r.entries.topicsOf id = seat.wanted

variable {r : Router} {known : List SessionId} {id : SessionId} {seat : Seat}

theorem Serves.congr {r' : Router} (serves : r.Serves known id seat)
    (sessions : r'.roster.sessions = r.roster.sessions)
    (registered : r'.roster.registered = r.roster.registered) (entries : r'.entries = r.entries) :
    r'.Serves known id seat where
  tidy := serves.tidy.congr sessions (by simp [registered])
  strangers other stranger := by
    rw [Roster.session?_congr sessions]
    exact serves.strangers other stranger
  listed := by
    rw [entries]
    exact serves.listed
  matched := by
    constructor
    · rw [Roster.isLive_congr registered]
      exact serves.matched.registered
    · rw [Roster.session?_congr sessions]
      exact serves.matched.describes
  wanted := by
    rw [entries]
    exact serves.wanted

theorem Serves.setEntries (serves : r.Serves known id seat) (entries : Subscriptions)
    (listed : ∀ entry ∈ entries, entry.session ∈ known)
    (wanted : seat.registered = true → entries.topicsOf id = seat.wanted) :
    (r.setEntries entries).Serves known id seat where
  tidy := serves.tidy.congr rfl fun _ member => member
  strangers := serves.strangers
  listed := listed
  matched := ⟨serves.matched.registered, serves.matched.describes⟩
  wanted := wanted

theorem Serves.purge (serves : r.Serves known id seat) : r.purge.Serves known id seat := by
  unfold Router.purge
  simp only
  split_ifs
  · apply serves.setEntries
    · intro entry member
      exact serves.listed entry (List.mem_filter.mp member).1
    · intro present
      rw [Subscriptions.topicsOf_purge _ _ _ (serves.matched.registered ▸ present)]
      exact serves.wanted present
  · exact serves

theorem Serves.fanOut (serves : r.Serves known id seat) (topic : Topic) (payload : String) :
    (r.fanOut topic payload).1.Serves known id (seat.receive topic payload) := by
  have copies : Seat.offerCopies (seat.format.frame payload)
      ((r.entries.matching topic).count id) seat = seat.receive topic payload := by
    rw [Seat.receive]
    cases present : seat.registered with
    | false => rw [Seat.offerCopies_of_unregistered present, Seat.offerCopies_of_unregistered present]
    | true => rw [Subscriptions.count_matching, serves.wanted present]
  have handedOut : Router.Serves { r with roster :=
      (deliverAll r.roster payload (r.entries.matching topic)).1 } known id
        (seat.receive topic payload) := by
    constructor
    · exact tidy_deliverAll serves.tidy _ _
    · exact fun other stranger =>
        session?_deliverAll_none serves.tidy _ _ (serves.strangers other stranger)
    · exact serves.listed
    · rw [← copies]
      exact matches_deliverAll serves.tidy serves.matched _ _
    · intro present
      rw [Seat.receive, Seat.registered_offerCopies] at present
      rw [Seat.receive, Seat.wanted_offerCopies]
      exact serves.wanted present
  unfold Router.fanOut
  split
  · next empty =>
    rw [empty, List.count_nil] at copies
    rw [← copies]
    exact serves
  · exact handedOut.congr rfl rfl rfl

theorem Serves.route (serves : r.Serves known id seat) (channel : String) (data : Json) :
    (r.route channel data).1.Serves known id
      (match Topic.ofChannel? channel with
        | some topic => seat.receive topic data.text
        | none => seat) := by
  unfold Router.route
  cases Topic.ofChannel? channel with
  | none => exact serves
  | some topic => exact serves.purge.fanOut topic data.text

theorem Serves.record (serves : r.Serves known id seat) (topic : Topic) {session : SessionId}
    (speaker : session ∈ known) : (r.record topic session).Serves known id
      (if session = id then { seat with wanted := seat.wanted ++ [topic] } else seat) := by
  have listed : ∀ entry ∈ r.entries.add topic session, entry.session ∈ known := by
    intro entry member
    rcases List.mem_append.mp member with old | new
    · exact serves.listed entry old
    · rw [List.mem_singleton.mp new]
      exact speaker
  unfold Router.record
  split_ifs with same
  · constructor
    · exact serves.tidy.congr rfl fun _ member => member
    · exact serves.strangers
    · exact listed
    · exact ⟨serves.matched.registered, serves.matched.describes.congr rfl rfl rfl rfl rfl⟩
    · intro present
      change (r.entries.add topic session).topicsOf id = _
      rw [Subscriptions.topicsOf_add, if_pos same, serves.wanted present]
  · apply serves.setEntries _ listed
    intro present
    rw [Subscriptions.topicsOf_add, if_neg same]
    exact serves.wanted present

theorem Serves.unregister (serves : r.Serves known id seat) (session : SessionId) :
    (r.onRoster (·.unregister session)).Serves known id
      (if session = id then { seat with registered := false } else seat) := by
  have live := Roster.isLive_unregister r.roster session id
  have describes : seat.Describes ((r.roster.unregister session).session? id) :=
    serves.matched.describes
  split_ifs with same
  · constructor
    · exact serves.tidy.unregister session
    · exact serves.strangers
    · exact serves.listed
    · refine ⟨?_, describes.congr rfl rfl rfl rfl rfl⟩
      change false = (r.roster.unregister session).isLive id
      rw [live]
      simp [same]
    · simp
  · constructor
    · exact serves.tidy.unregister session
    · exact serves.strangers
    · exact serves.listed
    · refine ⟨?_, describes⟩
      simp [Router.onRoster, live, serves.matched.registered, Ne.symm same]
    · exact serves.wanted

theorem Serves.forget (serves : r.Serves known id seat) {session : SessionId}
    (gone : session = id → seat.registered = false) : (r.forget session).Serves known id seat := by
  apply serves.setEntries
  · intro entry member
    exact serves.listed entry (List.mem_filter.mp member).1
  · intro present
    have differ : session ≠ id := fun same => by simp [gone same] at present
    rw [Subscriptions.removeSession,
      Subscriptions.topicsOf_purge _ _ _ (by simpa using Ne.symm differ)]
    exact serves.wanted present

theorem Serves.enroll (serves : r.Serves known id seat) {session : Session}
    (newcomer : session.id ∉ known) (idle : ∃ capacity, session.outbox = .empty capacity) :
    Router.Serves { r with roster := r.roster.enroll session } (session.id :: known) id
      (if session.id = id then .arriving session else seat) := by
  have fresh := serves.strangers session.id newcomer
  have tidy := serves.tidy.enroll fresh
  have strangers : ∀ other, other ∉ session.id :: known →
      (r.roster.enroll session).session? other = none := by
    intro other stranger
    rw [List.mem_cons, not_or] at stranger
    rw [serves.tidy.session?_enroll fresh, if_neg stranger.1]
    exact serves.strangers other stranger.2
  have listed : ∀ entry ∈ r.entries, entry.session ∈ session.id :: known :=
    fun entry member => List.mem_cons_of_mem _ (serves.listed entry member)
  obtain ⟨capacity, idle⟩ := idle
  split_ifs with same
  · subst same
    refine ⟨tidy, strangers, listed, ⟨?_, ?_⟩, ?_⟩
    · simp [Roster.isLive_enroll, Seat.arriving]
    · rw [serves.tidy.session?_enroll fresh, if_pos rfl]
      exact ⟨rfl, rfl, by rw [idle]; rfl, by rw [idle]; rfl⟩
    · intro _
      -- Every subscription belongs to a number that was connected before, and this one was not.
      apply Subscriptions.topicsOf_eq_nil
      intro entry member same
      exact newcomer (same ▸ serves.listed entry member)
  · refine ⟨tidy, strangers, listed, ⟨?_, ?_⟩, serves.wanted⟩
    · rw [Roster.isLive_enroll, serves.matched.registered]
      simp [Ne.symm same]
    · rw [serves.tidy.session?_enroll fresh, if_neg (Ne.symm same)]
      exact serves.matched.describes

theorem Serves.reseat (serves : r.Serves known id seat) {roster : Roster} {other : Seat}
    (tidy : roster.Tidy) (registered : roster.registered = r.roster.registered)
    (strangers : ∀ stranger, r.roster.session? stranger = none → roster.session? stranger = none)
    (present : other.registered = seat.registered) (wanted : other.wanted = seat.wanted)
    (describes : other.Describes (roster.session? id)) :
    Router.Serves { r with roster } known id other where
  tidy := tidy
  strangers stranger unknown := strangers stranger (serves.strangers stranger unknown)
  listed := serves.listed
  matched := by
    refine ⟨?_, describes⟩
    rw [present, Roster.isLive_congr registered, serves.matched.registered]
  wanted := by
    rw [present, wanted]
    exact serves.wanted

theorem Serves.takeLatest (serves : r.Serves known id seat) (session : SessionId)
    (limit : Option Nat) :
    Router.Serves { r with roster := (r.roster.takeLatest session limit).1 } known id
      (if session = id ∧ seat.writerAlive then
        { seat with waiting := seat.waiting.drop (limit.getD seat.waiting.length) }
      else seat) := by
  have describes := serves.matched.describes
  rcases Roster.takeLatest_cases r.roster session limit with
    ⟨unchanged, idle⟩ | ⟨place, seated, found, located, writer, after, -⟩
  · rw [unchanged, if_neg]
    · exact serves
    · rintro ⟨rfl, alive⟩
      simp [describes.quiet idle] at alive
  · have tidy := serves.tidy.takeLatest session limit
    have registered := Roster.registered_takeLatest r.roster session limit
    have strangers : ∀ stranger, r.roster.session? stranger = none →
        (r.roster.takeLatest session limit).1.session? stranger = none := by
      intro stranger absent
      have differ : stranger ≠ session := by
        rintro rfl
        rw [found] at absent
        cases absent
      rw [serves.tidy.session?_takeLatest session stranger limit differ]
      exact absent
    by_cases same : session = id
    · subst same
      rw [found] at describes
      obtain ⟨format, capacity, waiting, writerAlive⟩ := describes
      rw [if_pos ⟨rfl, writerAlive.trans writer⟩]
      refine serves.reseat tidy registered strangers rfl rfl ?_
      rw [after, serves.tidy.session?_setOutbox located, if_pos (Roster.session?_id found).symm]
      exact ⟨format, capacity, by rw [waiting]; rfl, writerAlive⟩
    · rw [if_neg (fun h => same h.1)]
      refine serves.reseat tidy registered strangers rfl rfl ?_
      rw [serves.tidy.session?_takeLatest session id limit (Ne.symm same)]
      exact describes

theorem Serves.dropLatest (serves : r.Serves known id seat) (session : SessionId) :
    Router.Serves { r with roster := (r.roster.dropLatest session).1 } known id
      (if session = id then { seat with writerAlive := false } else seat) := by
  have describes := serves.matched.describes
  have tidy := serves.tidy.dropLatest session
  have registered := Roster.registered_dropLatest r.roster session
  have strangers : ∀ stranger, r.roster.session? stranger = none →
      (r.roster.dropLatest session).1.session? stranger = none := by
    intro stranger absent
    rw [serves.tidy.session?_dropLatest]
    split_ifs with same
    · rw [← same, absent]
      rfl
    · exact absent
  split_ifs with same
  · subst same
    refine serves.reseat tidy registered strangers rfl rfl ?_
    rw [serves.tidy.session?_dropLatest, if_pos rfl]
    cases found : r.roster.session? session with
    | none =>
        rw [found] at describes
        exact ⟨rfl, describes.2⟩
    | some seated =>
        rw [found] at describes
        exact ⟨describes.1, describes.2.1, describes.2.2.1, rfl⟩
  · refine serves.reseat tidy registered strangers rfl rfl ?_
    rw [serves.tidy.session?_dropLatest, if_neg (Ne.symm same)]
    exact describes

end Router

structure Router.Quiet (before after : Router) : Prop where
  interval : after.interval = before.interval
  entries : after.entries ⊆ before.entries

namespace Router.Quiet

variable {r : Router}

theorem refl (r : Router) : r.Quiet r := ⟨rfl, List.Subset.refl _⟩

theorem trans {before between after : Router} (first : before.Quiet between)
    (second : between.Quiet after) : before.Quiet after :=
  ⟨second.interval.trans first.interval, List.Subset.trans second.entries first.entries⟩

theorem onRoster (r : Router) (change : Roster → Roster) : r.Quiet (r.onRoster change) :=
  ⟨rfl, List.Subset.refl _⟩

theorem setEntries {entries : Subscriptions} (fewer : entries ⊆ r.entries) :
    r.Quiet (r.setEntries entries) := ⟨rfl, fewer⟩

theorem forget (r : Router) (session : SessionId) : r.Quiet (r.forget session) :=
  setEntries List.filter_sublist.subset

theorem purge (r : Router) : r.Quiet r.purge := by
  dsimp only [Router.purge]
  split_ifs
  · exact setEntries List.filter_sublist.subset
  · exact refl r

theorem fanOut (r : Router) (topic : Topic) (payload : String) :
    r.Quiet (r.fanOut topic payload).1 := by
  unfold Router.fanOut
  cases r.entries.matching topic with
  | nil => exact refl r
  | cons id rest => exact ⟨rfl, List.Subset.refl _⟩

theorem route (r : Router) (channel : String) (data : Json) :
    r.Quiet (r.route channel data).1 := by
  unfold Router.route
  split
  · exact refl r
  · exact (purge r).trans (fanOut _ _ _)

theorem exchangeText (r : Router) (text : String) : r.Quiet (r.exchangeText text) := by
  unfold Router.exchangeText
  split
  · exact route r _ _
  · exact refl r

end Router.Quiet

end FeedBridge
