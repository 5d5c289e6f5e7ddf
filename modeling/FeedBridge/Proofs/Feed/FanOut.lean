import FeedBridge.Proofs.Feed.Serving

namespace FeedBridge.Routing

variable {s : Routing} {known : List SessionId} {id : SessionId} {seat : Seat}

theorem succeeds_iff (s : Routing) (session : SessionId) (topic : Topic) :
    s.succeeds session topic = true ↔ s.link.isOpen = true ∧ s.link.nextFailure = none := by
  unfold succeeds subscribe Router.beginSubscribe Link.send
  cases isOpen : s.link.isOpen with
  | false => simp
  | true => cases failure : s.link.nextFailure <;> simp [Router.finishSubscribe]

theorem serves_subscribe (serves : s.router.Serves known id seat) {session : SessionId}
    (speaker : session ∈ known) (topic : Topic) :
    (s.subscribe session topic).1.router.Serves known id
      (seat.want (if session = id ∧ s.succeeds session topic then some topic else none)) := by
  simp only [succeeds_iff]
  unfold subscribe Router.beginSubscribe Link.send
  cases isOpen : s.link.isOpen with
  | false => simpa [Seat.want] using serves
  | true =>
      have reserved : (s.router.reserve topic).2.Serves known id seat := serves.congr rfl rfl rfl
      cases failure : s.link.nextFailure with
      | some cause => simpa [Router.finishSubscribe, Seat.want] using reserved
      | none =>
          have recorded := reserved.record topic speaker
          split_ifs at recorded with same <;> simpa [Router.finishSubscribe, Seat.want, same] using recorded

theorem serves_route (serves : s.router.Serves known id seat) (channel : String) (data : Json) :
    (s.router.route channel data).1.Serves known id
      (seat.witness (Step.route channel data).event?) := by
  have routed := serves.route channel data
  unfold Step.event?
  cases found : Topic.ofChannel? channel with
  | none => simpa [found, Seat.witness] using routed
  | some topic => simpa [found, Seat.witness] using routed

theorem serves_exchangeText (serves : s.router.Serves known id seat) (text : String) :
    (s.router.exchangeText text).Serves known id
      (seat.witness (Step.exchangeText text).event?) := by
  cases decoded : Rpc.Inbound.decode text with
  | error cause => simpa [Router.exchangeText, Step.event?, decoded, Seat.witness] using serves
  | ok message =>
      cases message with
      | ack number refusal => simpa [Router.exchangeText, Step.event?, decoded, Seat.witness] using serves
      | event channel data =>
          have routed := serves_route serves channel data
          simpa [Router.exchangeText, Step.event?, decoded] using routed
      | other value => simpa [Router.exchangeText, Step.event?, decoded, Seat.witness] using serves

theorem serves_step (serves : s.router.Serves known id seat) {step : Step}
    (proper : step.Proper known) :
    (s.step step).1.router.Serves (step.newcomer?.toList ++ known) id
      (seat.step id (s.subscribedBy? id step) step) := by
  cases step with
  | setOpen isOpen => exact serves.congr rfl rfl rfl
  | failNextSend cause => exact serves.congr rfl rfl rfl
  | connect session => exact serves.enroll proper.1 proper.2
  | disconnect session =>
      have unregistered := serves.unregister session
      apply unregistered.forget
      intro same
      simp [same]
  | vanish session => exact serves.unregister session
  | dropWriter session => exact serves.dropLatest session
  | take session limit => exact serves.takeLatest session limit
  | clientText session text =>
      change (s.clientText session text).router.Serves known id (seat.want _)
      cases parsed : ClientRequest.parse text with
      | error cause => simpa [clientText, subscribedBy?, parsed, Seat.want] using serves
      | ok topic =>
          simpa [clientText, subscribedBy?, parsed] using serves_subscribe serves proper topic
  | clientError => exact serves
  | subscribe session topic =>
      have router : (s.step (.subscribe session topic)).1 = (s.subscribe session topic).1 := by
        rcases made : s.subscribe session topic with ⟨after, cause | _⟩ <;> simp [Routing.step, made]
      rw [router]
      exact serves_subscribe serves proper topic
  | addEntry session topic => exact proper.elim
  | exchangeText text => exact serves_exchangeText serves text
  | exchangeOpen => exact serves
  | exchangeClose => exact serves.congr rfl rfl rfl
  | exchangeError => exact serves
  | route channel data => exact serves_route serves channel data
  | halt => exact serves.congr rfl rfl rfl

theorem waiting_eq (serves : s.router.Serves known id seat) : s.waiting id = seat.waiting := by
  have describes := serves.matched.describes
  unfold waiting
  cases found : s.router.roster.session? id with
  | none =>
      rw [found] at describes
      exact describes.2.1.symm
  | some session =>
      rw [found] at describes
      exact describes.2.2.1.symm

theorem takenBy_take (serves : s.router.Serves known id seat) (limit : Option Nat) :
    s.takenBy id (.take id limit) =
      if seat.writerAlive then seat.waiting.take (limit.getD seat.waiting.length) else [] := by
  have describes := serves.matched.describes
  have answer : (s.step (.take id limit)).2 = .queue (s.router.roster.takeLatest id limit).2 := rfl
  unfold takenBy
  simp only [answer]
  rcases Roster.takeLatest_cases s.router.roster id limit with
    ⟨unchanged, idle⟩ | ⟨place, session, found, -, writer, -, frames⟩
  · simp [unchanged, describes.quiet idle]
  · rw [found] at describes
    rw [frames]
    simp [Outbox.take, describes.2.2.1, describes.2.2.2, writer]

theorem accounts_step (serves : s.router.Serves known id seat) {step : Step}
    (proper : step.Proper known) {past : List Frame}
    (accounts : seat.accepted = past ++ seat.waiting) :
    (seat.step id (s.subscribedBy? id step) step).accepted =
      past ++ s.takenBy id step ++ (seat.step id (s.subscribedBy? id step) step).waiting := by
  have event (found : Option (Topic × Json)) :
      (seat.witness found).accepted = past ++ (seat.witness found).waiting := by
    cases found with
    | none => exact accounts
    | some routed =>
        obtain ⟨taken, hWaiting, hAccepted⟩ := Seat.offerCopies_grows
          (seat.format.frame routed.2.text) (seat.wanted.count routed.1) seat
        change (Seat.offerCopies _ _ seat).accepted = past ++ (Seat.offerCopies _ _ seat).waiting
        rw [hWaiting, hAccepted, accounts, List.append_assoc]
  have request (topic : Option Topic) :
      (seat.want topic).accepted = past ++ (seat.want topic).waiting := by
    cases topic <;> exact accounts
  cases step with
  | connect session =>
      simp only [Seat.step, takenBy, List.append_nil]
      split_ifs with same
      · -- The number is new, so nothing was accepted under it and nothing waits.
        have absent := serves.strangers id (same ▸ proper.1)
        have describes := serves.matched.describes
        rw [absent] at describes
        rw [describes.2.1, describes.2.2, List.append_nil] at accounts
        rw [← accounts]
        rfl
      · exact accounts
  | take session limit =>
      by_cases same : session = id
      · subst same
        rw [takenBy_take serves]
        cases writer : seat.writerAlive with
        | false => simpa [Seat.step, writer] using accounts
        | true => simp [Seat.step, writer, accounts]
      · have nothing : s.takenBy id (.take session limit) = [] := by
          simp only [takenBy, same, ↓reduceIte]
          split <;> rfl
        rw [nothing, List.append_nil, Seat.step, if_neg (fun h => same h.1)]
        exact accounts
  | disconnect session | vanish session | dropWriter session =>
      simp only [Seat.step, takenBy, List.append_nil]
      split_ifs <;> exact accounts
  | clientText session text | subscribe session topic =>
      simpa [Seat.step, takenBy] using request _
  | exchangeText text | route channel data => simpa [Seat.step, takenBy] using event _
  | addEntry session topic => exact proper.elim
  | setOpen | failNextSend | clientError | exchangeOpen | exchangeClose | exchangeError | halt =>
      simpa [Seat.step, takenBy] using accounts

theorem serves_run {steps : List Step} (serves : s.router.Serves known id seat)
    (orderly : Orderly known steps) {past : List Frame}
    (accounts : seat.accepted = past ++ seat.waiting) :
    (∃ known', (s.run steps).router.Serves known' id (Seat.run id s steps seat)) ∧
      (Seat.run id s steps seat).accepted = past ++ s.accepted id steps := by
  induction steps generalizing s known seat past with
  | nil =>
      refine ⟨⟨known, serves⟩, ?_⟩
      change seat.accepted = past ++ ([] ++ s.waiting id)
      rw [waiting_eq serves, accounts, List.nil_append]
  | cons step rest ih =>
      have after := serves_step serves orderly.1
      have accounted := accounts_step serves orderly.1 accounts
      obtain ⟨served, taken⟩ := ih after orderly.2 accounted
      refine ⟨served, ?_⟩
      change (Seat.run id (s.step step).1 rest _).accepted =
        past ++ (s.takenBy id step ++ Routing.taken id (s.step step).1 rest ++
          ((s.step step).1.run rest).waiting id)
      rw [taken, accepted, List.append_assoc, List.append_assoc]

theorem orderly_append {steps later : List Step} (orderly : Orderly known steps)
    (proper : ∀ known, Orderly known later) : Orderly known (steps ++ later) := by
  induction steps generalizing known with
  | nil => exact proper known
  | cons step rest ih => exact ⟨orderly.1, ih orderly.2⟩

theorem seat_run_append (s : Routing) (steps later : List Step) (seat : Seat) :
    Seat.run id s (steps ++ later) seat =
      Seat.run id (s.run steps) later (Seat.run id s steps seat) := by
  induction steps generalizing s seat with
  | nil => rfl
  | cons step rest ih => exact ih _ _

theorem serves_start (interval : String) (link : Link) (id : SessionId) :
    Router.Serves (Routing.mk { interval } link).router [] id .absent where
  tidy := ⟨List.nodup_nil, by simp⟩
  strangers _ _ := rfl
  listed := by simp
  matched := ⟨rfl, rfl, rfl, rfl⟩
  wanted := by simp [Seat.absent]

theorem witness_of_unasked {topic : Topic} (data : Json)
    (unasked : topic ∉ seat.wanted ∨ seat.registered = false) :
    seat.witness (some (topic, data)) = seat := by
  change Seat.offerCopies _ (seat.wanted.count topic) seat = seat
  rcases unasked with unwanted | gone
  · rw [List.count_eq_zero_of_not_mem unwanted]
    rfl
  · exact Seat.offerCopies_of_unregistered gone _ _

/-- After every orderly run the frames that the queue of a session ever took are those that its
seat took, and the seat tells the truth about the session. In particular the session gets nothing
from an event of a topic that it did not ask for before, or once it is not registered any more. -/
theorem accepted_eq_seat (interval : String) (link : Link) (steps : List Step)
    (orderly : Orderly [] steps) (id : SessionId) :
    let start : Routing := { router := { interval }, link }
    let seat := Seat.run id start steps .absent
    start.accepted id steps = seat.accepted ∧
      seat.Matches (start.run steps).router.roster id ∧
      ∀ step topic data, Step.event? step = some (topic, data) →
        (topic ∉ seat.wanted ∨ seat.registered = false) →
        start.accepted id (steps ++ [step]) = start.accepted id steps := by
  intro start seat
  have empty : Seat.absent.accepted = [] ++ Seat.absent.waiting := rfl
  have whole (steps : List Step) (orderly : Orderly [] steps) :=
    serves_run (serves_start interval link id) orderly empty
  obtain ⟨⟨known, served⟩, accounted⟩ := whole steps orderly
  rw [List.nil_append] at accounted
  refine ⟨accounted.symm, served.matched, ?_⟩
  intro step topic data event unasked
  have proper (known : List SessionId) : Orderly known [step] := by
    cases step <;> first | exact ⟨trivial, trivial⟩ | cases event
  have later := (whole (steps ++ [step]) (orderly_append orderly proper)).2
  rw [List.nil_append, seat_run_append] at later
  rw [← accounted, ← later]
  change (Seat.step id _ seat step).accepted = seat.accepted
  have witnessed : Seat.step id ((start.run steps).subscribedBy? id step) seat step =
      seat.witness (some (topic, data)) := by
    cases step <;> first | cases event | (rw [← event]; rfl)
  rw [witnessed, witness_of_unasked data unasked]

theorem accepted_eq_seat_of_double_request :
    let request := "\x7b\"method\":\"subscribe_orderbook\",\"symbol\":\"A\"\x7d"
    let event (data : String) := Step.exchangeText
      ("\x7b\"params\":\x7b\"channel\":\"book.A.100ms\",\"data\":" ++ data ++ "\x7d\x7d")
    let steps := [.connect (.fresh ⟨1⟩ .text 2), event "1", .clientText ⟨1⟩ request,
      .clientText ⟨1⟩ request, event "2", .take ⟨1⟩ (some 1), event "3", .vanish ⟨1⟩, event "4"]
    let start : Routing := { router := { interval := "100ms" }, link := {} }
    Orderly [] steps ∧
      start.accepted ⟨1⟩ steps = [.text "2", .text "2", .text "3"] := by
  intro request event steps start
  have orderly : Orderly [] steps :=
    ⟨⟨by simp, 2, rfl⟩, trivial, List.mem_singleton_self _, List.mem_singleton_self _, trivial,
      trivial, trivial, trivial, trivial, trivial⟩
  refine ⟨orderly, ?_⟩
  rw [(accepted_eq_seat "100ms" {} steps orderly ⟨1⟩).1]
  decide +kernel

end FeedBridge.Routing
