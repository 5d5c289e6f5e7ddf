import FeedBridge.Proofs.Client.Likeness
import FeedBridge.Proofs.Feed.Interplay

namespace FeedBridge

namespace Router

def offeredTo (roster : Roster) (payload : String) : List SessionId → List Offered
  | [] => []
  | id :: rest =>
    roster.deliveryOffered id payload ++ offeredTo (roster.deliver id payload) payload rest

def eventOffered (r : Router) (channel : String) (data : Json) : List Offered :=
  match Topic.ofChannel? channel with
  | none => []
  | some topic => offeredTo r.purge.roster data.text (r.purge.entries.matching topic)

theorem grows_deliverAll (roster : Roster) (payload : String) (recipients : List SessionId) :
    roster.Grows (deliverAll roster payload recipients).1 (offeredTo roster payload recipients) := by
  induction recipients generalizing roster with
  | nil => exact .of_sessions rfl
  | cons id rest ih => exact (Roster.Grows.deliver roster id payload).trans (ih _)

theorem sessions_purge (r : Router) : r.purge.roster.sessions = r.roster.sessions := by
  dsimp only [purge]
  split_ifs <;> rfl

theorem grows_route (r : Router) (channel : String) (data : Json) :
    r.roster.Grows (r.route channel data).1.roster (r.eventOffered channel data) := by
  unfold route eventOffered
  cases Topic.ofChannel? channel with
  | none => exact .of_sessions rfl
  | some topic =>
      have handedOut := grows_deliverAll r.purge.roster data.text (r.purge.entries.matching topic)
      intro place session located
      dsimp only
      rw [sessions_fanOut]
      exact handedOut place session (by rwa [sessions_purge])

structure Like (id : SessionId) (r r' : Router) : Prop where
  interval : r'.interval = r.interval
  nextId : r'.nextId = r.nextId
  entries : r'.entries = r.entries
  running : r'.running = r.running
  roster : r.roster.Like id r'.roster

namespace Like

variable {id : SessionId} {r r' : Router}

theorem onRoster (like : r.Like id r') {roster roster' : Roster} (alike : roster.Like id roster') :
    Like id { r with roster } { r' with roster := roster' } :=
  ⟨like.interval, like.nextId, like.entries, like.running, alike⟩

theorem setEntries (like : r.Like id r') (entries : Subscriptions) :
    (r.setEntries entries).Like id (r'.setEntries entries) :=
  ⟨like.interval, like.nextId, rfl, like.running, like.roster.congr rfl rfl like.roster.registered⟩

theorem purge (like : r.Like id r') : r.purge.Like id r'.purge := by
  unfold Router.purge
  rw [like.entries, like.roster.isLive]
  dsimp only
  split_ifs
  · exact like.setEntries _
  · exact like

theorem deliverAll {roster roster' : Roster} (like : roster.Like id roster') (payload : String)
    (recipients : List SessionId) :
    (Router.deliverAll roster payload recipients).1.Like id
        (Router.deliverAll roster' payload recipients).1 ∧
      strangers id (offeredTo roster' payload recipients) =
        strangers id (offeredTo roster payload recipients) := by
  induction recipients generalizing roster roster' with
  | nil => exact ⟨like, rfl⟩
  | cons first rest ih =>
      obtain ⟨delivered, logged⟩ := like.deliver first payload
      obtain ⟨after, later⟩ := ih delivered
      refine ⟨after, ?_⟩
      rw [offeredTo, offeredTo, strangers_append, strangers_append, logged, later]

theorem fanOut (like : r.Like id r') (topic : Topic) (payload : String) :
    (r.fanOut topic payload).1.Like id (r'.fanOut topic payload).1 := by
  unfold Router.fanOut
  rw [like.entries]
  cases r.entries.matching topic with
  | nil => exact like
  | cons first rest =>
      have delivered := (deliverAll like.roster payload (first :: rest)).1
      exact ⟨like.interval, like.nextId, rfl, like.running, delivered.registered, delivered.sessions⟩

theorem route (like : r.Like id r') (channel : String) (data : Json) :
    (r.route channel data).1.Like id (r'.route channel data).1 ∧
      strangers id (r'.eventOffered channel data) = strangers id (r.eventOffered channel data) := by
  unfold Router.route eventOffered
  cases Topic.ofChannel? channel with
  | none => exact ⟨like, rfl⟩
  | some topic =>
      refine ⟨like.purge.fanOut topic data.text, ?_⟩
      dsimp only
      rw [like.purge.entries]
      exact (deliverAll like.purge.roster data.text _).2

end Like

end Router

namespace Routing

inductive Act
  | router (step : Step)
  | roster (step : Roster.Step)

def Act.onRoster? : Act → Option Roster.Step
  | .roster step => some step
  | .router (.connect session) => some (.enroll session)
  | .router (.vanish session) => some (.unregister session)
  | .router (.dropWriter session) => some (.dropWriter session)
  | .router (.take session limit) => some (.take session limit)
  | .router _ => none

def act (s : Routing) : Act → Routing
  | .router step => (s.step step).1
  | .roster step => (s.rosterStep step).1

def acts (s : Routing) (list : List Act) : Routing := list.foldl act s

def offers (s : Routing) (act : Act) : List Offered :=
  match act.onRoster?, act with
  | some step, _ => s.router.roster.offers step
  | none, .router (.exchangeText text) =>
    match Rpc.Inbound.decode text with
    | .ok (.event channel data) => s.router.eventOffered channel data
    | _ => []
  | none, .router (.route channel data) => s.router.eventOffered channel data
  | none, _ => []

def takenAt (s : Routing) (place : Nat) (act : Act) : List Frame :=
  match act.onRoster? with
  | some step => s.router.roster.takenAt place step
  | none => []

theorem act_of_onRoster? {a : Act} {step : Roster.Step} (made : a.onRoster? = some step)
    (s : Routing) : s.act a = (s.rosterStep step).1 ∧ s.offers a = s.router.roster.offers step := by
  refine ⟨?_, by simp [offers, made]⟩
  cases a with
  | roster step => cases made; rfl
  | router step => cases step <;> cases made <;> rfl

structure Like (id : SessionId) (s s' : Routing) : Prop where
  link : s'.link = s.link
  router : s.router.Like id s'.router

theorem Like.symm {id : SessionId} {s s' : Routing} (like : s.Like id s') : s'.Like id s :=
  ⟨like.link.symm, like.router.interval.symm, like.router.nextId.symm, like.router.entries.symm,
    like.router.running.symm, like.router.roster.symm⟩

theorem Like.trans {id : SessionId} {s s' s'' : Routing} (first : s.Like id s')
    (second : s'.Like id s'') : s.Like id s'' :=
  ⟨second.link.trans first.link, second.router.interval.trans first.router.interval,
    second.router.nextId.trans first.router.nextId, second.router.entries.trans first.router.entries,
    second.router.running.trans first.router.running,
    first.router.roster.trans second.router.roster⟩

theorem Like.subscribe {id : SessionId} {s s' : Routing} (like : s.Like id s')
    (session : SessionId) (topic : Topic) :
    (s.subscribe session topic).1.Like id (s'.subscribe session topic).1 := by
  unfold Routing.subscribe Router.beginSubscribe Link.send
  rw [like.link]
  cases s.link.isOpen with
  | false => exact like
  | true =>
      have router := like.router
      cases s.link.nextFailure with
      | some cause =>
          exact ⟨rfl, router.interval, congrArg (· + 1) router.nextId, router.entries,
            router.running, router.roster⟩
      | none =>
          have text : Router.subscribeText s'.router.interval topic s'.router.nextId =
              Router.subscribeText s.router.interval topic s.router.nextId := by
            rw [router.interval, router.nextId]
          refine ⟨?_, router.interval, congrArg (· + 1) router.nextId,
            congrArg (Subscriptions.add · topic session) router.entries, router.running,
            router.roster.registered, router.roster.sessions⟩
          exact congrArg (fun text => Link.mk true none (s.link.sent ++ [text])) text

theorem Like.step {id : SessionId} {s s' : Routing} (like : s.Like id s') {step : Step}
    (more : (Act.router step).onRoster? = none) :
    (s.step step).1.Like id (s'.step step).1 ∧
      strangers id (s'.offers (.router step)) = strangers id (s.offers (.router step)) := by
  cases step with
  | connect | vanish | dropWriter | take => cases more
  | setOpen isOpen | failNextSend cause =>
      refine ⟨⟨?_, like.router⟩, rfl⟩
      simp only [Routing.step, like.link]
  | disconnect session =>
      refine ⟨⟨like.link, ?_⟩, rfl⟩
      have left := (like.router.onRoster (like.router.roster.unregister session)).setEntries
        (s.router.entries.removeSession session)
      simpa only [Routing.step, onRouter, Router.leave, Router.forget, Router.onRoster,
        like.router.entries] using left
  | clientText session text =>
      refine ⟨?_, rfl⟩
      dsimp only [Routing.step, clientText]
      split
      · exact like.subscribe _ _
      · exact like
  | clientError | exchangeOpen | exchangeError => exact ⟨like, rfl⟩
  | subscribe session topic =>
      refine ⟨?_, rfl⟩
      have same (s : Routing) : (s.step (.subscribe session topic)).1 =
          (s.subscribe session topic).1 := by
        rcases made : s.subscribe session topic with ⟨after, cause | _⟩ <;> simp [Routing.step, made]
      rw [same, same]
      exact like.subscribe session topic
  | addEntry session topic =>
      exact ⟨⟨like.link, like.router.interval, like.router.nextId,
        congrArg (Subscriptions.add · topic session) like.router.entries, like.router.running,
        like.router.roster⟩, rfl⟩
  | exchangeText text =>
      dsimp only [Routing.step, onRouter, Router.exchangeText, offers, Act.onRoster?]
      rcases Rpc.Inbound.decode text with cause | ⟨number, refusal⟩ | ⟨channel, data⟩ | value
      · exact ⟨like, rfl⟩
      · exact ⟨like, rfl⟩
      · have routed := like.router.route channel data
        exact ⟨⟨like.link, routed.1⟩, routed.2⟩
      · exact ⟨like, rfl⟩
  | exchangeClose | halt =>
      exact ⟨⟨like.link, like.router.interval, like.router.nextId, like.router.entries, rfl,
        like.router.roster⟩, rfl⟩
  | route channel data =>
      have routed := like.router.route channel data
      exact ⟨⟨like.link, routed.1⟩, routed.2⟩

/-! ## Two runs -/

def Act.receives (id : SessionId) (act : Act) : Bool := act.onRoster?.any (·.receives id)

/-- Two lists of the same steps, but for the queue of the sessions of a number and for what their
writers do. -/
inductive Alike (id : SessionId) : List Act → List Act → Prop
  | nil : Alike id [] []
  | same {rest rest' : List Act} (act : Act) (later : Alike id rest rest') :
      Alike id (act :: rest) (act :: rest')
  | queue {act act' : Act} {step step' : Roster.Step} {rest rest' : List Act}
      (made : act.onRoster? = some step) (made' : act'.onRoster? = some step')
      (alike : step'.blind id = step.blind id) (later : Alike id rest rest') :
      Alike id (act :: rest) (act' :: rest')
  | first {act : Act} {rest rest' : List Act} (receives : act.receives id = true)
      (later : Alike id rest rest') : Alike id (act :: rest) rest'
  | second {act : Act} {rest rest' : List Act} (receives : act.receives id = true)
      (later : Alike id rest rest') : Alike id rest (act :: rest')

structure Observation where
  entries : Subscriptions
  registered : List SessionId
  sent : List String
  nextId : UInt64
  offers : List Offered
  told : Option Roster.Response

def told (id : SessionId) (s : Routing) (act : Act) : Option Roster.Response :=
  act.onRoster?.bind fun step =>
    if step.sendsTo?.any (· != id) then some (s.rosterStep step).2 else none

def observe (id : SessionId) (s : Routing) (act : Act) : Observation where
  entries := (s.act act).router.entries
  registered := (s.act act).router.roster.registered.map (·.1)
  sent := (s.act act).link.sent
  nextId := (s.act act).router.nextId
  offers := strangers id (s.offers act)
  told := s.told id act

/-- What is observed after each step that is not one of the session's writer. -/
def observed (id : SessionId) : Routing → List Act → List Observation
  | _, [] => []
  | s, act :: rest =>
    if act.receives id then observed id (s.act act) rest
    else s.observe id act :: observed id (s.act act) rest

def history : Routing → List Act → List Offered
  | _, [] => []
  | s, act :: rest => s.offers act ++ history (s.act act) rest

variable {id : SessionId} {s s' : Routing}

theorem Like.act (like : s.Like id s') {a a' : Act} {step step' : Roster.Step}
    (made : a.onRoster? = some step) (made' : a'.onRoster? = some step')
    (alike : step'.blind id = step.blind id) :
    (s.act a).Like id (s'.act a') ∧ strangers id (s'.offers a') = strangers id (s.offers a) := by
  obtain ⟨after, offers⟩ := act_of_onRoster? made s
  obtain ⟨after', offers'⟩ := act_of_onRoster? made' s'
  obtain ⟨roster, logged⟩ := like.router.roster.step alike
  rw [after, after', offers, offers']
  exact ⟨⟨like.link, like.router.onRoster roster⟩, logged⟩

theorem Like.same (like : s.Like id s') (a : Act) :
    (s.act a).Like id (s'.act a) ∧ strangers id (s'.offers a) = strangers id (s.offers a) := by
  cases made : a.onRoster? with
  | some step => exact like.act made made rfl
  | none =>
      cases a with
      | roster step => cases made
      | router step => exact like.step made

theorem like_of_receives {a : Act} (receives : a.receives id = true) (s : Routing) :
    s.Like id (s.act a) ∧ s.offers a = [] := by
  unfold Act.receives at receives
  cases made : a.onRoster? with
  | none => simp [made] at receives
  | some step =>
      rw [made, Option.any_some] at receives
      obtain ⟨after, offers⟩ := act_of_onRoster? made s
      obtain ⟨like, silent⟩ := s.router.roster.like_of_receives receives
      rw [after, offers]
      exact ⟨⟨rfl, rfl, rfl, rfl, rfl, like⟩, silent⟩

theorem sessions_subscribe (s : Routing) (session : SessionId) (topic : Topic) :
    (s.subscribe session topic).1.router.roster.sessions = s.router.roster.sessions := by
  unfold Routing.subscribe Router.beginSubscribe Link.send
  cases s.link.isOpen with
  | false => rfl
  | true => cases s.link.nextFailure <;> rfl

theorem grows_step (s : Routing) {step : Step} (more : (Act.router step).onRoster? = none) :
    s.router.roster.Grows (s.step step).1.router.roster (s.offers (.router step)) := by
  cases step with
  | connect | vanish | dropWriter | take => cases more
  | clientText session text =>
      apply Roster.Grows.of_sessions
      dsimp only [Routing.step, clientText]
      split
      · exact sessions_subscribe s _ _
      · rfl
  | subscribe session topic =>
      apply Roster.Grows.of_sessions
      rw [← sessions_subscribe s session topic]
      dsimp only [Routing.step]
      split <;> simp_all
  | exchangeText text =>
      dsimp only [Routing.step, onRouter, Router.exchangeText, offers, Act.onRoster?]
      rcases Rpc.Inbound.decode text with cause | ⟨number, refusal⟩ | ⟨channel, data⟩ | value
      · exact .of_sessions rfl
      · exact .of_sessions rfl
      · exact s.router.grows_route channel data
      · exact .of_sessions rfl
  | route channel data => exact s.router.grows_route channel data
  | _ => exact .of_sessions rfl

theorem act_accounts (s : Routing) (a : Act) {place : Nat} {session : Session}
    (located : s.router.roster.sessions[place]? = some session) :
    ∃ outbox, (s.act a).router.roster.sessions[place]? = some { session with outbox } ∧
      session.outbox.waiting ++ Offered.acceptedAt place (s.offers a) =
        s.takenAt place a ++ outbox.waiting := by
  unfold takenAt
  cases made : a.onRoster? with
  | some step =>
      obtain ⟨after, offers⟩ := act_of_onRoster? made s
      rw [after, offers]
      exact s.router.roster.step_accounts step located
  | none =>
      cases a with
      | roster step => cases made
      | router step => exact (s.grows_step made).accounts located

def takenIn (place : Nat) : Routing → List Act → List Frame
  | _, [] => []
  | s, act :: rest => s.takenAt place act ++ takenIn place (s.act act) rest

theorem acts_accounts (s : Routing) (list : List Act) {place : Nat} {session : Session}
    (located : s.router.roster.sessions[place]? = some session) :
    ∃ outbox, (s.acts list).router.roster.sessions[place]? = some { session with outbox } ∧
      session.outbox.waiting ++ Offered.acceptedAt place (s.history list) =
        s.takenIn place list ++ outbox.waiting := by
  induction list generalizing s session with
  | nil => exact ⟨session.outbox, located, by simp [history, takenIn, Offered.acceptedAt]⟩
  | cons act rest ih =>
      obtain ⟨between, seated, accounts⟩ := s.act_accounts act located
      obtain ⟨outbox, found, later⟩ := ih (s.act act) seated
      refine ⟨outbox, found, ?_⟩
      rw [history, takenIn, Offered.acceptedAt_append, ← List.append_assoc, accounts,
        List.append_assoc, later, List.append_assoc]

/-! ## What the others can tell -/

theorem onRoster?_cases {a a' : Act}
    (alike : a'.onRoster?.map (·.blind id) = a.onRoster?.map (·.blind id)) :
    a'.onRoster? = a.onRoster? ∨ ∃ step step', a.onRoster? = some step ∧
      a'.onRoster? = some step' ∧ step.receives id = false ∧ step'.receives id = false ∧
      step.sendsTo? = none ∧ step'.sendsTo? = none := by
  cases made : a.onRoster? with
  | none => simpa [made] using alike
  | some step =>
      rw [made, Option.map_some] at alike
      obtain ⟨step', made', same⟩ := Option.map_eq_some_iff.mp alike
      rcases Roster.Step.blind_cases same with rfl | ⟨_, _, rfl, rfl, -⟩ | ⟨_, _, rfl, rfl, -⟩
      · exact .inl made'
      · exact .inr ⟨_, _, rfl, made', rfl, rfl, rfl, rfl⟩
      · exact .inr ⟨_, _, rfl, made', rfl, rfl, rfl, rfl⟩

theorem Act.receives_congr {a a' : Act}
    (alike : a'.onRoster?.map (·.blind id) = a.onRoster?.map (·.blind id)) :
    a'.receives id = a.receives id := by
  rw [Act.receives, Act.receives]
  rcases onRoster?_cases alike with same | ⟨step, step', made, made', idle, idle', -⟩
  · rw [same]
  · simp [made, made', idle, idle']

theorem Like.told (like : s.Like id s') {a a' : Act}
    (alike : a'.onRoster?.map (·.blind id) = a.onRoster?.map (·.blind id)) :
    s'.told id a' = s.told id a := by
  unfold Routing.told
  rcases onRoster?_cases alike with same | ⟨step, step', made, made', -, -, silent, silent'⟩
  · rw [same]
    cases a.onRoster? with
    | none => rfl
    | some step =>
        cases sends : step.sendsTo? with
        | none => simp [sends]
        | some other =>
            by_cases differ : other = id
            · simp [sends, differ]
            · have told : (s'.rosterStep step).2 = (s.rosterStep step).2 :=
                like.router.roster.told sends differ
              simp [told]
  · simp [made, made', silent, silent']

theorem Like.observe {a a' : Act} (after : (s.act a).Like id (s'.act a'))
    (offers : strangers id (s'.offers a') = strangers id (s.offers a))
    (told : s'.told id a' = s.told id a) : s'.observe id a' = s.observe id a := by
  simp only [Routing.observe, after.router.entries, after.router.roster.registered, after.link,
    after.router.nextId, offers, told]

structure Indistinct (id : SessionId) (s s' : Routing) (list list' : List Act) : Prop where
  after : (s.acts list).Like id (s'.acts list')
  observed : s'.observed id list' = s.observed id list
  offers : strangers id (s'.history list') = strangers id (s.history list)

theorem Indistinct.cons {a a' : Act} {rest rest' : List Act} (like : s.Like id s')
    (alike : a'.onRoster?.map (·.blind id) = a.onRoster?.map (·.blind id))
    (after : (s.act a).Like id (s'.act a'))
    (offers : strangers id (s'.offers a') = strangers id (s.offers a))
    (later : Indistinct id (s.act a) (s'.act a') rest rest') :
    Indistinct id s s' (a :: rest) (a' :: rest') := by
  refine ⟨later.after, ?_, ?_⟩
  · rw [Routing.observed, Routing.observed, Act.receives_congr alike, later.observed,
      after.observe offers (like.told alike)]
  · rw [history, history, strangers_append, strangers_append, offers, later.offers]

theorem Alike.indistinct {list list' : List Act} (alike : Alike id list list')
    (like : s.Like id s') : Indistinct id s s' list list' := by
  -- the pairing tells which steps the runs share; a step of one run alone is like no step
  induction alike generalizing s s' with
  | nil => exact ⟨like, rfl, rfl⟩
  | same act later ih =>
      obtain ⟨after, offers⟩ := like.same act
      exact .cons like rfl after offers (ih after)
  | queue made made' alike later ih =>
      obtain ⟨after, offers⟩ := like.act made made' alike
      exact .cons like (by rw [made, made', Option.map_some, Option.map_some, alike]) after offers
        (ih after)
  | first receives later ih =>
      obtain ⟨still, silent⟩ := like_of_receives receives s
      obtain ⟨after, observed, offers⟩ := ih (still.symm.trans like)
      refine ⟨after, ?_, ?_⟩
      · rw [Routing.observed, if_pos receives, observed]
      · rw [history, silent, List.nil_append, offers]
  | second receives later ih =>
      obtain ⟨still, silent⟩ := like_of_receives receives s'
      obtain ⟨after, observed, offers⟩ := ih (like.trans still)
      refine ⟨after, ?_, ?_⟩
      · rw [Routing.observed, if_pos receives, observed]
      · rw [history, silent, List.nil_append, offers]

theorem filter_strangers {other : SessionId} (differ : other ≠ id) (log : List Offered) :
    (strangers id log).filter (·.session = other) = log.filter (·.session = other) := by
  unfold strangers
  rw [List.filter_filter]
  congr 1
  funext offered
  by_cases own : offered.session = other <;> simp [own, differ]

/-- Runs that differ only in the queue of a session and in what its writer does are the same to all
others: so are the subscriptions, the registered numbers, the requests and their numbers after
every step, and whatever is offered to the queue of another session, with every answer. -/
theorem bystanders_undisturbed {list list' : List Act} (alike : Alike id list list')
    (s : Routing) :
    s.observed id list' = s.observed id list ∧ (s.acts list).Like id (s.acts list') ∧
      (∀ other ≠ id, (s.history list').filter (·.session = other) =
        (s.history list).filter (·.session = other)) ∧
      (∀ (t : Routing) (a : Act), a.receives id = true → t.Like id (t.act a) ∧ t.offers a = []) ∧
      (∀ place session, s.router.roster.sessions[place]? = some session →
        ∃ outbox, (s.acts list).router.roster.sessions[place]? = some { session with outbox } ∧
          session.outbox.waiting ++ Offered.acceptedAt place (s.history list) =
            s.takenIn place list ++ outbox.waiting) := by
  have same := alike.indistinct (s := s) ⟨rfl, rfl, rfl, rfl, rfl, .refl _ _⟩
  refine ⟨same.observed, same.after, ?_, ?_, ?_⟩
  · intro other differ
    rw [← filter_strangers differ, same.offers, filter_strangers differ]
  · intro t a receives
    exact like_of_receives receives t
  · intro place session located
    exact s.acts_accounts list located

theorem undisturbed_by_dead_client :
    let event (n : Nat) : Act := .router (.route "book.A.100ms" (.nat n))
    let arrive (capacity : Nat) : List Act :=
      [.router (.connect (.fresh ⟨1⟩ .text capacity)), .router (.connect (.fresh ⟨2⟩ .text 3)),
        .router (.clientText ⟨1⟩ "[\"subscribe_orderbook\",\"A\"]"),
        .router (.clientText ⟨2⟩ "[\"subscribe_orderbook\",\"A\"]")]
    let dead := arrive 1 ++
      [event 1, event 2, .router (.dropWriter ⟨1⟩), event 3, .roster (.send ⟨2⟩ "4")]
    let brisk := arrive 2 ++
      [event 1, event 2, .router (.take ⟨1⟩ none), event 3, .roster (.send ⟨2⟩ "4")]
    let s : Routing := {}
    Alike ⟨1⟩ dead brisk ∧ s.observed ⟨1⟩ brisk = s.observed ⟨1⟩ dead ∧
      (s.history brisk).filter (·.session = ⟨2⟩) = (s.history dead).filter (·.session = ⟨2⟩) ∧
      ((s.history dead).filter (·.session = ⟨2⟩)).map (·.answer) =
        [.accepted, .accepted, .accepted, .full] ∧
      Offered.acceptedAt 0 (s.history dead) = [.text "1"] ∧
      Offered.acceptedAt 0 (s.history brisk) = [.text "1", .text "2", .text "3"] := by
  intro event arrive dead brisk s
  have alike : Alike ⟨1⟩ dead brisk := by
    refine .queue rfl rfl rfl (.same _ (.same _ (.same _ (.same _ (.same _ ?_)))))
    exact .first (by decide) (.second (by decide) (.same _ (.same _ .nil)))
  obtain ⟨observed, -, others, -⟩ := bystanders_undisturbed alike s
  exact ⟨alike, observed, others ⟨2⟩ (by decide), by decide +kernel, by decide +kernel,
    by decide +kernel⟩

end Routing

end FeedBridge
