import FeedBridge.Proofs.Basic
import FeedBridge.Proofs.Feed.Counts

namespace FeedBridge

namespace Routing

variable {s : Routing}

theorem subscribe_of_shut (shut : s.link.isOpen = false) (session : SessionId) (topic : Topic) :
    s.subscribe session topic = (s, .error .notConnected) := by
  simp [subscribe, Router.beginSubscribe, shut]

theorem subscribe_of_failure (isOpen : s.link.isOpen = true) {cause : UplinkError}
    (fails : s.link.nextFailure = some cause) (session : SessionId) (topic : Topic) :
    s.subscribe session topic =
      ({ router := { s.router with nextId := s.router.nextId + 1 }
         link := { s.link with nextFailure := none } }, .error (.uplink cause)) := by
  simp [subscribe, Router.beginSubscribe, isOpen, Router.reserve, Link.send, fails,
    Router.finishSubscribe]

theorem subscribe_of_room (isOpen : s.link.isOpen = true) (takes : s.link.nextFailure = none)
    (session : SessionId) (topic : Topic) :
    s.subscribe session topic =
      ({ router := { s.router with nextId := s.router.nextId + 1 }.setEntries
           (s.router.entries ++ [(⟨topic, session⟩ : Subscription)])
         link := { s.link with sent := s.link.sent ++
           [Router.subscribeText s.router.interval topic s.router.nextId] } }, .ok ()) := by
  simp [subscribe, Router.beginSubscribe, isOpen, Router.reserve, Link.send, takes,
    Router.finishSubscribe, Router.record, Subscriptions.add]

end Routing

structure Router.Forgets (before after : Router) : Prop where
  nextId : after.nextId = before.nextId
  interval : after.interval = before.interval
  entries : after.entries.Sublist before.entries

namespace Router.Forgets

theorem refl (r : Router) : r.Forgets r := ⟨rfl, rfl, List.Sublist.refl _⟩

theorem onRoster (r : Router) (change : Roster → Roster) : r.Forgets (r.onRoster change) :=
  ⟨rfl, rfl, List.Sublist.refl _⟩

theorem leave (r : Router) (session : SessionId) : r.Forgets (r.leave session) :=
  ⟨rfl, rfl, List.filter_sublist⟩

theorem halt (r : Router) : r.Forgets r.halt := ⟨rfl, rfl, List.Sublist.refl _⟩

theorem route (r : Router) (channel : String) (data : Json) :
    r.Forgets (r.route channel data).1 := by
  have purged : r.Forgets r.purge := by
    dsimp only [Router.purge]
    split_ifs
    · exact ⟨rfl, rfl, List.filter_sublist⟩
    · exact refl r
  unfold Router.route Router.fanOut
  split
  · exact refl r
  · split
    · exact purged
    · exact ⟨purged.nextId, purged.interval, purged.entries⟩

theorem exchangeText (r : Router) (text : String) : r.Forgets (r.exchangeText text) := by
  unfold Router.exchangeText
  split
  · exact route r _ _
  · exact refl r

end Router.Forgets

/-! ## Calls in any order -/

structure NumberedRequest where
  number : UInt64
  text : String
deriving DecidableEq

inductive AskingPoint
  | ready (request : NumberedRequest)
  | heard (request : NumberedRequest) (written : Except UplinkError Unit)
  | done (request : NumberedRequest) (result : Except RouteError Unit)
  | refused (cause : RouteError)

structure Asking where
  session : SessionId
  topic : Topic
  point : AskingPoint

namespace Asking

def request? (call : Asking) : Option NumberedRequest :=
  match call.point with
  | .ready request | .heard request _ | .done request _ => some request
  | .refused _ => none

def kept? (call : Asking) : Option NumberedRequest :=
  match call.point with
  | .ready request => some request
  | _ => none

def written? (call : Asking) : Option NumberedRequest :=
  match call.point with
  | .heard request (.ok ()) | .done request (.ok ()) => some request
  | _ => none

def success? (call : Asking) : Option (Subscription × NumberedRequest) :=
  match call.point with
  | .done request (.ok ()) => some (⟨call.topic, call.session⟩, request)
  | _ => none

def isOver (call : Asking) : Bool :=
  match call.point with
  | .done _ _ | .refused _ => true
  | _ => false

end Asking

structure Askings where
  router : Router
  calls : List Asking := []
  handed : List NumberedRequest := []
  written : List NumberedRequest := []
  recorded : Subscriptions := []

namespace Askings

def start (interval : String) : Askings := { router := { interval } }

def note (s : Askings) (router : Router) : Askings :=
  { s with router, recorded := s.recorded ++ router.entries.drop s.router.entries.length }

def ask (s : Askings) (session : SessionId) (topic : Topic) (isOpen : Bool) : Askings :=
  match s.router.beginSubscribe isOpen topic with
  | .ok (text, router) =>
    let request : NumberedRequest := ⟨s.router.nextId, text⟩
    { s.note router with calls := s.calls ++ [⟨session, topic, .ready request⟩] }
  | .error cause => { s with calls := s.calls ++ [⟨session, topic, .refused cause⟩] }

def write (s : Askings) (call : Nat) (written : Except UplinkError Unit) : Askings :=
  match s.calls[call]? with
  | some ⟨session, topic, .ready request⟩ =>
    { s with
      calls := s.calls.set call ⟨session, topic, .heard request written⟩
      handed := s.handed ++ [request]
      written := s.written ++ if written.isOk then [request] else [] }
  | _ => s

def finish (s : Askings) (call : Nat) : Askings :=
  match s.calls[call]? with
  | some ⟨session, topic, .heard request written⟩ =>
    let (router, result) := s.router.finishSubscribe topic session written
    { s.note router with calls := s.calls.set call ⟨session, topic, .done request result⟩ }
  | _ => s

inductive Step
  | ask (session : SessionId) (topic : Topic) (isOpen : Bool)
  | write (call : Nat) (written : Except UplinkError Unit)
  | finish (call : Nat)
  | exchangeText (text : String)
  | route (channel : String) (data : Json)
  | leave (session : SessionId)
  | roster (step : Roster.Step)
  | halt

def step (s : Askings) : Step → Askings
  | .ask session topic isOpen => s.ask session topic isOpen
  | .write call written => s.write call written
  | .finish call => s.finish call
  | .exchangeText text => s.note (s.router.exchangeText text)
  | .route channel data => s.note (s.router.route channel data).1
  | .leave session => s.note (s.router.leave session)
  | .roster step => s.note (s.router.onRoster fun r => (r.step step).1)
  | .halt => s.note s.router.halt

def run (s : Askings) (steps : List Step) : Askings := steps.foldl step s

def Idle (s : Askings) : Prop := ∀ call ∈ s.calls, call.isOver = true

def OneByOne : Askings → List Step → Prop
  | _, [] => True
  | s, step :: rest =>
    ((∃ session topic isOpen, step = .ask session topic isOpen) → s.Idle) ∧
      OneByOne (s.step step) rest

/-- Numbers one after another from one on. -/
def firstNumbers (count : Nat) : List UInt64 :=
  (List.range count).map fun k => 1 + UInt64.ofNat k

def requests (s : Askings) : List NumberedRequest := s.calls.filterMap Asking.request?

def successes (s : Askings) : List (Subscription × NumberedRequest) :=
  s.calls.filterMap Asking.success?

structure Sound (interval : String) (s : Askings) : Prop where
  sameInterval : s.router.interval = interval
  numbers : s.requests.map (·.number) = firstNumbers s.requests.length
  nextId : s.router.nextId = 1 + UInt64.ofNat s.requests.length
  texts : ∀ call ∈ s.calls, ∀ request, call.request? = some request →
    request.text = Router.subscribeText interval call.topic request.number
  recorded : s.recorded.Perm (s.successes.map (·.1))
  written : s.written.Perm (s.calls.filterMap Asking.written?)
  handed : (s.handed ++ s.calls.filterMap Asking.kept?).Perm s.requests

variable {interval : String} {s : Askings}

theorem sound_start (interval : String) : (start interval).Sound interval :=
  ⟨rfl, rfl, rfl, nofun, .refl _, .refl _, .refl _⟩

theorem recorded_note {router : Router} (fewer : router.entries.Sublist s.router.entries) :
    (s.note router).recorded = s.recorded := by
  simp [note, List.drop_eq_nil_of_le fewer.length_le]

theorem Sound.note (sound : s.Sound interval) {router : Router}
    (forgets : s.router.Forgets router) : (s.note router).Sound interval :=
  ⟨forgets.interval.trans sound.sameInterval, sound.numbers, forgets.nextId.trans sound.nextId,
    sound.texts, (recorded_note forgets.entries).symm ▸ sound.recorded, sound.written, sound.handed⟩

theorem Sound.ask (sound : s.Sound interval) (session : SessionId) (topic : Topic)
    (isOpen : Bool) : (s.ask session topic isOpen).Sound interval := by
  obtain ⟨same, numbers, nextId, texts, recorded, written, handed⟩ := sound
  unfold Askings.ask Router.beginSubscribe
  cases isOpen with
  | false =>
      refine ⟨same, ?_, ?_, ?_, ?_, ?_, ?_⟩
      · simpa [requests, Asking.request?, List.filterMap_cons] using numbers
      · simpa [requests, Asking.request?, List.filterMap_cons] using nextId
      · intro call member request reserved
        rcases List.mem_append.mp member with old | new
        · exact texts call old request reserved
        · rw [List.mem_singleton.mp new] at reserved
          cases reserved
      · simpa [successes, Asking.success?, List.filterMap_cons] using recorded
      · simpa [Asking.written?, List.filterMap_cons] using written
      · simpa [requests, Asking.request?, Asking.kept?, List.filterMap_cons] using handed
  | true =>
      refine ⟨same, ?_, ?_, ?_, ?_, ?_, ?_⟩
      · simp only [requests, firstNumbers] at numbers nextId
        simp [requests, Router.reserve, Askings.note, Asking.request?, firstNumbers,
          List.range_succ, numbers, nextId]
      · simp [requests, Router.reserve, Askings.note, Asking.request?, nextId, UInt64.ofNat_add,
          UInt64.add_assoc]
      · intro call member request reserved
        rcases List.mem_append.mp member with old | new
        · exact texts call old request reserved
        · rw [List.mem_singleton.mp new] at reserved ⊢
          cases reserved
          rw [← same]
      · simpa [successes, Router.reserve, Askings.note, Asking.success?, List.filterMap_cons]
          using recorded
      · simpa [Router.reserve, Askings.note, Asking.written?, List.filterMap_cons] using written
      · have more := handed.append_right [(⟨s.router.nextId,
          Router.subscribeText s.router.interval topic s.router.nextId⟩ : NumberedRequest)]
        simpa [requests, Router.reserve, Askings.note, Asking.request?, Asking.kept?,
          List.filterMap_cons] using more

theorem Sound.moves (sound : s.Sound interval) {call : Nat} {old : Asking}
    (located : s.calls[call]? = some old) (next : Asking) (topic : next.topic = old.topic)
    (request : next.request? = old.request?) :
    (s.calls.set call next).filterMap Asking.request? = s.requests ∧
      ∀ other ∈ s.calls.set call next, ∀ reserved, other.request? = some reserved →
        reserved.text = Router.subscribeText interval other.topic reserved.number := by
  refine ⟨filterMap_set_same located next request, fun other member reserved found => ?_⟩
  rcases List.mem_or_eq_of_mem_set member with before | rfl
  · exact sound.texts other before reserved found
  · rw [topic]
    exact sound.texts old (List.mem_of_getElem? located) reserved (request ▸ found)

theorem Sound.write (sound : s.Sound interval) (call : Nat) (written : Except UplinkError Unit) :
    (s.write call written).Sound interval := by
  unfold Askings.write
  split
  · rename_i session topic request located
    have next := sound.moves located ⟨session, topic, .heard request written⟩ rfl rfl
    have successes : (s.calls.set call ⟨session, topic, .heard request written⟩).filterMap
        Asking.success? = s.successes := filterMap_set_same located _ rfl
    refine ⟨sound.sameInterval, ?_, ?_, next.2, ?_, ?_, ?_⟩
    · simpa only [requests, next.1] using sound.numbers
    · simpa only [requests, next.1] using sound.nextId
    · simpa only [Askings.successes, successes] using sound.recorded
    -- The request goes from those that calls keep to those that were handed over, and if it was
    -- written its call is one of those that tell so from now on.
    · obtain ⟨others, before, after⟩ := filterMap_set_perm Asking.written? located
        ⟨session, topic, .heard request written⟩
      have more : s.written.Perm others := sound.written.trans before
      rcases written with cause | ⟨⟩
      · simpa [Except.isOk, Except.toBool] using more.trans after.symm
      · have last : (s.written ++ [request]).Perm (request :: s.written) := List.perm_append_comm
        exact last.trans ((more.cons request).trans after.symm)
    · obtain ⟨others, before, after⟩ := filterMap_set_perm Asking.kept? located
        ⟨session, topic, .heard request written⟩
      have same := (before.symm.append_left s.handed).trans sound.handed
      have moved : (s.handed ++ [request] ++ others).Perm s.requests := by
        rw [List.append_assoc]
        exact same
      simp only [requests, next.1]
      exact (after.append_left _).trans moved
  · exact sound

theorem recorded_record (s : Askings) (topic : Topic) (session : SessionId) :
    (s.note (s.router.record topic session)).recorded = s.recorded ++ [⟨topic, session⟩] := by
  simp [Askings.note, Router.record, Router.setEntries, Subscriptions.add]

theorem Sound.finish (sound : s.Sound interval) (call : Nat) : (s.finish call).Sound interval := by
  unfold Askings.finish
  split
  · rename_i session topic request written located
    rcases written with cause | ⟨⟩
    · have next := sound.moves located
        ⟨session, topic, .done request (.error (.uplink cause))⟩ rfl rfl
      have noted : (s.note s.router).recorded = s.recorded := recorded_note (List.Sublist.refl _)
      have same {α : Type} {f : Asking → Option α}
          (found : f ⟨session, topic, .done request (.error (.uplink cause))⟩ =
            f ⟨session, topic, .heard request (.error cause)⟩) :
          (s.calls.set call ⟨session, topic, .done request (.error (.uplink cause))⟩).filterMap f =
            s.calls.filterMap f := filterMap_set_same located _ found
      dsimp only [Router.finishSubscribe]
      refine ⟨sound.sameInterval, ?_, ?_, next.2, ?_, ?_, ?_⟩
      · simpa only [requests, next.1] using sound.numbers
      · simp only [requests, next.1]
        exact sound.nextId
      · simpa only [successes, noted, same (f := Asking.success?) rfl] using sound.recorded
      · simp only [same (f := Asking.written?) rfl]
        exact sound.written
      · simp only [requests, next.1, same (f := Asking.kept?) rfl]
        exact sound.handed
    · have next := sound.moves located ⟨session, topic, .done request (.ok ())⟩ rfl rfl
      have same {α : Type} {f : Asking → Option α}
          (found : f ⟨session, topic, .done request (.ok ())⟩ =
            f ⟨session, topic, .heard request (.ok ())⟩) :
          (s.calls.set call ⟨session, topic, .done request (.ok ())⟩).filterMap f =
            s.calls.filterMap f := filterMap_set_same located _ found
      obtain ⟨others, before, after⟩ := filterMap_set_perm Asking.success? located
        ⟨session, topic, .done request (.ok ())⟩
      dsimp only [Router.finishSubscribe]
      refine ⟨sound.sameInterval, ?_, ?_, next.2, ?_, ?_, ?_⟩
      · simpa only [requests, next.1] using sound.numbers
      · simp only [requests, next.1]
        exact sound.nextId
      · let entry : Subscription := ⟨topic, session⟩
        have last : (s.recorded ++ [entry]).Perm (entry :: s.recorded) := List.perm_append_comm
        have more := sound.recorded.trans (before.map Prod.fst)
        rw [recorded_record]
        exact last.trans ((more.cons _).trans (after.map Prod.fst).symm)
      · simp only [same (f := Asking.written?) rfl]
        exact sound.written
      · simp only [requests, next.1, same (f := Asking.kept?) rfl]
        exact sound.handed
  · exact sound

theorem Sound.step (sound : s.Sound interval) (step : Step) : (s.step step).Sound interval := by
  cases step with
  | ask session topic isOpen => exact sound.ask session topic isOpen
  | write call written => exact sound.write call written
  | finish call => exact sound.finish call
  | exchangeText text => exact sound.note (.exchangeText _ _)
  | route channel data => exact sound.note (.route _ _ _)
  | leave session => exact sound.note (.leave _ _)
  | roster step => exact sound.note (.onRoster _ _)
  | halt => exact sound.note (.halt _)

theorem Sound.run (sound : s.Sound interval) (steps : List Step) :
    (s.run steps).Sound interval := by
  induction steps generalizing s with
  | nil => exact sound
  | cons step rest ih => exact ih (sound.step step)

theorem Sound.distinct (sound : s.Sound interval) (few : s.calls.length ≤ UInt64.size) :
    (s.handed.map (·.number)).Nodup := by
  have reserved : (s.requests.map (·.number)).Nodup := by
    rw [sound.numbers]
    exact nodup_numbers (Nat.le_trans (List.length_filterMap_le _ _) few)
  have all := (sound.handed.map NumberedRequest.number).nodup_iff.mpr reserved
  rw [List.map_append] at all
  exact all.of_append_left

def Aligned (s : Askings) : Prop :=
  ∃ (ended : List Asking) (current : Option Asking), s.calls = ended ++ current.toList ∧
    (∀ call ∈ ended, call.isOver = true) ∧
    s.handed ++ (current.bind Asking.kept?).toList = s.requests

theorem kept?_of_isOver {call : Asking} (ended : call.isOver = true) : call.kept? = none := by
  obtain ⟨session, topic, point⟩ := call
  cases point <;> first | rfl | cases ended

theorem last_of_not_over {ended : List Asking} {current : Option Asking}
    (all : ∀ call ∈ ended, call.isOver = true) {place : Nat} {call : Asking}
    (located : (ended ++ current.toList)[place]? = some call) (under : call.isOver = false) :
    current = some call ∧ place = ended.length := by
  rcases Nat.lt_or_ge place ended.length with inside | beyond
  · rw [List.getElem?_append_left inside] at located
    exact absurd (all call (List.mem_of_getElem? located)) (by simp [under])
  · rw [List.getElem?_append_right beyond] at located
    cases current with
    | none => cases located
    | some last =>
        obtain ⟨first, same⟩ := List.getElem?_eq_some_iff.mp located
        have : place - ended.length = 0 := Nat.lt_one_iff.mp first
        refine ⟨by simpa [this] using same, by omega⟩

theorem Aligned.step (aligned : s.Aligned) (step : Step)
    (alone : (∃ session topic isOpen, step = .ask session topic isOpen) → s.Idle) :
    (s.step step).Aligned := by
  obtain ⟨ended, current, calls, all, handed⟩ := aligned
  cases step with
  | ask session topic isOpen =>
      have idle := alone ⟨session, topic, isOpen, rfl⟩
      have none : current.bind Asking.kept? = none := by
        cases current with
        | none => rfl
        | some call => exact kept?_of_isOver (idle call (by simp [calls]))
      rw [none, Option.toList_none, List.append_nil] at handed
      dsimp only [Askings.step]
      unfold Askings.ask Router.beginSubscribe
      cases isOpen with
      | false =>
          refine ⟨s.calls, some ⟨session, topic, .refused .notConnected⟩, rfl, idle, ?_⟩
          simp [requests, Asking.kept?, Asking.request?, handed, List.filterMap_cons]
      | true =>
          refine ⟨s.calls, some ⟨session, topic, .ready ⟨s.router.nextId,
            Router.subscribeText s.router.interval topic s.router.nextId⟩⟩, rfl, idle, ?_⟩
          simp [requests, Asking.kept?, Asking.request?, note, Router.reserve, handed]
  | write call written =>
      dsimp only [Askings.step]
      unfold Askings.write
      split
      · rename_i session topic request located
        have reserved := filterMap_set_same (f := Asking.request?) located
          ⟨session, topic, .heard request written⟩ rfl
        rw [calls] at located
        obtain ⟨rfl, rfl⟩ := last_of_not_over all located rfl
        refine ⟨ended, some ⟨session, topic, .heard request written⟩, ?_, all, ?_⟩
        · simp [calls]
        · simp only [requests, reserved]
          simpa [Asking.kept?, requests] using handed
      · exact ⟨ended, current, calls, all, handed⟩
  | finish call =>
      dsimp only [Askings.step]
      unfold Askings.finish
      split
      · rename_i session topic request written located
        have reserved (result : Except RouteError Unit) :=
          filterMap_set_same (f := Asking.request?) located
            ⟨session, topic, .done request result⟩ rfl
        rw [calls] at located
        obtain ⟨rfl, rfl⟩ := last_of_not_over all located rfl
        refine ⟨ended, some ⟨session, topic, .done request
          (s.router.finishSubscribe topic session written).2⟩, ?_, all, ?_⟩
        · simp [calls]
        · simp only [requests, reserved]
          simpa [Asking.kept?, note, requests] using handed
      · exact ⟨ended, current, calls, all, handed⟩
  | exchangeText | route | leave | roster | halt => exact ⟨ended, current, calls, all, handed⟩

theorem Aligned.run (aligned : s.Aligned) {steps : List Step} (alone : s.OneByOne steps) :
    (s.run steps).Aligned := by
  induction steps generalizing s with
  | nil => exact aligned
  | cons step rest ih => exact ih (aligned.step step alone.1) alone.2

theorem take_firstNumbers {count fewer : Nat} (less : fewer ≤ count) :
    (firstNumbers count).take fewer = firstNumbers fewer := by
  rw [firstNumbers, ← List.map_take, List.take_range, Nat.min_eq_left less, firstNumbers]

theorem Sound.consecutive (sound : s.Sound interval) (aligned : s.Aligned) :
    s.handed.map (·.number) = firstNumbers s.handed.length := by
  obtain ⟨-, current, -, -, handed⟩ := aligned
  have numbers := sound.numbers
  have less : s.handed.length ≤ s.requests.length := by simp [← handed]
  rw [← take_firstNumbers less, ← numbers, ← handed]
  simp

/-! ## All or nothing -/

theorem Idle.kept (idle : s.Idle) : s.calls.filterMap Asking.kept? = [] :=
  List.filterMap_eq_nil_iff.mpr fun call member => kept?_of_isOver (idle call member)

theorem Idle.written (idle : s.Idle) :
    s.calls.filterMap Asking.written? = s.successes.map (·.2) := by
  rw [successes, List.map_filterMap]
  refine List.filterMap_congr fun call member => ?_
  have ended := idle call member
  obtain ⟨session, topic, point⟩ := call
  rcases point with request | ⟨request, written⟩ | ⟨request, cause | ⟨⟩⟩ | cause <;>
    first | rfl | cases ended

theorem Sound.text_of_success (sound : s.Sound interval) {call : Asking} (made : call ∈ s.calls)
    {success : Subscription × NumberedRequest} (found : call.success? = some success) :
    success.2.text = Router.subscribeText interval success.1.topic success.2.number := by
  have texts := sound.texts call made
  obtain ⟨session, topic, point⟩ := call
  rcases point with request | ⟨request, written⟩ | ⟨request, cause | ⟨⟩⟩ | cause <;> cases found
  exact texts request rfl

theorem appends (s : Askings) (step : Step) :
    ∃ new, (s.step step).recorded = s.recorded ++ new ∧
      (s.step step).router.entries.Sublist (s.router.entries ++ new) := by
  have noted {router : Router} (fewer : router.entries.Sublist s.router.entries) :
      ∃ new, (s.note router).recorded = s.recorded ++ new ∧
        (s.note router).router.entries.Sublist (s.router.entries ++ new) :=
    ⟨[], by rw [recorded_note fewer, List.append_nil],
      fewer.trans (List.sublist_append_left _ _)⟩
  have same : ∃ new, s.recorded = s.recorded ++ new ∧
      s.router.entries.Sublist (s.router.entries ++ new) := ⟨[], by simp⟩
  cases step with
  | ask session topic isOpen =>
      dsimp only [Askings.step]
      unfold Askings.ask Router.beginSubscribe
      cases isOpen with
      | false => exact same
      | true => exact noted (.refl _)
  | write call written =>
      dsimp only [Askings.step]
      unfold Askings.write
      split <;> exact same
  | finish call =>
      dsimp only [Askings.step]
      unfold Askings.finish
      split
      · rename_i session topic request written located
        rcases written with cause | ⟨⟩
        · exact noted (.refl _)
        · exact ⟨[⟨topic, session⟩], s.recorded_record topic session, .refl _⟩
      · exact same
  | exchangeText text => exact noted (Router.Forgets.exchangeText _ _).entries
  | route channel data => exact noted (Router.Forgets.route _ _ _).entries
  | leave session => exact noted (Router.Forgets.leave _ _).entries
  | roster step => exact noted (.refl _)
  | halt => exact noted (.refl _)

/-- A call for a topic without interruption has three ways to end: there is no connection and
nothing happens; the exchange does not take the request, and all that happened is that a number was
used; or one request is written and one subscription appears, the last.

In a run where the calls take turns, while none is under way: the calls that succeeded are the
subscriptions that were recorded, and the requests that were written. No number is handed over
twice, and calls that are made one after another hand over the numbers from one on. -/
theorem all_or_nothing :
    (∀ (s : Routing) (session : SessionId) (topic : Topic),
      let request := Router.subscribeText s.router.interval topic s.router.nextId
      let numbered := { s.router with nextId := s.router.nextId + 1 }
      (s.link.isOpen = false → s.subscribe session topic = (s, .error .notConnected)) ∧
      (s.link.isOpen = true → ∀ cause, s.link.nextFailure = some cause →
        s.subscribe session topic =
          (⟨numbered, { s.link with nextFailure := none }⟩, .error (.uplink cause))) ∧
      (s.link.isOpen = true → s.link.nextFailure = none →
        s.subscribe session topic =
          (⟨numbered.setEntries (s.router.entries ++ [⟨topic, session⟩]),
            { s.link with sent := s.link.sent ++ [request] }⟩, .ok ()))) ∧
    (∀ (interval : String) (steps : List Step),
      let s := (start interval).run steps
      (s.Idle → s.recorded.Perm (s.successes.map (·.1)) ∧
        s.written.Perm (s.successes.map (·.2))) ∧
      (∀ success ∈ s.successes,
        success.2.text = Router.subscribeText interval success.1.topic success.2.number) ∧
      (∀ request ∈ s.handed, ∃ topic,
        request.text = Router.subscribeText interval topic request.number) ∧
      (s.calls.length ≤ UInt64.size → (s.handed.map (·.number)).Nodup) ∧
      ((start interval).OneByOne steps →
        s.handed.map (·.number) = firstNumbers s.handed.length) ∧
      ∀ step, ∃ new, (s.step step).recorded = s.recorded ++ new ∧
        (s.step step).router.entries.Sublist (s.router.entries ++ new)) := by
  refine ⟨fun s session topic => ⟨fun shut => ?_, fun isOpen cause fails => ?_,
    fun isOpen takes => ?_⟩, fun interval steps => ?_⟩
  · exact Routing.subscribe_of_shut shut session topic
  · exact Routing.subscribe_of_failure isOpen fails session topic
  · exact Routing.subscribe_of_room isOpen takes session topic
  · intro s
    have sound : s.Sound interval := (sound_start interval).run steps
    have aligned : (start interval).Aligned := ⟨[], none, rfl, nofun, rfl⟩
    refine ⟨fun idle => ⟨sound.recorded, idle.written ▸ sound.written⟩, ?_, ?_, sound.distinct,
      fun alone => sound.consecutive (aligned.run alone), s.appends⟩
    · intro success member
      obtain ⟨call, made, found⟩ := List.mem_filterMap.mp member
      exact sound.text_of_success made found
    · intro request member
      have reserved := (sound.handed.subset (List.mem_append_left _ member))
      obtain ⟨call, made, found⟩ := List.mem_filterMap.mp reserved
      exact ⟨call.topic, sound.texts call made request found⟩

theorem all_or_nothing_of_three_calls :
    let topic (symbol : String) : Topic := ⟨.orderbook, symbol⟩
    let mixed : List Step := [.ask ⟨1⟩ (topic "A") true, .ask ⟨2⟩ (topic "B") true,
      .write 1 (.ok ()), .ask ⟨3⟩ (topic "A") false, .write 0 (.error .notConnected), .finish 1,
      .finish 0]
    let ordered : List Step := [.ask ⟨1⟩ (topic "A") true, .write 0 (.ok ()), .finish 0,
      .ask ⟨1⟩ (topic "A") true, .write 1 (.ok ()), .finish 1]
    let s := (start "100ms").run mixed
    let t := (start "100ms").run ordered
    let refusing : Routing := { link := { nextFailure := some .notConnected } }
    (s.Idle ∧ s.recorded.Perm (s.successes.map (·.1)) ∧ s.recorded = [⟨topic "B", ⟨2⟩⟩] ∧
      (s.handed.map (·.number)).Nodup ∧ s.handed.map (·.number) = [2, 1]) ∧
    ((start "100ms").OneByOne ordered ∧ t.handed.map (·.number) = firstNumbers 2) ∧
    (refusing.subscribe ⟨1⟩ (topic "A")).2 = .error (.uplink .notConnected) := by
  intro topic mixed ordered s t refusing
  have idle : s.Idle := by
    unfold Idle
    decide +kernel
  have alone : (start "100ms").OneByOne ordered := by
    refine ⟨fun _ => ?_, nofun, nofun, fun _ => ?_, nofun, nofun, trivial⟩ <;>
    · unfold Idle
      decide +kernel
  obtain ⟨single, runs⟩ := all_or_nothing
  obtain ⟨mixedIdle, -, -, distinct, -⟩ := runs "100ms" mixed
  obtain ⟨-, -, -, -, consecutive, -⟩ := runs "100ms" ordered
  obtain ⟨-, failed, -⟩ := single refusing ⟨1⟩ (topic "A")
  exact ⟨⟨idle, (mixedIdle idle).1, by decide +kernel, distinct (by decide +kernel),
    by decide +kernel⟩, ⟨alone, consecutive alone⟩, congrArg (·.2) (failed rfl .notConnected rfl)⟩

end Askings

end FeedBridge
