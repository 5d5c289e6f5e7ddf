import FeedBridge.Proofs.Feed.Askings
import FeedBridge.Proofs.Feed.Separation
import FeedBridge.Proofs.Json.Values

namespace FeedBridge

theorem Json.Number.reread?_id (id : UInt64) :
    (Json.Number.int id.toNat).reread? = some (.int id.toNat) := by
  have small : id.toNat < twoTo 64 := id.toNat_lt
  exact reread?_int (by omega) (by omega)

namespace Rpc.Request

theorem fills_text (r : Request) :
    (Document.object (Document.ofMembers r.members)).Fills r.text :=
  Document.fills_text (.object r.members)

variable {r : Request}

theorem memberValues?_members (sorted : r.params.Sorted)
    (exact : ∀ n ∈ r.params.numbers, n.reread? = some n) :
    Document.memberValues? (Document.ofMembers r.members) = some r.members := by
  have inOrder : Json.MembersSorted r.members := ⟨trivial, trivial, trivial, sorted, trivial⟩
  rw [Document.memberValues?_eq_self_iff _ inOrder]
  simpa [members, Json.memberNumbers, Json.numbers, Json.nat, Json.int, or_imp, forall_and,
    Json.Number.reread?_id] using exact

theorem parse?_text (sorted : r.params.Sorted)
    (exact : ∀ n ∈ r.params.numbers, n.reread? = some n)
    (shallow : (Document.ofJson r.params).depth < Document.maxDepth) :
    Json.parse? r.text = some r.toJson := by
  refine Json.parse?_eq_some_iff.mpr ⟨_, r.fills_text, Document.toJson?_eq_some_iff.mpr ⟨?_, ?_⟩⟩
  · simpa [members, Document.ofMembers, Document.depth, Document.membersDepth, Document.ofJson,
      Json.nat, Json.int] using Nat.succ_le_of_lt shallow
  · rw [Document.value?, memberValues?_members sorted exact]
    rfl

end Rpc.Request

namespace Router

def methodOf : FeedKind → String
  | .orderbook => "public/subscribe"
  | .position => "private/subscribe"

def requestMembers (interval : String) (topic : Topic) (id : UInt64) : List (String × Json) :=
  [("jsonrpc", .string "2.0"), ("id", .nat id.toNat), ("method", .string (methodOf topic.kind)),
    ("params", .object [("channels", .array [.string (topic.channel interval)])])]

variable (interval : String) (topic : Topic) (id : UInt64)

theorem members_subscribe : (Rpc.subscribe (scope topic.kind) id [topic.channel interval]).members =
    requestMembers interval topic id := by
  obtain ⟨kind, symbol⟩ := topic
  cases kind <;> rfl

theorem subscribeText_document : ∃ members,
    (Document.object members).Fills (subscribeText interval topic id) ∧
      Document.memberValues? members = some (requestMembers interval topic id) := by
  refine ⟨_, Rpc.Request.fills_text _, ?_⟩
  rw [Rpc.Request.memberValues?_members, members_subscribe]
  · simp [Rpc.subscribe, Json.Sorted, Json.MembersSorted, Json.ItemsSorted]
  · simp [Rpc.subscribe, Json.numbers, Json.memberNumbers, Json.itemNumbers]

theorem parse?_subscribeText : Json.parse? (subscribeText interval topic id) =
    some (.ofMembers (requestMembers interval topic id)) := by
  rw [subscribeText, Rpc.Request.parse?_text, Rpc.Request.toJson, members_subscribe]
  · simp [Rpc.subscribe, Json.Sorted, Json.MembersSorted, Json.ItemsSorted]
  · simp [Rpc.subscribe, Json.numbers, Json.memberNumbers, Json.itemNumbers]
  · simp [Rpc.subscribe, Document.ofJson, Document.ofMembers, Document.ofItems, Document.depth,
      Document.membersDepth, Document.itemsDepth, Document.maxDepth]

variable {interval topic id}

theorem requestMembers_inj {topic' : Topic} {id' : UInt64}
    (same : requestMembers interval topic id = requestMembers interval topic' id') :
    topic = topic' ∧ id = id' := by
  simp only [requestMembers, List.cons.injEq, Prod.mk.injEq, Json.nat, Json.int, Json.number.injEq,
    Json.Number.int.injEq, Json.object.injEq, Json.array.injEq, Json.string.injEq, true_and,
    and_true] at same
  exact ⟨Topic.channel_injective interval same.2.2, UInt64.toNat_inj.mp (by exact_mod_cast same.1)⟩

theorem subscribeText_injective (interval : String) :
    Function.Injective fun asked : Topic × UInt64 => subscribeText interval asked.1 asked.2 := by
  rintro ⟨topic, id⟩ ⟨topic', id'⟩ (same : subscribeText _ _ _ = subscribeText _ _ _)
  obtain ⟨members, fills, values⟩ := subscribeText_document interval topic id
  obtain ⟨members', fills', values'⟩ := subscribeText_document interval topic' id'
  cases fills.unique (same ▸ fills')
  obtain ⟨rfl, rfl⟩ := requestMembers_inj (Option.some.inj (values.symm.trans values'))
  rfl

end Router

namespace Routing

variable (s : Routing)

theorem sent_subscribe (session : SessionId) (topic : Topic) :
    (s.subscribe session topic).1.link.sent = s.link.sent ++
      if s.link.isOpen ∧ s.link.nextFailure = none then
        [Router.subscribeText s.router.interval topic s.router.nextId] else [] := by
  cases isOpen : s.link.isOpen with
  | false => simp [subscribe_of_shut isOpen]
  | true =>
      cases failure : s.link.nextFailure with
      | none => simp [subscribe_of_room isOpen failure]
      | some cause => simp [subscribe_of_failure isOpen failure]

/-- Texts of requests and nothing else are sent, one after another. -/
def SendsRequests (before after : Routing) : Prop :=
  ∃ asked : List (Topic × UInt64), after.link.sent = before.link.sent ++
    asked.map fun request => Router.subscribeText before.router.interval request.1 request.2

variable {s}

theorem SendsRequests.of_same {after : Routing} (same : after.link.sent = s.link.sent) :
    s.SendsRequests after := ⟨[], by simp [same]⟩

theorem sendsRequests_subscribe (s : Routing) (session : SessionId) (topic : Topic) :
    s.SendsRequests (s.subscribe session topic).1 := by
  have sent := s.sent_subscribe session topic
  split_ifs at sent
  · exact ⟨[(topic, s.router.nextId)], by simpa using sent⟩
  · exact .of_same (by simpa using sent)

theorem sendsRequests_step (s : Routing) (step : Step) : s.SendsRequests (s.step step).1 := by
  cases step with
  | clientText session text =>
      dsimp only [Routing.step, clientText]
      split
      · exact s.sendsRequests_subscribe _ _
      · exact .of_same rfl
  | subscribe session topic =>
      have asked := s.sendsRequests_subscribe session topic
      dsimp only [Routing.step]
      split <;> simp_all
  | _ => exact .of_same rfl

theorem sendsRequests_run (s : Routing) (steps : List Step) : s.SendsRequests (s.run steps) := by
  induction steps generalizing s with
  | nil => exact .of_same rfl
  | cons step rest ih =>
      obtain ⟨first, sent⟩ := s.sendsRequests_step step
      obtain ⟨others, later⟩ := ih (s.step step).1
      -- No step changes the interval, so all requests are made at the one of the start.
      rw [(s.step_extends step).interval, sent, List.append_assoc, ← List.map_append] at later
      exact ⟨first ++ others, later⟩

theorem sentBetween_run (s : Routing) (steps : List Step) :
    s.link.sent ++ s.sentBetween (s.run steps) = (s.run steps).link.sent ∧
      ∀ text ∈ s.sentBetween (s.run steps), ∃ topic number,
        text = Router.subscribeText s.router.interval topic number := by
  obtain ⟨asked, sent⟩ := s.sendsRequests_run steps
  rw [sentBetween, sent, List.drop_left]
  refine ⟨rfl, fun text added => ?_⟩
  obtain ⟨⟨topic, number⟩, -, rfl⟩ := List.mem_map.mp added
  exact ⟨topic, number, rfl⟩

/-- Every text that a run sends is the text of a request for a topic under a number, and a client's
text adds the one for its topic, if it is understood and the link takes it. Such a text holds the
four members of the request and nothing besides, whatever stands in the symbol, and is read as their
object; and at one interval no other topic and number have the same text. -/
theorem requests_enclosed :
    (∀ (s : Routing) (steps : List Step), s.SendsRequests (s.run steps)) ∧
    (∀ (s : Routing) (session : SessionId) (text : String),
      (s.clientText session text).link.sent = s.link.sent ++
        match ClientRequest.parse text with
        | .ok topic =>
          if s.link.isOpen ∧ s.link.nextFailure = none then
            [Router.subscribeText s.router.interval topic s.router.nextId] else []
        | .error _ => []) ∧
    (∀ (interval : String) (topic : Topic) (id : UInt64),
      (∃ members, (Document.object members).Fills (Router.subscribeText interval topic id) ∧
        Document.memberValues? members = some (Router.requestMembers interval topic id)) ∧
      Json.parse? (Router.subscribeText interval topic id) =
        some (.ofMembers (Router.requestMembers interval topic id))) ∧
    ∀ interval, Function.Injective
      fun asked : Topic × UInt64 => Router.subscribeText interval asked.1 asked.2 := by
  refine ⟨sendsRequests_run, ?_, ?_, Router.subscribeText_injective⟩
  · intro s session text
    unfold clientText
    cases ClientRequest.parse text with
    | ok topic => exact s.sent_subscribe session topic
    | error cause => simp
  · exact fun interval topic id => ⟨Router.subscribeText_document interval topic id,
      Router.parse?_subscribeText interval topic id⟩

/-- A symbol that would close its string and the list around it. -/
example : Router.subscribeText "100ms" ⟨.position, "A\"]"⟩ 7 =
    "\x7b\"jsonrpc\":\"2.0\",\"id\":7,\"method\":\"private/subscribe\"," ++
      "\"params\":\x7b\"channels\":[\"user.position.A\\\"]\"]\x7d\x7d" := by
  decide +kernel

end Routing

end FeedBridge
