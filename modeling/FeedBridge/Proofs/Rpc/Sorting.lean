import FeedBridge.Feed.Routing
import FeedBridge.Proofs.Json.Values

/-!
# How messages are sorted

What a text of the exchange is sorted as can be told from the document in it, of equal members the
last one (`Rpc.Inbound.sorting_exact`). An event comes back as it was written only as far as its
text can be read: its data nest two deeper in the frame than on their own, and a double may be read
as a neighbour of the one that was written.
-/

namespace FeedBridge.Rpc.Inbound

/-- The document in a text, with its value. -/
def Reads (text : String) (document : Document) (value : Json) : Prop :=
  document.Fills text ∧ document.toJson? = some value

def IsEvent (document : Document) (channel : String) (data : Json) : Prop :=
  ∃ params units entry, document.last? "params" = some params ∧
    params.last? "channel" = some (.text units) ∧ Document.stringOf? units = some channel ∧
    params.last? "data" = some entry ∧ entry.value? = some data

def refusalOf (document : Document) : Option Refusal :=
  ((document.last? "error").bind Document.value?).map Refusal.ofJson

variable {text channel : String} {document : Document} {value data : Json}

theorem event?_eq_some_iff (found : document.value? = some value) :
    event? value = some (channel, data) ↔ IsEvent document channel data := by
  simp only [event?, bind, Option.bind_eq_some_iff, pure, Option.some.injEq, Prod.mk.injEq]
  constructor
  · rintro ⟨params, hasParams, _, named, _, isText, _, carried, rfl, rfl⟩
    obtain ⟨inner, lastParams, foundParams⟩ := (Document.get?_eq_some_iff found).mp hasParams
    obtain ⟨first, lastChannel, foundChannel⟩ := (Document.get?_eq_some_iff foundParams).mp named
    obtain ⟨entry, lastData, foundData⟩ := (Document.get?_eq_some_iff foundParams).mp carried
    obtain ⟨units, rfl, stands⟩ := (Document.string?_eq_some_iff foundChannel).mp isText
    exact ⟨inner, units, entry, lastParams, lastChannel, stands, lastData, foundData⟩
  · rintro ⟨inner, units, entry, lastParams, lastChannel, stands, lastData, foundData⟩
    obtain ⟨params, hasParams, foundParams⟩ := Document.exists_get? found lastParams
    have foundChannel : (Document.text units).value? = some (.string channel) := by
      simp [Document.value?, stands]
    have named := (Document.get?_eq_some_iff foundParams).mpr ⟨_, lastChannel, foundChannel⟩
    have carried := (Document.get?_eq_some_iff foundParams).mpr ⟨_, lastData, foundData⟩
    exact ⟨params, hasParams, _, named, _, rfl, _, carried, rfl, rfl⟩

theorem refusalOf_eq (found : document.value? = some value) :
    refusalOf document = (value.get? "error").map Refusal.ofJson := by
  rw [refusalOf, Document.get?_eq_bind found]

theorem Reads.value? (reads : Reads text document value) : document.value? = some value :=
  (Document.toJson?_eq_some_iff.mp reads.2).2

theorem Reads.parse? (reads : Reads text document value) : Json.parse? text = some value :=
  Json.parse?_eq_some_iff.mpr ⟨document, reads⟩

theorem decode_of_unread (nothing : ¬∃ document value, Reads text document value) :
    decode text = .error .syntaxError := by
  have unread : Json.parse? text = none := by
    rw [Option.eq_none_iff_forall_ne_some]
    intro value read
    obtain ⟨document, reads⟩ := Json.parse?_eq_some_iff.mp read
    exact nothing ⟨document, value, reads⟩
  rw [decode, unread]

theorem decode_of_object {members : List (List TextUnit × Document)}
    (reads : Reads text (.object members) value) : decode text = .ok (classify value) := by
  obtain ⟨found, rfl⟩ := (Document.exists_object_iff reads.value?).mpr ⟨members, rfl⟩
  rw [decode, reads.parse?]

theorem decode_of_not_object (reads : Reads text document value)
    (other : ∀ members, document ≠ .object members) :
    decode text = .error (.notObject value.kindName) := by
  have noObject : ∀ members, value ≠ .object members := fun members same =>
    (Document.exists_object_iff reads.value?).mp ⟨members, same⟩ |>.elim other
  rw [decode, reads.parse?]
  cases value with
  | object members => exact absurd rfl (noObject members)
  | _ => rfl

/-- What a document that has a value is sorted as, if it is an object. -/
inductive Sorts (document : Document) (value : Json) : Inbound → Prop
  | ack {entry : Document} {id : Json} (named : document.last? "id" = some entry)
      (read : entry.value? = some id) : Sorts document value (.ack id (refusalOf document))
  | event {channel : String} {data : Json} (noId : document.last? "id" = none)
      (event : IsEvent document channel data) : Sorts document value (.event channel data)
  | other (noId : document.last? "id" = none)
      (noEvent : ∀ channel data, ¬IsEvent document channel data) :
      Sorts document value (.other value)

theorem sorts_classify (found : document.value? = some value) :
    Sorts document value (classify value) := by
  unfold classify
  split
  · next id got =>
    obtain ⟨entry, named, read⟩ := (Document.get?_eq_some_iff found).mp got
    rw [← refusalOf_eq found]
    exact .ack named read
  · next noId =>
    have noId := (Document.get?_eq_none_iff found).mp noId
    split
    · next channel data event => exact .event noId ((event?_eq_some_iff found).mp event)
    · next noEvent =>
      refine .other noId fun channel data event => ?_
      rw [(event?_eq_some_iff found).mpr event] at noEvent
      cases noEvent

theorem Sorts.classify_eq (found : document.value? = some value) {message : Inbound}
    (sorts : Sorts document value message) : classify value = message := by
  unfold classify
  cases sorts with
  | ack named read =>
      rw [(Document.get?_eq_some_iff found).mpr ⟨_, named, read⟩, refusalOf_eq found]
  | event noId event =>
      rw [(Document.get?_eq_none_iff found).mpr noId]
      dsimp only
      rw [(event?_eq_some_iff found).mpr event]
  | other noId noEvent =>
      have none : event? value = none :=
        Option.eq_none_iff_forall_ne_some.mpr fun ⟨channel, data⟩ event =>
          noEvent channel data ((event?_eq_some_iff found).mp event)
      rw [(Document.get?_eq_none_iff found).mpr noId]
      dsimp only
      rw [none]

theorem decode_cases (text : String) :
    (decode text = .error .syntaxError ∧ ¬∃ document value, Reads text document value) ∨
    (∃ document value, Reads text document value ∧ (∀ members, document ≠ .object members) ∧
      decode text = .error (.notObject value.kindName)) ∨
    ∃ members value, Reads text (.object members) value ∧ decode text = .ok (classify value) := by
  by_cases read : ∃ document value, Reads text document value
  · obtain ⟨document, value, reads⟩ := read
    by_cases object : ∃ members, document = .object members
    · obtain ⟨members, rfl⟩ := object
      exact .inr (.inr ⟨members, value, reads, decode_of_object reads⟩)
    · have other := not_exists.mp object
      exact .inr (.inl ⟨document, value, reads, other, decode_of_not_object reads other⟩)
  · exact .inl ⟨decode_of_unread read, read⟩

theorem decode_eq_ok_iff {message : Inbound} : decode text = .ok message ↔ ∃ members value,
    Reads text (.object members) value ∧ Sorts (.object members) value message := by
  constructor
  · intro decoded
    obtain ⟨answer, -⟩ | ⟨_, _, -, -, answer⟩ | ⟨members, value, reads, answer⟩ := decode_cases text
    · cases answer.symm.trans decoded
    · cases answer.symm.trans decoded
    · cases answer.symm.trans decoded
      exact ⟨members, value, reads, sorts_classify reads.value?⟩
  · rintro ⟨members, value, reads, sorts⟩
    rw [decode_of_object reads, sorts.classify_eq reads.value?]

theorem decode_eq_notObject_iff {kind : String} : decode text = .error (.notObject kind) ↔
    ∃ document value, Reads text document value ∧ (∀ members, document ≠ .object members) ∧
      kind = value.kindName := by
  constructor
  · intro decoded
    obtain ⟨answer, -⟩ | ⟨document, value, reads, other, answer⟩ | ⟨_, _, -, answer⟩ :=
      decode_cases text
    · cases answer.symm.trans decoded
    · cases answer.symm.trans decoded
      exact ⟨document, value, reads, other, rfl⟩
    · cases answer.symm.trans decoded
  · rintro ⟨document, value, reads, other, rfl⟩
    exact decode_of_not_object reads other

theorem decode_eq_syntaxError_iff : decode text = .error .syntaxError ↔
    ¬∃ document value, Reads text document value := by
  constructor
  · intro decoded
    obtain ⟨-, nothing⟩ | ⟨_, _, -, -, answer⟩ | ⟨_, _, -, answer⟩ := decode_cases text
    · exact nothing
    · cases answer.symm.trans decoded
    · cases answer.symm.trans decoded
  · exact decode_of_unread

/-- Members that make an event of a channel and data, in any order and among any others but an
`id`. -/
def IsFrame (members : List (String × Json)) (channel : String) (data : Json) : Prop :=
  members.reverse.lookup "id" = none ∧ ∃ params,
    members.reverse.lookup "params" = some (.object params) ∧
      params.reverse.lookup "channel" = some (.string channel) ∧
        params.reverse.lookup "data" = some data

theorem IsFrame.isEvent_iff {members : List (String × Json)} {written : Json}
    (frame : IsFrame members channel written) {channel' : String} :
    IsEvent (Document.ofJson (.object members)) channel' data ↔
      channel' = channel ∧ (Document.ofJson written).value? = some data := by
  obtain ⟨-, params, hasParams, named, carried⟩ := frame
  have string : Document.ofJson (.string channel) = .text (TextUnit.ofString channel) := rfl
  simp [IsEvent, Document.last?_ofJson_object, hasParams, named, carried, string,
    Document.stringOf?_ofString, eq_comm]

theorem exists_reads_text_iff (value : Json) : (∃ document read, Reads value.text document read) ↔
    (Document.ofJson value).depth ≤ Document.maxDepth ∧ ∀ n ∈ value.numbers, n.reread?.isSome := by
  rw [← Document.isSome_value?_ofJson, Option.isSome_iff_exists]
  constructor
  · rintro ⟨document, read, fills, found⟩
    obtain rfl := fills.unique (Document.fills_text value)
    obtain ⟨shallow, found⟩ := Document.toJson?_eq_some_iff.mp found
    exact ⟨shallow, read, found⟩
  · rintro ⟨shallow, read, found⟩
    exact ⟨_, read, Document.fills_text value, Document.toJson?_eq_some_iff.mpr ⟨shallow, found⟩⟩

theorem IsFrame.decode_eq_iff {members : List (String × Json)} {written : Json}
    (frame : IsFrame members channel written) :
    decode (Json.object members).text = .ok (.event channel data) ↔
      (∃ document read, Reads (Json.object members).text document read) ∧
        (Document.ofJson written).value? = some data := by
  have fills := Document.fills_text (.object members)
  rw [decode_eq_ok_iff]
  constructor
  · rintro ⟨others, read, reads, sorts⟩
    refine ⟨⟨_, read, reads⟩, ?_⟩
    rw [reads.1.unique fills] at sorts
    cases sorts with
    | event _ event => exact (frame.isEvent_iff.mp event).2
  · rintro ⟨⟨document, read, reads⟩, found⟩
    obtain rfl := reads.1.unique fills
    have noId : (Document.ofJson (.object members)).last? "id" = none := by
      rw [Document.last?_ofJson_object, frame.1, Option.map_none]
    exact ⟨_, read, reads, .event noId (frame.isEvent_iff.mpr ⟨rfl, found⟩)⟩

def frameOf (channel : String) (data : Json) : List (String × Json) :=
  [("params", .object [("channel", .string channel), ("data", data)])]

theorem isFrame_frameOf (channel : String) (data : Json) :
    IsFrame (frameOf channel data) channel data :=
  ⟨rfl, _, rfl, rfl, rfl⟩

theorem numbers_frameOf (channel : String) (data : Json) :
    (Json.object (frameOf channel data)).numbers = data.numbers := by
  simp [frameOf, Json.numbers, Json.memberNumbers]

theorem depth_frameOf (channel : String) (data : Json) :
    (Document.ofJson (.object (frameOf channel data))).depth =
      (Document.ofJson data).depth + 2 := by
  simp [frameOf, Document.ofJson, Document.ofMembers, Document.depth, Document.membersDepth]

def nested : Nat → Json
  | 0 => .array []
  | around + 1 => .array [nested around]

theorem depth_nested (around : Nat) : (Document.ofJson (nested around)).depth = around + 1 := by
  induction around with
  | zero => rfl
  | succ around ih =>
      simp [nested, Document.ofJson, Document.ofItems, Document.depth, Document.itemsDepth, ih]

theorem value?_nested (around : Nat) :
    (Document.ofJson (nested around)).value? = some (nested around) := by
  induction around with
  | zero => rfl
  | succ around ih => simp [nested, Document.ofJson, Document.ofItems, Document.value?,
      Document.itemValues?, ih]

theorem decode_nested {around : Nat} (deep : 125 ≤ around) (channel : String) :
    decode (Json.object (frameOf channel (nested around))).text = .error .syntaxError := by
  rw [decode_eq_syntaxError_iff, exists_reads_text_iff, depth_frameOf, depth_nested]
  intro ⟨shallow, _⟩
  unfold Document.maxDepth at shallow
  omega

/-- Whatever a text is sorted as, it is by the document in it and the value of that. A frame that is
written comes back if its text can be read and the numbers in its data are the same when they are
read, as integers of 64 bits are. And only an event of a channel that carries a topic makes a router
do anything. -/
theorem sorting_exact :
    (∀ text, decode text = .error .syntaxError ↔ ¬∃ document value, Reads text document value) ∧
    (∀ text kind, decode text = .error (.notObject kind) ↔
      ∃ document value, Reads text document value ∧ (∀ members, document ≠ .object members) ∧
        kind = value.kindName) ∧
    (∀ text message, decode text = .ok message ↔ ∃ members value,
      Reads text (.object members) value ∧ Sorts (.object members) value message) ∧
    (∀ members channel data, IsFrame members channel data → data.Sorted →
      (decode (Json.object members).text = .ok (.event channel data) ↔
        (Document.ofJson (.object members)).depth ≤ Document.maxDepth ∧
        (∀ n ∈ (Json.object members).numbers, n.reread?.isSome) ∧
        ∀ n ∈ data.numbers, n.reread? = some n)) ∧
    (∀ n : Int, -(twoTo 63 : Int) ≤ n → n < twoTo 64 →
      (Json.Number.int n).reread? = some (.int n)) ∧
    ∀ (r : Router) (text : String), r.exchangeText text = r ∨
      ∃ channel data topic, decode text = .ok (.event channel data) ∧
        Topic.ofChannel? channel = some topic := by
  refine ⟨fun _ => decode_eq_syntaxError_iff, fun _ _ => decode_eq_notObject_iff,
    fun _ _ => decode_eq_ok_iff, ?_, fun _ => Json.Number.reread?_int, ?_⟩
  · intro members channel data frame sorted
    rw [frame.decode_eq_iff, exists_reads_text_iff, and_assoc,
      Document.value?_ofJson_eq_self_iff data sorted]
  · intro r text
    unfold Router.exchangeText
    rcases decoded : decode text with cause | ⟨id, refusal⟩ | ⟨channel, data⟩ | value
    · exact .inl rfl
    · exact .inl rfl
    · cases carries : Topic.ofChannel? channel with
      | none => exact .inl (by simp [Router.route, carries])
      | some topic => exact .inr ⟨channel, data, topic, rfl, carries⟩
    · exact .inl rfl

theorem sorting_exact_of_price :
    let data : Json := .object [("best", .array [.nat 3200, .string "USD"])]
    decode (Json.object (frameOf "book.A.100ms" data)).text = .ok (.event "book.A.100ms" data) := by
  intro data
  have numbers : data.numbers = [.int 3200] := rfl
  have price : (Json.Number.int 3200).reread? = some (.int 3200) :=
    Json.Number.reread?_int (by decide) (by decide)
  refine (sorting_exact.2.2.2.1 _ _ data (isFrame_frameOf _ data) ?_).mpr ⟨?_, ?_, ?_⟩
  · simp [data, Json.Sorted, Json.MembersSorted, Json.ItemsSorted, Json.nat, Json.int]
  · rw [depth_frameOf]
    simp [data, Document.ofJson, Document.ofMembers, Document.ofItems, Document.depth,
      Document.membersDepth, Document.itemsDepth, Json.nat, Json.int, Document.maxDepth]
  · simp [numbers_frameOf, numbers, price]
  · simp [numbers, price]

/-- Data that do not come back in a frame: 126 lists, which can be read on their own, and a double
that is read as its neighbour. -/
theorem lost_in_frame :
    (Json.parse? (nested 125).text = some (nested 125) ∧
      decode (Json.object (frameOf "book.A.100ms" (nested 125))).text = .error .syntaxError) ∧
    let written : Json := .number (.float ⟨false, 8794761699453570, -48⟩)
    let read : Json := .number (.float ⟨false, 8794761699453571, -48⟩)
    decode (Json.object (frameOf "book.A.100ms" written)).text = .ok (.event "book.A.100ms" read) ∧
      read ≠ written := by
  refine ⟨⟨?_, decode_nested (Nat.le_refl _) _⟩, ?_⟩
  · rw [Json.parse?_text, Document.toJson?_eq_some_iff, depth_nested]
    exact ⟨by decide, value?_nested _⟩
  · intro written read
    have neighbour : (Json.Number.float ⟨false, 8794761699453570, -48⟩).reread? =
        some (.float ⟨false, 8794761699453571, -48⟩) := by decide +kernel
    have numbers : written.numbers = [.float ⟨false, 8794761699453570, -48⟩] := rfl
    have reads := (exists_reads_text_iff (.object (frameOf "book.A.100ms" written))).mpr
      ⟨by rw [depth_frameOf]; exact Nat.le_of_ble_eq_true rfl,
        by simp [numbers_frameOf, numbers, neighbour]⟩
    refine ⟨(isFrame_frameOf _ written).decode_eq_iff.mpr ⟨reads, ?_⟩, by simp [read, written]⟩
    exact congrArg (Option.map Json.number) neighbour

end FeedBridge.Rpc.Inbound
