import FeedBridge.Feed.Routing
import FeedBridge.Proofs.Json.Writing
import Mathlib.Data.List.Perm.Basic

namespace FeedBridge.ClientRequest

abbrev Members := List (List TextUnit × Document)

def under (name : String) (members : Members) : List Document :=
  (members.filter fun member => Document.stringOf? member.1 = some name).map (·.2)

def StandsFor (document : Document) (s : String) : Prop :=
  ∃ units, document = .text units ∧ Document.stringOf? units = some s

/-- A name that stands for a string, with no half of a pair in it. -/
def Named (member : List TextUnit × Document) : Prop := (Document.stringOf? member.1).isSome

/-- A document asks for a symbol by a method: as an object that has each once, or as a pair. -/
inductive Asks : Document → String → String → Prop
  | object {members : Members} {method symbol : String} {first second : Document}
      (named : ∀ member ∈ members, Named member)
      (once : under "method" members = [first]) (asked : StandsFor first method)
      (onceToo : under "symbol" members = [second]) (about : StandsFor second symbol) :
      Asks (.object members) method symbol
  | pair {method symbol : String} {first second : Document} (asked : StandsFor first method)
      (about : StandsFor second symbol) : Asks (.array [first, second]) method symbol

theorem stringField?_eq_some_iff {document : Document} {s : String} :
    stringField? document = some s ↔ StandsFor document s := by
  cases document <;> simp [stringField?, StandsFor]

def merge? (known : Option String) : List Document → Option (Option String)
  | [] => some known
  | document :: rest =>
    if known.isSome then none
    else (stringField? document).bind fun s => merge? (some s) rest

theorem merge?_some (s : String) (found : List Document) :
    merge? (some s) found = if found = [] then some (some s) else none := by
  cases found <;> simp [merge?]

theorem merge?_none_eq_some_some_iff {found : List Document} {s : String} :
    merge? none found = some (some s) ↔ ∃ document, found = [document] ∧ StandsFor document s := by
  cases found with
  | nil => simp [merge?]
  | cons document rest =>
      simp only [merge?, Option.isSome_none, Bool.false_eq_true, if_false, merge?_some,
        Option.bind_eq_some_iff, stringField?_eq_some_iff]
      constructor
      · rintro ⟨s', stands, last⟩
        split_ifs at last with single
        cases last
        exact ⟨document, by rw [single], stands⟩
      · rintro ⟨_, same, stands⟩
        cases same
        exact ⟨s, stands, if_pos rfl⟩

theorem under_cons (name : String) (key : List TextUnit) (value : Document) (members : Members) :
    under name ((key, value) :: members) =
      (if Document.stringOf? key = some name then [value] else []) ++ under name members := by
  unfold under
  by_cases here : Document.stringOf? key = some name <;> simp [here]

theorem readFields?_eq_some_iff {fields after : Fields} {members : Members} :
    readFields? fields members = some after ↔ (∀ member ∈ members, Named member) ∧
      merge? fields.method (under "method" members) = some after.method ∧
      merge? fields.symbol (under "symbol" members) = some after.symbol := by
  induction members generalizing fields with
  | nil =>
      obtain ⟨method, symbol⟩ := fields
      obtain ⟨method', symbol'⟩ := after
      simp [readFields?, under, merge?]
  | cons member rest ih =>
      obtain ⟨key, value⟩ := member
      cases named : Document.stringOf? key with
      | none => simp [readFields?, named, Named]
      | some name =>
          simp only [readFields?, named, under_cons, List.forall_mem_cons, Named, bind,
            Option.bind_some, Option.isSome_some, true_and, Option.some.injEq]
          -- A name belongs to one field at most, and the other field is left as it was.
          by_cases isMethod : name = "method"
          · subst isMethod
            have other : ¬"method" = "symbol" := by decide
            simp only [if_true, other, if_false, List.singleton_append, List.nil_append, merge?]
            split_ifs
            · simp
            · cases stringField? value <;> simp [ih, Named]
          · by_cases isSymbol : name = "symbol"
            · subst isSymbol
              simp only [isMethod, if_true, if_false, List.singleton_append, List.nil_append,
                merge?]
              split_ifs
              · simp
              · cases stringField? value <;> simp [ih, Named]
            · simp [isMethod, isSymbol, ih, Named]

theorem fields?_eq_some_iff {document : Document} {method symbol : String} :
    fields? document = some (method, symbol) ↔ Asks document method symbol := by
  constructor
  · intro found
    unfold fields? at found
    split at found
    · next members =>
      simp only [bind, Option.bind_eq_some_iff, pure, Option.some.injEq, Prod.mk.injEq] at found
      obtain ⟨⟨method', symbol'⟩, read, _, rfl, _, rfl, rfl, rfl⟩ := found
      obtain ⟨named, once, onceToo⟩ := readFields?_eq_some_iff.mp read
      obtain ⟨first, single, asked⟩ := merge?_none_eq_some_some_iff.mp once
      obtain ⟨second, singleToo, about⟩ := merge?_none_eq_some_some_iff.mp onceToo
      exact .object named single asked singleToo about
    · next first second =>
      simp only [bind, Option.bind_eq_some_iff, pure, Option.some.injEq, Prod.mk.injEq] at found
      obtain ⟨_, asked, _, about, rfl, rfl⟩ := found
      exact .pair (stringField?_eq_some_iff.mp asked) (stringField?_eq_some_iff.mp about)
    · cases found
  · rintro (⟨named, once, asked, onceToo, about⟩ | ⟨asked, about⟩)
    · have read : readFields? {} _ = some ⟨some method, some symbol⟩ :=
        readFields?_eq_some_iff.mpr ⟨named, merge?_none_eq_some_some_iff.mpr ⟨_, once, asked⟩,
          merge?_none_eq_some_some_iff.mpr ⟨_, onceToo, about⟩⟩
      simp [fields?, read]
    · simp [fields?, stringField?_eq_some_iff.mpr asked, stringField?_eq_some_iff.mpr about]

def methodName : FeedKind → String
  | .orderbook => "subscribe_orderbook"
  | .position => "subscribe_position"

theorem kindOfMethod?_eq_some_iff {method : String} {kind : FeedKind} :
    kindOfMethod? method = some kind ↔ method = methodName kind := by
  unfold kindOfMethod?
  split_ifs with book position
  · cases kind <;> simp [book, methodName]
  · cases kind <;> simp [position, methodName]
  · cases kind <;> simp [book, position, methodName]

theorem kindOfMethod?_eq_none_iff {method : String} :
    kindOfMethod? method = none ↔ ∀ kind, method ≠ methodName kind := by
  simp only [Option.eq_none_iff_forall_ne_some, ne_eq, kindOfMethod?_eq_some_iff]

theorem topicOf_cases (method symbol : String) :
    (symbol = "" ∧ topicOf method symbol = .error .emptySymbol) ∨
    (symbol ≠ "" ∧ (∀ kind, method ≠ methodName kind) ∧
      topicOf method symbol = .error (.unknownMethod method)) ∨
    (symbol ≠ "" ∧ ∃ kind, method = methodName kind ∧
      topicOf method symbol = .ok ⟨kind, symbol⟩) := by
  unfold topicOf
  split_ifs with empty
  · exact .inl ⟨String.isEmpty_iff.mp empty, rfl⟩
  · have filled : symbol ≠ "" := mt String.isEmpty_iff.mpr empty
    cases known : kindOfMethod? method with
    | none => exact .inr (.inl ⟨filled, kindOfMethod?_eq_none_iff.mp known, rfl⟩)
    | some kind => exact .inr (.inr ⟨filled, kind, kindOfMethod?_eq_some_iff.mp known, rfl⟩)

theorem methodName_inj {kind kind' : FeedKind} :
    methodName kind = methodName kind' ↔ kind = kind' := by
  rw [← kindOfMethod?_eq_some_iff, kindOfMethod?_eq_some_iff.mpr rfl, Option.some.injEq]

theorem topicOf_eq_ok_iff {method symbol : String} {topic : Topic} :
    topicOf method symbol = .ok topic ↔
      symbol ≠ "" ∧ method = methodName topic.kind ∧ topic.symbol = symbol := by
  obtain ⟨kind, named⟩ := topic
  obtain ⟨empty, answer⟩ | ⟨filled, unknown, answer⟩ | ⟨filled, other, rfl, answer⟩ :=
    topicOf_cases method symbol
  · rw [answer]
    simp [empty]
  · simp [answer, unknown]
  · simp [answer, filled, methodName_inj, eq_comm]

theorem topicOf_eq_emptySymbol_iff {method symbol : String} :
    topicOf method symbol = .error .emptySymbol ↔ symbol = "" := by
  obtain ⟨empty, answer⟩ | ⟨filled, -, answer⟩ | ⟨filled, _, -, answer⟩ :=
    topicOf_cases method symbol
  · rw [answer]
    simp [empty]
  · simp [answer, filled]
  · simp [answer, filled]

theorem topicOf_eq_unknownMethod_iff {method symbol name : String} :
    topicOf method symbol = .error (.unknownMethod name) ↔
      symbol ≠ "" ∧ (∀ kind, method ≠ methodName kind) ∧ method = name := by
  obtain ⟨empty, answer⟩ | ⟨filled, unknown, answer⟩ | ⟨filled, kind, rfl, answer⟩ :=
    topicOf_cases method symbol
  · rw [answer]
    simp [empty]
  · simp [answer, filled, unknown]
  · simp [answer, methodName_inj]

theorem topicOf_ne_malformed (method symbol : String) :
    topicOf method symbol ≠ .error .malformed := by
  obtain ⟨-, answer⟩ | ⟨-, -, answer⟩ | ⟨-, _, -, answer⟩ := topicOf_cases method symbol <;>
    simp [answer]

variable {text : String}

def AsksIn (text method symbol : String) : Prop :=
  ∃ document : Document, document.Fills text ∧ Asks document method symbol

theorem parse_of_fills {document : Document} (fills : document.Fills text) :
    parse text = ofDocument document := by
  rw [parse, Document.parse?_eq_some_iff.mpr fills]

theorem parse_of_asksIn {method symbol : String} (asks : AsksIn text method symbol) :
    parse text = topicOf method symbol := by
  obtain ⟨document, fills, asks⟩ := asks
  rw [parse_of_fills fills, ofDocument, fields?_eq_some_iff.mpr asks]

theorem parse_of_not_asksIn (nothing : ¬∃ method symbol, AsksIn text method symbol) :
    parse text = .error .malformed := by
  unfold parse
  cases found : Document.parse? text with
  | none => rfl
  | some document =>
      have fills := Document.parse?_eq_some_iff.mp found
      cases asked : fields? document with
      | none => simp [ofDocument, asked]
      | some fields =>
          exact absurd ⟨fields.1, fields.2, document, fills, fields?_eq_some_iff.mp asked⟩ nothing

theorem parse_eq_iff {answer : Except ClientRequestError Topic} :
    parse text = answer ↔
      (∃ method symbol, AsksIn text method symbol ∧ topicOf method symbol = answer) ∨
        (¬∃ method symbol, AsksIn text method symbol) ∧ answer = .error .malformed := by
  by_cases some : ∃ method symbol, AsksIn text method symbol
  · obtain ⟨method, symbol, asks⟩ := some
    rw [parse_of_asksIn asks]
    constructor
    · exact fun same => .inl ⟨method, symbol, asks, same⟩
    · rintro (⟨method', symbol', asks', same⟩ | ⟨nothing, -⟩)
      · rw [← parse_of_asksIn asks, parse_of_asksIn asks', same]
      · exact absurd ⟨method, symbol, asks⟩ nothing
  · rw [parse_of_not_asksIn some]
    constructor
    · exact fun same => .inr ⟨some, same.symm⟩
    · rintro (⟨method, symbol, asks, -⟩ | ⟨-, same⟩)
      · exact absurd ⟨method, symbol, asks⟩ some
      · exact same.symm

def wanted (members : Members) : Members :=
  members.filter fun member => Document.stringOf? member.1 = some "method" ∨
    Document.stringOf? member.1 = some "symbol"

theorem under_wanted {name : String} (field : name = "method" ∨ name = "symbol")
    (members : Members) : under name (wanted members) = under name members := by
  unfold under wanted
  rw [List.filter_filter]
  congr 1
  refine List.filter_congr fun member _ => ?_
  rcases field with rfl | rfl <;> simp +contextual

theorem under_perm {name : String} (field : name = "method" ∨ name = "symbol")
    {members members' : Members} (same : (wanted members).Perm (wanted members')) :
    (under name members).Perm (under name members') := by
  rw [← under_wanted field, ← under_wanted field members']
  exact (same.filter _).map _

theorem Asks.of_wanted {members members' : Members} {method symbol : String}
    (named : (∀ member ∈ members, Named member) → ∀ member ∈ members', Named member)
    (same : (wanted members).Perm (wanted members')) (asks : Asks (.object members) method symbol) :
    Asks (.object members') method symbol := by
  cases asks with
  | object complete once asked onceToo about =>
      have first := under_perm (.inl rfl) same
      have second := under_perm (.inr rfl) same
      rw [once, List.singleton_perm] at first
      rw [onceToo, List.singleton_perm] at second
      exact .object (named complete) first.symm asked second.symm about

theorem ofDocument_eq_of_wanted {members members' : Members}
    (named : (∀ member ∈ members, Named member) ↔ ∀ member ∈ members', Named member)
    (same : (wanted members).Perm (wanted members')) :
    ofDocument (.object members) = ofDocument (.object members') := by
  have fields : fields? (.object members) = fields? (.object members') := by
    refine Option.ext fun ⟨method, symbol⟩ => ?_
    rw [fields?_eq_some_iff, fields?_eq_some_iff]
    exact ⟨.of_wanted named.mp same, .of_wanted named.mpr same.symm⟩
  rw [ofDocument, fields, ofDocument]

/-- The answers to all texts: a topic, if the text asks for it by the method of its kind and by a
symbol that is not empty; otherwise what is wrong with the symbol, with the method, or with the
text. Two objects that have the same methods and symbols are answered alike, if both or neither have
a name that stands for no string; and a text that is not understood changes nothing. -/
theorem parse_exact :
    (∀ text topic, parse text = .ok topic ↔
      topic.symbol ≠ "" ∧ AsksIn text (methodName topic.kind) topic.symbol) ∧
    (∀ text, parse text = .error .emptySymbol ↔ ∃ method, AsksIn text method "") ∧
    (∀ text method, parse text = .error (.unknownMethod method) ↔
      (∀ kind, method ≠ methodName kind) ∧ ∃ symbol, symbol ≠ "" ∧ AsksIn text method symbol) ∧
    (∀ text, parse text = .error .malformed ↔ ¬∃ method symbol, AsksIn text method symbol) ∧
    (∀ text text' members members', (Document.object members).Fills text →
      (Document.object members').Fills text' →
        ((∀ member ∈ members, Named member) ↔ ∀ member ∈ members', Named member) →
          (wanted members).Perm (wanted members') → parse text = parse text') ∧
    ∀ (s : Routing) (session : SessionId) (text : String),
      s.clientText session text = s ∨ ∃ topic, parse text = .ok topic := by
  refine ⟨?_, ?_, ?_, ?_, ?_, ?_⟩
  · intro text topic
    rw [parse_eq_iff]
    constructor
    · rintro (⟨method, symbol, asks, answer⟩ | ⟨-, wrong⟩)
      · obtain ⟨filled, rfl, rfl⟩ := topicOf_eq_ok_iff.mp answer
        exact ⟨filled, asks⟩
      · cases wrong
    · exact fun ⟨filled, asks⟩ => .inl ⟨_, _, asks, topicOf_eq_ok_iff.mpr ⟨filled, rfl, rfl⟩⟩
  · intro text
    simp [parse_eq_iff, topicOf_eq_emptySymbol_iff]
  · intro text method
    rw [parse_eq_iff]
    constructor
    · rintro (⟨method, symbol, asks, answer⟩ | ⟨-, wrong⟩)
      · obtain ⟨filled, unknown, rfl⟩ := topicOf_eq_unknownMethod_iff.mp answer
        exact ⟨unknown, symbol, filled, asks⟩
      · cases wrong
    · exact fun ⟨unknown, symbol, filled, asks⟩ =>
        .inl ⟨_, _, asks, topicOf_eq_unknownMethod_iff.mpr ⟨filled, unknown, rfl⟩⟩
  · intro text
    simp [parse_eq_iff, topicOf_ne_malformed]
  · intro text text' members members' fills fills' named same
    rw [parse_of_fills fills, parse_of_fills fills']
    exact ofDocument_eq_of_wanted named same
  · intro s session text
    unfold Routing.clientText
    cases parse text with
    | ok topic => exact .inr ⟨topic, rfl⟩
    | error cause => exact .inl rfl

theorem parse_exact_of_reordered :
    let text := "\x7b\"method\":\"subscribe_position\",\"symbol\":\"A\"\x7d"
    let other := "\x7b\"symbol\":\"A\",\"x\":[true],\"method\":\"subscribe_position\"\x7d"
    parse text = parse other ∧ parse text = .ok ⟨.position, "A"⟩ := by
  intro text other
  let method := (TextUnit.ofString "method", Document.text (TextUnit.ofString "subscribe_position"))
  let symbol := (TextUnit.ofString "symbol", Document.text (TextUnit.ofString "A"))
  let further := (TextUnit.ofString "x", Document.array [.bool true])
  have fills : (Document.object [method, symbol]).Fills text := by
    let value := Json.object [("method", .string "subscribe_position"), ("symbol", .string "A")]
    have written : text = value.text := by decide +kernel
    exact written ▸ Document.fills_text value
  have fillsOther : (Document.object [symbol, further, method]).Fills other := by
    let value := Json.object [("symbol", .string "A"), ("x", .array [.bool true]),
      ("method", .string "subscribe_position")]
    have written : other = value.text := by decide +kernel
    exact written ▸ Document.fills_text value
  have kept : wanted [method, symbol] = [method, symbol] := by
    simp [wanted, method, symbol, Document.stringOf?_ofString]
  have keptOther : wanted [symbol, further, method] = [symbol, method] := by
    simp [wanted, method, symbol, further, Document.stringOf?_ofString]
  have named : ∀ member ∈ [method, symbol], Named member := by
    simp [Named, method, symbol, Document.stringOf?_ofString]
  have asks : Asks (.object [method, symbol]) "subscribe_position" "A" :=
    .object named (by simp [under, method, symbol, Document.stringOf?_ofString])
      ⟨_, rfl, Document.stringOf?_ofString _⟩
      (by simp [under, method, symbol, Document.stringOf?_ofString])
      ⟨_, rfl, Document.stringOf?_ofString _⟩
  refine ⟨parse_exact.2.2.2.2.1 _ _ _ _ fills fillsOther ?_ ?_,
    (parse_exact.1 text ⟨.position, "A"⟩).mpr ⟨by decide, _, fills, asks⟩⟩
  · simp [Named, method, symbol, further, Document.stringOf?_ofString]
  · rw [kept, keptOther]
    exact .swap symbol method []

/-- A name that is half of a pair of surrogates stands for no string, and spoils a request that has
its method and its symbol once each. -/
theorem malformed_of_half_pair :
    let text := "\x7b\"\\ud800\":1,\"method\":\"subscribe_orderbook\",\"symbol\":\"A\"\x7d"
    parse text = .error .malformed ∧ ∃ members, (Document.object members).Fills text ∧
      under "method" members = [.text (TextUnit.ofString "subscribe_orderbook")] ∧
      under "symbol" members = [.text (TextUnit.ofString "A")] := by
  intro text
  let method :=
    (TextUnit.ofString "method", Document.text (TextUnit.ofString "subscribe_orderbook"))
  let symbol := (TextUnit.ofString "symbol", Document.text (TextUnit.ofString "A"))
  let half : List TextUnit × Document := ([.escaped 0xD800], Document.ofJson (.nat 1))
  have written : text.toList = '{' :: ((['"', '\\', 'u', 'd', '8', '0', '0', '"', ':', '1'] ++ ',' ::
      ((Json.quoteChars "method" ++ ':' :: Json.quoteChars "subscribe_orderbook") ++ ',' ::
        (Json.quoteChars "symbol" ++ ':' :: Json.quoteChars "A"))) ++ ['}']) := by
    decide +kernel
  have spelled : Document.SpelledMember half ['"', '\\', 'u', 'd', '8', '0', '0', '"', ':', '1'] :=
    .intro Document.blank_nil (.cons (.code rfl) .nil) Document.blank_nil
      (Document.ofJson_spelled (.nat 1)).padded
  have fills : (Document.object [half, method, symbol]).Fills text := by
    rw [Document.Fills, written]
    exact (Document.Spelled.object (.more spelled
      (.more (Document.member_spelled (Document.ofJson_spelled (.string "subscribe_orderbook")))
        (.last (Document.member_spelled (Document.ofJson_spelled (.string "A"))))))).padded
  have broken : Document.stringOf? [.escaped 0xD800] = none := rfl
  refine ⟨(parse_of_fills fills).trans rfl, _, fills, ?_, ?_⟩ <;>
    simp [under, half, method, symbol, broken, Document.stringOf?_ofString]

end FeedBridge.ClientRequest
