import FeedBridge.Feed.Topic
import Mathlib.Data.List.TakeWhile
import Mathlib.Tactic.SplitIfs

namespace FeedBridge.Topic

/-- A channel of the order book of a symbol: the symbol is all, or a point follows it. -/
def IsBook (channel symbol : String) : Prop :=
  symbol ≠ "" ∧ '.' ∉ symbol.toList ∧
    ∃ tail, (tail = "" ∨ ∃ more, tail = "." ++ more) ∧ channel = "book." ++ symbol ++ tail

def IsPosition (channel symbol : String) : Prop :=
  symbol ≠ "" ∧ channel = "user.position." ++ symbol

theorem after?_eq_some_iff {lead cs rest : List Char} :
    after? lead cs = some rest ↔ cs = lead ++ rest := by
  induction lead generalizing cs with
  | nil => simp [after?]
  | cons p lead ih =>
      cases cs with
      | nil => simp [after?]
      | cons c cs =>
          simp only [after?, List.cons_append, List.cons.injEq]
          split_ifs with same
          · simp [ih, same]
          · simp [Ne.symm same]

theorem after?_append (lead rest : List Char) : after? lead (lead ++ rest) = some rest :=
  after?_eq_some_iff.mpr rfl

theorem named?_eq_some_iff {kind : FeedKind} {cs : List Char} {topic : Topic} :
    named? kind cs = some topic ↔ cs ≠ [] ∧ topic = ⟨kind, String.ofList cs⟩ := by
  unfold named?
  split_ifs with empty
  · simp [List.isEmpty_iff.mp empty]
  · have nonempty : cs ≠ [] := fun same => empty (by simp [same])
    simp only [Option.some.injEq, nonempty, ne_eq, not_false_eq_true, true_and, eq_comm]

theorem takeWhile_noPoint_eq_iff {cs symbol : List Char} :
    cs.takeWhile (· != '.') = symbol ↔
      '.' ∉ symbol ∧ ∃ tail, (tail = [] ∨ ∃ more, tail = '.' :: more) ∧ cs = symbol ++ tail := by
  constructor
  · rintro rfl
    refine ⟨fun point => by simpa using List.mem_takeWhile_imp point, cs.dropWhile (· != '.'), ?_,
      List.takeWhile_append_dropWhile.symm⟩
    have stopped := List.head?_dropWhile_not (· != '.') cs
    cases rest : cs.dropWhile (· != '.') with
    | nil => exact .inl rfl
    | cons c more =>
        simp only [rest, List.head?_cons, bne_eq_false_iff_eq] at stopped
        exact .inr ⟨more, by rw [stopped]⟩
  · rintro ⟨plain, tail, ends, rfl⟩
    have kept : ∀ c ∈ symbol, (c != '.') = true := by
      rintro c mem
      simpa using fun point : c = '.' => plain (point ▸ mem)
    rw [List.takeWhile_append_of_pos kept]
    rcases ends with rfl | ⟨more, rfl⟩ <;> simp

variable {channel symbol : String}

theorem after?_bookLead {rest : List Char} :
    after? bookLead channel.toList = some rest ↔ channel = "book." ++ String.ofList rest := by
  rw [after?_eq_some_iff, ← String.toList_inj]
  simp [bookLead]

theorem after?_positionLead {rest : List Char} : after? positionLead channel.toList = some rest ↔
    channel = "user.position." ++ String.ofList rest := by
  rw [after?_eq_some_iff, ← String.toList_inj]
  simp [positionLead]

theorem isBook_append_iff (rest : List Char) : IsBook ("book." ++ String.ofList rest) symbol ↔
    rest.takeWhile (· != '.') ≠ [] ∧ symbol = String.ofList (rest.takeWhile (· != '.')) := by
  constructor
  · rintro ⟨named, plain, tail, ends, same⟩
    rw [String.append_assoc, String.append_right_inj, ← String.toList_inj] at same
    have whole : rest.takeWhile (· != '.') = symbol.toList := by
      refine takeWhile_noPoint_eq_iff.mpr ⟨plain, tail.toList, ?_, by simpa using same⟩
      rcases ends with rfl | ⟨more, rfl⟩
      · exact .inl rfl
      · exact .inr ⟨more.toList, by simp⟩
    rw [whole, String.ofList_toList]
    exact ⟨by simpa using named, rfl⟩
  · rintro ⟨named, rfl⟩
    obtain ⟨plain, tail, ends, same⟩ := takeWhile_noPoint_eq_iff.mp (rfl : rest.takeWhile _ = _)
    refine ⟨by simpa using named, by simpa using plain, String.ofList tail, ?_, ?_⟩
    · rcases ends with rfl | ⟨more, rfl⟩
      · exact .inl rfl
      · exact .inr ⟨String.ofList more, by rw [← String.toList_inj]; simp⟩
    · rw [String.append_assoc, ← String.toList_inj]
      simpa using same

theorem IsBook.exists_rest (book : IsBook channel symbol) :
    ∃ rest, channel = "book." ++ String.ofList rest := by
  obtain ⟨-, -, tail, -, rfl⟩ := book
  exact ⟨(symbol ++ tail).toList, by rw [String.ofList_toList, String.append_assoc]⟩

theorem isPosition_append_iff (rest : List Char) :
    IsPosition ("user.position." ++ String.ofList rest) symbol ↔
      rest ≠ [] ∧ symbol = String.ofList rest := by
  rw [IsPosition, String.append_right_inj]
  constructor
  · rintro ⟨named, rfl⟩
    exact ⟨by simpa using named, rfl⟩
  · rintro ⟨named, rfl⟩
    exact ⟨by simpa using named, rfl⟩

theorem not_isPosition_of_book (rest : String) : ¬IsPosition ("book." ++ rest) symbol := by
  rintro ⟨-, same⟩
  simpa using congrArg (fun c : String => c.toList.head?) same

theorem ofChannel?_eq_some_iff {topic : Topic} : ofChannel? channel = some topic ↔
    (topic.kind = .orderbook ∧ IsBook channel topic.symbol) ∨
      (topic.kind = .position ∧ IsPosition channel topic.symbol) := by
  obtain ⟨kind, symbol⟩ := topic
  unfold ofChannel?
  split
  · next rest after =>
    obtain rfl := after?_bookLead.mp after
    simp [named?_eq_some_iff, isBook_append_iff, not_isPosition_of_book, and_left_comm]
  · next noBook =>
    have notBook : ¬IsBook channel symbol := by
      intro book
      obtain ⟨rest, same⟩ := book.exists_rest
      simp [after?_bookLead.mpr same] at noBook
    split
    · next rest after =>
      obtain rfl := after?_positionLead.mp after
      simp [named?_eq_some_iff, isPosition_append_iff, notBook, and_left_comm]
    · next noPosition =>
      have notPosition : ¬IsPosition channel symbol := by
        rintro ⟨-, same⟩
        rw [← symbol.ofList_toList] at same
        simp [after?_positionLead.mpr same] at noPosition
      simp [notBook, notPosition]

theorem bookChannel_eq (symbol interval : String) :
    bookChannel symbol interval = "book." ++ symbol ++ ("." ++ interval) := by
  rw [← String.toList_inj]
  simp [bookChannel, bookLead]

theorem positionChannel_eq (symbol : String) :
    positionChannel symbol = "user.position." ++ symbol := by
  rw [← String.toList_inj]
  simp [positionChannel, positionLead]

theorem isBook_bookChannel_iff (symbol interval : String) :
    IsBook (bookChannel symbol interval) symbol ↔ symbol ≠ "" ∧ '.' ∉ symbol.toList := by
  rw [bookChannel_eq]
  constructor
  · exact fun book => ⟨book.1, book.2.1⟩
  · exact fun ⟨named, plain⟩ => ⟨named, plain, _, .inr ⟨interval, rfl⟩, rfl⟩

theorem ofChannel?_channel_iff (topic : Topic) (interval : String) :
    ofChannel? (topic.channel interval) = some topic ↔
      topic.symbol ≠ "" ∧ (topic.kind = .orderbook → '.' ∉ topic.symbol.toList) := by
  obtain ⟨kind, symbol⟩ := topic
  rw [ofChannel?_eq_some_iff]
  cases kind with
  | orderbook => simp [channel, isBook_bookChannel_iff]
  | position => simp [channel, positionChannel_eq, IsPosition]

theorem ofChannel?_channel {topic : Topic} (named : topic.symbol ≠ "")
    (plain : topic.kind = .orderbook → '.' ∉ topic.symbol.toList) (interval : String) :
    ofChannel? (topic.channel interval) = some topic :=
  (ofChannel?_channel_iff topic interval).mpr ⟨named, plain⟩

theorem channel_injective (interval : String) :
    Function.Injective fun topic : Topic => topic.channel interval := by
  rintro ⟨kind, symbol⟩ ⟨kind', symbol'⟩ same
  have heads (book position : String) : bookChannel book interval ≠ positionChannel position := by
    rw [bookChannel_eq, positionChannel_eq]
    intro same
    simpa using congrArg (fun c : String => c.toList.head?) same
  cases kind <;> cases kind' <;> simp only [channel] at same
  · rw [bookChannel_eq, bookChannel_eq, String.append_left_inj, String.append_right_inj] at same
    rw [same]
  · exact absurd same (heads _ _)
  · exact absurd same.symm (heads _ _)
  · rw [positionChannel_eq, positionChannel_eq, String.append_right_inj] at same
    rw [same]

/-- A channel carries the order book or the position that it is a channel of, and otherwise nothing.
So the channel of a topic is read back exactly if the symbol is not empty and, for an order book,
has no point in it, whatever the interval; and at one interval no two topics share a channel. -/
theorem naming_exact :
    (∀ channel symbol, ofChannel? channel = some ⟨.orderbook, symbol⟩ ↔ IsBook channel symbol) ∧
    (∀ channel symbol, ofChannel? channel = some ⟨.position, symbol⟩ ↔ IsPosition channel symbol) ∧
    (∀ channel, ofChannel? channel = none ↔
      ∀ symbol, ¬IsBook channel symbol ∧ ¬IsPosition channel symbol) ∧
    (∀ symbol interval, ofChannel? (bookChannel symbol interval) = some ⟨.orderbook, symbol⟩ ↔
      symbol ≠ "" ∧ '.' ∉ symbol.toList) ∧
    (∀ symbol, ofChannel? (positionChannel symbol) = some ⟨.position, symbol⟩ ↔ symbol ≠ "") ∧
    ∀ interval, Function.Injective fun topic : Topic => topic.channel interval := by
  refine ⟨?_, ?_, ?_, ?_, ?_, channel_injective⟩
  · intro channel symbol
    simp [ofChannel?_eq_some_iff]
  · intro channel symbol
    simp [ofChannel?_eq_some_iff]
  · intro channel
    rw [Option.eq_none_iff_forall_ne_some]
    constructor
    · intro nothing symbol
      exact ⟨fun book => nothing ⟨.orderbook, symbol⟩
          (ofChannel?_eq_some_iff.mpr (.inl ⟨rfl, book⟩)),
        fun position => nothing ⟨.position, symbol⟩
          (ofChannel?_eq_some_iff.mpr (.inr ⟨rfl, position⟩))⟩
    · intro nothing topic found
      obtain ⟨-, book⟩ | ⟨-, position⟩ := ofChannel?_eq_some_iff.mp found
      · exact (nothing _).1 book
      · exact (nothing _).2 position
  · exact fun symbol interval => by
      simpa [channel] using ofChannel?_channel_iff ⟨.orderbook, symbol⟩ interval
  · exact fun symbol => by
      simpa [channel] using ofChannel?_channel_iff ⟨.position, symbol⟩ ""

end FeedBridge.Topic
