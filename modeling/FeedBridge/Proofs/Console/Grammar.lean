import FeedBridge.Proofs.Console.Meaning
import FeedBridge.Proofs.Number.Figures

namespace FeedBridge.Console

open Text (AllBlank Laid Solid Stripped)

def Cut (line : String) (words : List String) : Prop :=
  (∀ word ∈ words, Solid word.toList) ∧ Laid (words.map String.toList) line.toList

variable {line head : String} {args words : List String} {command : Command}

theorem cut_iff : Cut line words ↔ (Text.words line.toList).map String.ofList = words := by
  have same : (Text.words line.toList).map String.ofList = words ↔
      Text.words line.toList = words.map String.toList := by
    constructor
    · rintro rfl
      simp [Function.comp_def]
    · intro cut
      simp [cut, Function.comp_def]
  rw [same, Text.words_eq_iff, List.forall_mem_map]
  rfl

theorem parse_of_cut_nil (cut : Cut line []) : Command.parse line = .ok .empty := by
  unfold Command.parse
  simp only [Text.words_trim, cut_iff.mp cut]

theorem parse_of_cut (cut : Cut line (head :: args)) :
    Command.parse line =
      Command.ofWords (String.ofList (Text.trim line.toList)) head args := by
  unfold Command.parse
  simp only [Text.words_trim, cut_iff.mp cut]

/-! ## The words of a command -/

namespace Command

/-- The words of a command, in order. A decimal has every word that is read as it. -/
inductive Written : Command → List String → Prop
  | connect : Written connect ["connect"]
  | help : Written help ["help"]
  | quit {word : String} (known : word = "quit" ∨ word = "exit") : Written quit [word]
  | orders : Written orders ["orders"]
  | order {side type amountWord : String} {amount : Decimal} (sided : side = "buy" ∨ side = "sell")
      (read : Decimal.ofText? amountWord = some amount) :
      Written (order side type amount none) [side, type, amountWord]
  | pricedOrder {side type amountWord priceWord : String} {amount price : Decimal}
      (sided : side = "buy" ∨ side = "sell") (read : Decimal.ofText? amountWord = some amount)
      (priced : Decimal.ofText? priceWord = some price) :
      Written (order side type amount (some price)) [side, type, amountWord, priceWord]
  | cancel {orderId : String} : Written (cancel orderId) ["cancel", orderId]
  | modify {orderId priceWord amountWord : String} {price amount : Decimal}
      (priced : Decimal.ofText? priceWord = some price)
      (read : Decimal.ofText? amountWord = some amount) :
      Written (modify orderId price amount) ["modify", orderId, priceWord, amountWord]
  | state {orderId : String} : Written (state orderId) ["state", orderId]
  | orderbook (name : Option String) : Written (orderbook name) ("orderbook" :: name.toList)
  | positions (currency : Option String) :
      Written (positions currency) ("positions" :: currency.toList)
  | instrument (name : Option String) : Written (instrument name) ("instrument" :: name.toList)
  | allInstruments : Written (instruments none none) ["instruments"]
  | instruments (currency : String) (kind : Option String) :
      Written (instruments (some currency) kind) ("instruments" :: currency :: kind.toList)

def texts : Command → List String
  | order side type _ _ => [side, type]
  | cancel orderId | modify orderId _ _ | state orderId => [orderId]
  | orderbook name | positions name | instrument name => name.toList
  | instruments currency kind => currency.toList ++ kind.toList
  | connect | orders | help | quit | raw _ | empty => []

theorem Written.texts_subset (written : command.Written words) : command.texts ⊆ words := by
  cases written <;> simp [texts]

def knownWords : List String :=
  ["connect", "help", "quit", "exit", "orders", "buy", "sell", "cancel", "modify", "state",
    "orderbook", "positions", "instruments", "instrument"]

theorem Written.solid (written : command.Written words)
    (texts : ∀ text ∈ command.texts, Solid text.toList) : ∀ word ∈ words, Solid word.toList := by
  have known : ∀ word ∈ knownWords, Solid word.toList := by decide
  cases written with
  | connect | help | orders | allInstruments =>
      exact List.forall_mem_singleton.mpr (known _ (by decide))
  | quit same =>
      rcases same with rfl | rfl <;> exact List.forall_mem_singleton.mpr (known _ (by decide))
  | cancel | state | orderbook | positions | instrument | instruments =>
      exact List.forall_mem_cons.mpr ⟨known _ (by decide), texts⟩
  | order sided read =>
      obtain ⟨side, type⟩ := by simpa [Command.texts] using texts
      simpa using ⟨side, type, Decimal.solid_of_ofText? read⟩
  | pricedOrder sided read priced =>
      obtain ⟨side, type⟩ := by simpa [Command.texts] using texts
      simpa using ⟨side, type, Decimal.solid_of_ofText? read, Decimal.solid_of_ofText? priced⟩
  | modify priced read =>
      have orderId := List.forall_mem_singleton.mp texts
      simpa using ⟨known "modify" (by decide), orderId, Decimal.solid_of_ofText? priced,
        Decimal.solid_of_ofText? read⟩

def tradingWords : List String := ["buy", "sell", "cancel", "modify", "state"]

def counts : String → List Nat
  | "buy" | "sell" => [2, 3]
  | "cancel" | "state" => [1]
  | "modify" => [3]
  | "connect" | "help" | "quit" | "exit" | "orders" => [0]
  | "orderbook" | "positions" | "instrument" => [0, 1]
  | "instruments" => [0, 1, 2]
  | _ => []

def numberWords : String → List String → List String
  | "buy", _ :: numbers | "sell", _ :: numbers | "modify", _ :: numbers => numbers
  | _, _ => []

def Unreadable (word : String) : Prop :=
  Decimal.ofPlain? word.toList = none ∧ Decimal.ofExponentForm? word.toList = none

instance (word : String) : Decidable (Unreadable word) :=
  inferInstanceAs (Decidable (_ = none ∧ _ = none))

def firstUnreadable? (head : String) (args : List String) : Option String :=
  (numberWords head args).find? fun word => Unreadable word

/-- What a line with a trading word in front is answered. -/
inductive Answered (head : String) (args : List String) : Except CommandError Command → Prop
  | usage {form : String} (miscounted : args.length ∉ counts head) :
      Answered head args (.error (.usage form))
  | invalidNumber {word : String} (counted : args.length ∈ counts head)
      (first : firstUnreadable? head args = some word) :
      Answered head args (.error (.invalidNumber word))
  | command {command : Command} (written : command.Written (head :: args)) :
      Answered head args (.ok command)

theorem Written.counted (written : command.Written (head :: args)) :
    args.length ∈ counts head := by
  cases written with
  | connect | help | orders | allInstruments | cancel | modify | state => simp [counts]
  | @orderbook name | @positions name | @instrument name | @instruments _ name =>
      cases name <;> simp [counts]
  | quit known => rcases known with rfl | rfl <;> simp [counts]
  | order sided _ | pricedOrder sided _ _ => rcases sided with rfl | rfl <;> simp [counts]

theorem Written.readable (written : command.Written (head :: args)) :
    firstUnreadable? head args = none := by
  have of_read {word : String} {d : Decimal} (read : Decimal.ofText? word = some d) :
      ¬Unreadable word := by
    unfold Unreadable
    simp [← Decimal.ofText?_eq_none_iff, read]
  cases written with
  | connect | help | orders | allInstruments | orderbook | positions | instrument | instruments
  | cancel | state => rfl
  | quit known => rcases known with rfl | rfl <;> rfl
  | order sided read =>
      rcases sided with rfl | rfl <;> simp [firstUnreadable?, numberWords, of_read read]
  | pricedOrder sided read priced =>
      rcases sided with rfl | rfl <;>
        simp [firstUnreadable?, numberWords, of_read read, of_read priced]
  | modify priced read =>
      simp [firstUnreadable?, numberWords, of_read priced, of_read read]

theorem number_cases (word : String) :
    (∃ d, Decimal.ofText? word = some d ∧ ¬Unreadable word ∧ number word = .ok d) ∨
      (Unreadable word ∧ number word = .error (.invalidNumber word)) := by
  unfold Unreadable number
  rw [← Decimal.ofText?_eq_none_iff]
  cases read : Decimal.ofText? word with
  | none => exact .inr ⟨rfl, rfl⟩
  | some d => exact .inl ⟨d, rfl, nofun, rfl⟩

section

variable {first second : String} {build : Decimal → Decimal → Command}

theorem answered_number {build : Decimal → Command} (counted : args.length ∈ counts head)
    (numbers : numberWords head args = [first])
    (written : ∀ a, Decimal.ofText? first = some a → (build a).Written (head :: args)) :
    Answered head args (do return build (← number first)) := by
  rcases number_cases first with ⟨a, read, -, found⟩ | ⟨bad, found⟩
  · rw [found]
    exact .command (written a read)
  · rw [found]
    exact .invalidNumber counted (by simp [firstUnreadable?, numbers, bad])

theorem answered_numbers (counted : args.length ∈ counts head)
    (numbers : numberWords head args = [first, second])
    (written : ∀ a b, Decimal.ofText? first = some a → Decimal.ofText? second = some b →
      (build a b).Written (head :: args)) :
    Answered head args (do
      let a ← number first
      let b ← number second
      return build a b) := by
  rcases number_cases first with ⟨a, read, good, found⟩ | ⟨bad, found⟩
  · rw [found]
    rcases number_cases second with ⟨b, read', -, found'⟩ | ⟨bad, found'⟩
    · rw [found']
      exact .command (written a b read read')
    · rw [found']
      exact .invalidNumber counted (by simp [firstUnreadable?, numbers, good, bad])
  · rw [found]
    exact .invalidNumber counted (by simp [firstUnreadable?, numbers, bad])

end

theorem answered_readOrder {side : String} (sided : side = "buy" ∨ side = "sell") :
    Answered side args (readOrder side args) := by
  have allowed : counts side = [2, 3] := by rcases sided with rfl | rfl <;> rfl
  have numbers (type : String) (rest : List String) : numberWords side (type :: rest) = rest := by
    rcases sided with rfl | rfl <;> rfl
  unfold readOrder
  split
  next type amount =>
    exact answered_number (by simp [allowed]) (numbers type _) fun _ read => .order sided read
  next type amount price =>
    exact answered_numbers (by simp [allowed]) (numbers type _) fun _ _ read priced =>
      .pricedOrder sided read priced
  next two three =>
    refine .usage fun counted => ?_
    rw [allowed, List.mem_pair, List.length_eq_two, List.length_eq_three] at counted
    rcases counted with ⟨type, amount, same⟩ | ⟨type, amount, price, same⟩
    · exact two type amount same
    · exact three type amount price same

theorem answered_readModify : Answered "modify" args (readModify args) := by
  unfold readModify
  split
  next orderId price amount =>
    exact answered_numbers (by simp [counts]) rfl fun _ _ priced read => .modify priced read
  next three =>
    refine .usage fun counted => ?_
    obtain ⟨orderId, price, amount, same⟩ := List.length_eq_three.mp (List.mem_singleton.mp counted)
    exact three orderId price amount same

theorem answered_readCancel : Answered "cancel" args (readCancel args) := by
  unfold readCancel
  split
  next orderId => exact .command .cancel
  next one =>
    refine .usage fun counted => ?_
    obtain ⟨orderId, same⟩ := List.length_eq_one_iff.mp (List.mem_singleton.mp counted)
    exact one orderId same

theorem answered_readState : Answered "state" args (readState args) := by
  unfold readState
  split
  next orderId => exact .command .state
  next one =>
    refine .usage fun counted => ?_
    obtain ⟨orderId, same⟩ := List.length_eq_one_iff.mp (List.mem_singleton.mp counted)
    exact one orderId same

theorem ofWords_order {side : String} (sided : side = "buy" ∨ side = "sell") :
    ofWords line side args = readOrder side args := by
  rcases sided with rfl | rfl <;> rfl

theorem ofWords_modify : ofWords line "modify" args = readModify args := rfl

theorem answered_ofWords (trading : head ∈ tradingWords) :
    Answered head args (ofWords line head args) := by
  simp only [tradingWords, List.mem_cons, List.not_mem_nil, or_false] at trading
  rcases trading with rfl | rfl | rfl | rfl | rfl
  · exact answered_readOrder (.inl rfl)
  · exact answered_readOrder (.inr rfl)
  · exact answered_readCancel
  · exact answered_readModify
  · exact answered_readState

theorem ofWords_of_plain (plain : head ∉ tradingWords) :
    ofWords line head args = .ok ((simple? head args).getD (raw line)) := by
  simp only [tradingWords, List.mem_cons, List.not_mem_nil, or_false, not_or] at plain
  obtain ⟨buy, sell, cancel, modify, state⟩ := plain
  simp [ofWords, buy, sell, cancel, modify, state]

theorem written_of_simple? (simple : simple? head args = some command) :
    command.Written (head :: args) := by
  unfold simple? at simple
  split at simple <;> cases simple
  · exact .connect
  · exact .help
  · exact .quit (.inl rfl)
  · exact .quit (.inr rfl)
  · exact .orders
  · exact .orderbook none
  · exact .orderbook (some _)
  · exact .positions none
  · exact .positions (some _)
  · exact .allInstruments
  · exact .instruments _ none
  · exact .instruments _ (some _)
  · exact .instrument none
  · exact .instrument (some _)

theorem simple?_eq_none_iff (plain : head ∉ tradingWords) :
    Command.simple? head args = none ↔ args.length ∉ counts head := by
  constructor
  · intro none counted
    unfold counts at counted
    split at counted
    case h_1 | h_2 | h_3 | h_4 | h_5 => exact plain (by decide)
    all_goals simp only [List.mem_cons, List.not_mem_nil, or_false, List.length_eq_zero_iff,
      List.length_eq_one_iff, List.length_eq_two] at counted
    case h_6 | h_7 | h_8 | h_9 | h_10 => rw [counted] at none; cases none
    case h_11 | h_12 | h_13 =>
      rcases counted with rfl | ⟨name, rfl⟩ <;> cases none
    case h_14 => rcases counted with rfl | ⟨name, rfl⟩ | ⟨name, kind, rfl⟩ <;> cases none
  · intro miscounted
    cases simple : Command.simple? head args with
    | none => rfl
    | some command =>
        exact absurd (written_of_simple? simple).counted miscounted

theorem Written.ofWords (written : command.Written (head :: args)) :
    ofWords line head args = .ok command := by
  cases written with
  | connect | help | orders | allInstruments | cancel | state => rfl
  | @orderbook name | @positions name | @instrument name | @instruments _ name => cases name <;> rfl
  | quit known => rcases known with rfl | rfl <;> rfl
  | order sided read =>
      rw [ofWords_order sided, readOrder, number, read]
      rfl
  | pricedOrder sided read priced =>
      rw [ofWords_order sided, readOrder, number, read, number, priced]
      rfl
  | modify priced read =>
      rw [ofWords_modify, readModify, number, priced, number, read]
      rfl

theorem Answered.exact {answer : Except CommandError Command} (answered : Answered head args answer) :
    (∀ text, answer ≠ .ok (.raw text)) ∧
    ((∃ form, answer = .error (.usage form)) ↔ args.length ∉ counts head) ∧
    (∀ word, answer = .error (.invalidNumber word) ↔
      args.length ∈ counts head ∧ firstUnreadable? head args = some word) ∧
    (args.length ∈ counts head → firstUnreadable? head args = none →
      ∃ command : Command, command.Written (head :: args) ∧ answer = .ok command) := by
  cases answered with
  | usage miscounted =>
      refine ⟨nofun, ⟨fun _ => miscounted, fun _ => ⟨_, rfl⟩⟩, fun word => ⟨nofun, fun ⟨counted, _⟩ => ?_⟩,
        fun counted => ?_⟩
      · exact absurd counted miscounted
      · exact absurd counted miscounted
  | invalidNumber counted first =>
      refine ⟨nofun, ⟨nofun, absurd counted⟩, fun word => ⟨fun same => ?_, fun ⟨_, found⟩ => ?_⟩,
        fun _ readable => ?_⟩
      · cases same
        exact ⟨counted, first⟩
      · rw [Option.some.inj (first.symm.trans found)]
      · rw [first] at readable
        cases readable
  | @command command written =>
      refine ⟨fun text same => ?_, ⟨nofun, absurd written.counted⟩, fun word => ⟨nofun, ?_⟩,
        fun _ _ => ⟨command, written, rfl⟩⟩
      · cases same
        cases written
      · rintro ⟨-, found⟩
        rw [written.readable] at found
        cases found

end Command

/-! ## Lines -/

open Command

theorem exists_cut (line : String) : ∃ words, Cut line words := ⟨_, cut_iff.mpr rfl⟩

theorem answered_parse (cut : Cut line (head :: args)) (trading : head ∈ tradingWords) :
    Answered head args (parse line) := by
  rw [parse_of_cut cut]
  exact answered_ofWords trading

theorem parse_of_plain (cut : Cut line (head :: args)) (plain : head ∉ tradingWords) :
    parse line = .ok ((simple? head args).getD (.raw (String.ofList (Text.trim line.toList)))) := by
  rw [parse_of_cut cut, ofWords_of_plain plain]

theorem parse_eq_ok_cases (cut : Cut line (head :: args)) (read : parse line = .ok command) :
    command.Written (head :: args) ∨
      (head ∉ tradingWords ∧ args.length ∉ counts head ∧
        command = .raw (String.ofList (Text.trim line.toList))) := by
  by_cases trading : head ∈ tradingWords
  · have answered := answered_parse cut trading
    rw [read] at answered
    cases answered with
    | command written => exact .inl written
  · rw [parse_of_plain cut trading] at read
    cases simple : simple? head args with
    | none =>
        rw [simple] at read
        exact .inr ⟨trading, (simple?_eq_none_iff trading).mp simple, (Except.ok.inj read).symm⟩
    | some known =>
        rw [simple] at read
        cases read
        exact .inl (written_of_simple? simple)

theorem parse_eq_empty_iff : parse line = .ok .empty ↔ AllBlank line.toList := by
  constructor
  · intro read
    obtain ⟨words, cut⟩ := exists_cut line
    cases words with
    | nil => exact cut.2
    | cons head args =>
        rcases parse_eq_ok_cases cut read with written | ⟨-, -, kept⟩
        · cases written
        · cases kept
  · intro blank
    exact parse_of_cut_nil ⟨nofun, blank⟩

theorem parse_eq_command_iff (some : command ≠ .empty) (named : ∀ text, command ≠ .raw text) :
    parse line = .ok command ↔
      ∃ words, command.Written words ∧ (∀ text ∈ command.texts, Solid text.toList) ∧
        Laid (words.map String.toList) line.toList := by
  constructor
  · intro read
    obtain ⟨words, cut⟩ := exists_cut line
    cases words with
    | nil => exact absurd (Except.ok.inj (read.symm.trans (parse_of_cut_nil cut))) some
    | cons head args =>
        rcases parse_eq_ok_cases cut read with written | ⟨-, -, kept⟩
        · exact ⟨_, written, fun text member => cut.1 text (written.texts_subset member), cut.2⟩
        · exact absurd kept (named _)
  · rintro ⟨words, written, solid, laid⟩
    obtain ⟨head, args, rfl⟩ : ∃ head args, words = head :: args := by
      cases written <;> exact ⟨_, _, rfl⟩
    rw [parse_of_cut ⟨written.solid solid, laid⟩, written.ofWords]

theorem parse_eq_raw_iff {text : String} :
    parse line = .ok (.raw text) ↔
      Stripped line.toList text.toList ∧ ∃ head args, Cut line (head :: args) ∧
        head ∉ tradingWords ∧ args.length ∉ counts head := by
  have stripped : Stripped line.toList text.toList ↔
      text = String.ofList (Text.trim line.toList) := by
    rw [Text.stripped_iff]
    exact ⟨fun same => by simp [← same], fun same => by simp [same]⟩
  rw [stripped]
  constructor
  · intro read
    obtain ⟨words, cut⟩ := exists_cut line
    cases words with
    | nil => cases read.symm.trans (parse_of_cut_nil cut)
    | cons head args =>
        rcases parse_eq_ok_cases cut read with written | ⟨plain, miscounted, kept⟩
        · cases written
        · exact ⟨Command.raw.inj kept, head, args, cut, plain, miscounted⟩
  · rintro ⟨rfl, head, args, cut, plain, miscounted⟩
    rw [parse_of_plain cut plain, (simple?_eq_none_iff plain).mpr miscounted]
    rfl

/-- Every command but those for the exchange and for nothing is read from exactly the lines made of
its words. A trading word never begins a line for the exchange. -/
theorem grammar_exact (line : String) :
    (∃! words, Cut line words) ∧
    (∀ command : Command, command ≠ .empty → (∀ text, command ≠ .raw text) →
      (parse line = .ok command ↔
        ∃ words, command.Written words ∧ (∀ text ∈ command.texts, Solid text.toList) ∧
          Laid (words.map String.toList) line.toList)) ∧
    (parse line = .ok .empty ↔ AllBlank line.toList) ∧
    (∀ head args, Cut line (head :: args) → head ∈ tradingWords →
      (∀ text, parse line ≠ .ok (.raw text)) ∧
      ((∃ form, parse line = .error (.usage form)) ↔ args.length ∉ counts head) ∧
      (∀ word, parse line = .error (.invalidNumber word) ↔
        args.length ∈ counts head ∧ firstUnreadable? head args = some word) ∧
      (args.length ∈ counts head → firstUnreadable? head args = none →
        ∃ command : Command, command.Written (head :: args) ∧ parse line = .ok command)) ∧
    (∀ text, parse line = .ok (.raw text) ↔
      Stripped line.toList text.toList ∧ ∃ head args, Cut line (head :: args) ∧
        head ∉ tradingWords ∧ args.length ∉ counts head) := by
  obtain ⟨words, cut⟩ := exists_cut line
  refine ⟨⟨words, cut, fun others other => ?_⟩, fun command some named => ?_, parse_eq_empty_iff,
    fun head args cut trading => ?_, fun text => parse_eq_raw_iff⟩
  · exact (cut_iff.mp other).symm.trans (cut_iff.mp cut)
  · exact parse_eq_command_iff some named
  · exact (answered_parse cut trading).exact

example : parse "\u3000sell stop_limit\u00A01_0.50  5e1 " =
    .ok (.order "sell" "stop_limit" ⟨false, 1050, 2⟩ (some ⟨false, 50, 0⟩)) := by
  decide +kernel

end FeedBridge.Console
