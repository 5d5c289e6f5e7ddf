import FeedBridge.Console.Desk
import FeedBridge.Proofs.Basic
import FeedBridge.Proofs.Text.Words
import Mathlib.Tactic.SplitIfs

namespace FeedBridge

namespace Console

open Trading (Call Operation OrderError)

def orderParams? (instrument : String) (amount : Decimal) (price : Option Decimal)
    (type : String) : Option (List (String × Json)) :=
  let common := [("instrument_name", .string instrument),
    ("amount", Trading.Order.amountJson amount), ("type", .string type)]
  match type, price with
  | "market", _ => some common
  | "limit", some price => some (common ++ [("price", Trading.Order.amountJson price)])
  | "stop_market", some price =>
    some (common ++
      [("trigger", .string "last_price"), ("trigger_price", Trading.Order.amountJson price)])
  | "stop_limit", some price =>
    some (common ++
      [("price", Trading.Order.amountJson price), ("trigger", .string "last_price"),
        ("trigger_price", Trading.Order.amountJson price)])
  | _, _ => none

namespace Command

def wish? (instrument : String) : Command → Option (String × List (String × Json))
  | .order side type amount price =>
    if amount.isPositive then
      (orderParams? instrument amount price type).map fun params => ("private/" ++ side, params)
    else none
  | .cancel orderId => some ("private/cancel", [("order_id", .string orderId)])
  | .modify orderId price amount =>
    if amount.isPositive then
      some ("private/edit",
        [("order_id", .string orderId), ("amount", Trading.Order.amountJson amount),
          ("price", Trading.Order.amountJson price)])
    else none
  | .orders => some ("private/get_open_orders", [("type", .string "all")])
  | .state orderId => some ("private/get_order_state", [("order_id", .string orderId)])
  | .orderbook name =>
    some ("public/get_order_book",
      [("instrument_name", .string (name.getD instrument)), ("depth", .nat 1)])
  | .positions currency =>
    some ("private/get_positions", [("currency", .string (currency.getD "BTC"))])
  | .instruments currency kind =>
    some ("public/get_instruments",
      [("currency", .string (currency.getD "BTC")), ("kind", .string (kind.getD "future")),
        ("expired", .bool false)])
  | .instrument name =>
    some ("public/get_instrument", [("instrument_name", .string (name.getD instrument))])
  | .connect | .help | .quit | .raw _ | .empty => none

def call? (instrument : String) (command : Command) : Option Call :=
  (command.wish? instrument).map fun wish => ⟨wish.1, .ofMembers wish.2⟩

def label? : Command → Option String
  | order .. => some "Order"
  | cancel _ => some "Cancel"
  | modify .. => some "Modify"
  | orders => some "Active orders"
  | state _ => some "Order state"
  | orderbook _ => some "Order book"
  | positions _ => some "Positions"
  | instruments .. => some "Instruments"
  | instrument _ => some "Instrument"
  | connect | help | quit | raw _ | empty => none

def Spoken : Command → Prop
  | order side .. => side = "buy" ∨ side = "sell"
  | cancel orderId | modify orderId .. | state orderId => orderId ≠ ""
  | orderbook name | positions name | instrument name => name ≠ some ""
  | instruments currency kind => currency ≠ some "" ∧ kind ≠ some ""
  | connect | orders | help | quit | raw _ | empty => True

section

variable {head : String} {args : List String} {command : Command}

theorem readOrder_ok {side : String} (read : readOrder side args = .ok command) :
    ∃ type amount price, command = .order side type amount price := by
  unfold readOrder at read
  split at read
  next type amount =>
    obtain ⟨amount, -, same⟩ := bind_eq_ok.mp read
    exact ⟨type, amount, none, (Except.ok.inj same).symm⟩
  next type amount price =>
    obtain ⟨amount, -, read⟩ := bind_eq_ok.mp read
    obtain ⟨price, -, same⟩ := bind_eq_ok.mp read
    exact ⟨type, amount, some price, (Except.ok.inj same).symm⟩
  next => cases read

theorem readModify_ok (read : readModify args = .ok command) :
    ∃ orderId ∈ args, ∃ price amount, command = .modify orderId price amount := by
  unfold readModify at read
  split at read
  next orderId price amount =>
    obtain ⟨price, -, read⟩ := bind_eq_ok.mp read
    obtain ⟨amount, -, same⟩ := bind_eq_ok.mp read
    exact ⟨orderId, List.mem_cons_self, price, amount, (Except.ok.inj same).symm⟩
  next => cases read

theorem ofWords_cases {line : String} (read : ofWords line head args = .ok command) :
    ((head = "buy" ∨ head = "sell") ∧
      ∃ type amount price, command = .order head type amount price) ∨
    (∃ orderId ∈ args, command = .cancel orderId ∨ command = .state orderId ∨
      ∃ price amount, command = .modify orderId price amount) ∨
    simple? head args = some command ∨
    command = .raw line := by
  unfold ofWords at read
  split_ifs at read with order cancelling modifying asking
  · exact .inl ⟨by simpa using order, readOrder_ok read⟩
  · unfold readCancel at read
    split at read
    next orderId =>
      exact .inr (.inl ⟨orderId, List.mem_cons_self, .inl (Except.ok.inj read).symm⟩)
    next => cases read
  · obtain ⟨orderId, member, price, amount, same⟩ := readModify_ok read
    exact .inr (.inl ⟨orderId, member, .inr (.inr ⟨price, amount, same⟩)⟩)
  · unfold readState at read
    split at read
    next orderId =>
      exact .inr (.inl ⟨orderId, List.mem_cons_self, .inr (.inl (Except.ok.inj read).symm)⟩)
    next => cases read
  · cases simple : simple? head args with
    | none =>
        rw [simple] at read
        exact .inr (.inr (.inr (Except.ok.inj read).symm))
    | some known =>
        rw [simple] at read
        exact .inr (.inr (.inl (congrArg some (Except.ok.inj read))))

theorem spoken_of_simple (full : ∀ word ∈ args, word ≠ "")
    (read : simple? head args = some command) : command.Spoken := by
  unfold simple? at read
  split at read <;> cases read <;> simp_all [Spoken]

theorem simple?_ne_raw {text : String} : simple? head args ≠ some (.raw text) := by
  unfold simple?
  split <;> nofun

theorem spoken_of_words {line : String} (full : ∀ word ∈ args, word ≠ "")
    (read : ofWords line head args = .ok command) : command.Spoken := by
  rcases ofWords_cases read with ⟨side, type, amount, price, rfl⟩ |
    ⟨orderId, member, rfl | rfl | ⟨price, amount, rfl⟩⟩ | simple | rfl
  · exact side
  · exact full orderId member
  · exact full orderId member
  · exact full orderId member
  · exact spoken_of_simple full simple
  · exact True.intro

theorem spoken_of_parse {line : String} (read : parse line = .ok command) : command.Spoken := by
  unfold parse at read
  dsimp only at read
  split at read
  next => exact Except.ok.inj read ▸ True.intro
  next head args cut =>
    refine spoken_of_words (fun word member => ?_) read
    have among : word ∈ (Text.words (Text.trim line.toList)).map String.ofList :=
      cut ▸ List.mem_cons_of_mem _ member
    obtain ⟨w, here, rfl⟩ := List.mem_map.mp among
    simpa using (Text.solid_of_mem_words here).1

end

/-! ## The table is what the console submits -/

theorem action_label (instrument : String) (command : Command) (label : String) :
    command.label? = some label ↔
      ∃ operation, command.action instrument = .request label operation := by
  cases command <;> simp [label?, action, eq_comm]

end Command

def Yields (operation : Operation) : Option Call → Prop
  | some call => operation.call = .ok call
  | none => ∃ cause, (∀ field, cause ≠ OrderError.emptyField field) ∧ operation.call = .error cause

section

open Trading

variable {instrument : String}

theorem require_of_ne {field text : String} (full : text ≠ "") : require field text = .ok () := by
  simp [require, full]

theorem getD_ne {name : Option String} {usual : String} (full : name ≠ some "")
    (some : usual ≠ "") : name.getD usual ≠ "" := by
  cases name with
  | none => exact some
  | some name => simpa using full

theorem side_of_name {name : String} (known : name = "buy" ∨ name = "sell") :
    ∃ side, Side.ofName name = .ok side ∧ side.method = "private/" ++ name := by
  rcases known with rfl | rfl
  · exact ⟨.buy, rfl, rfl⟩
  · exact ⟨.sell, rfl, rfl⟩

theorem type_of_name (instrument name : String) :
    (∃ type, Trading.OrderType.ofName name = .ok type ∧ name = type.name) ∨
    (Trading.OrderType.ofName name = .error (.invalidType name) ∧
      ∀ amount price, orderParams? instrument amount price name = none) := by
  unfold Trading.OrderType.ofName
  split_ifs with market limit stopMarket stopLimit
  · exact .inl ⟨.market, rfl, market⟩
  · exact .inl ⟨.limit, rfl, limit⟩
  · exact .inl ⟨.stopMarket, rfl, stopMarket⟩
  · exact .inl ⟨.stopLimit, rfl, stopLimit⟩
  · -- A name that is none of the four has no row in the table either.
    refine .inr ⟨rfl, fun amount price => ?_⟩
    unfold orderParams?
    split <;> first | rfl | contradiction

theorem usedPrice_ne_emptyField {type : Trading.OrderType} {price : Option Decimal} (field : String) :
    usedPrice type price ≠ .error (.emptyField field) := by
  unfold usedPrice
  split_ifs
  · cases price <;> nofun
  · nofun

theorem orderParams_of_type (type : Trading.OrderType) (side : Side) (amount : Decimal)
    (price : Option Decimal) :
    orderParams? instrument amount price type.name =
      (usedPrice type price).toOption.map fun price => Order.params {
        side, instrument, amount, type
        limitPrice := if type.hasLimit then price else none
        triggerPrice := if type.isStop then price else none
        reduceOnly := false } := by
  cases type <;> cases price <;> rfl

theorem yields_order {name : String} (known : name = "buy" ∨ name = "sell")
    (named : instrument ≠ "") (type : String) (amount : Decimal) (price : Option Decimal) :
    Yields (.placeOrder instrument name type amount price false)
      ((Command.order name type amount price).call? instrument) := by
  obtain ⟨side, sided, method⟩ := side_of_name known
  -- Of the five checks of an order, those of its side and its instrument cannot fail here.
  have asked : (Operation.placeOrder instrument name type amount price false).call = do
      let type ← Trading.OrderType.ofName type
      requirePositive amount
      let price ← usedPrice type price
      let order : Order := {
        side, instrument, amount, type
        limitPrice := if type.hasLimit then price else none
        triggerPrice := if type.isStop then price else none
        reduceOnly := false }
      return ⟨order.side.method, .ofMembers order.params⟩ := by
    simp only [Operation.call, Order.compose, sided, require_of_ne named, bind, Except.bind]
    cases Trading.OrderType.ofName type with
    | error cause => rfl
    | ok type =>
        cases requirePositive amount with
        | error cause => rfl
        | ok _ => cases price' : usedPrice type price <;> simp [price', pure, Except.pure]
  have entry : (Command.order name type amount price).call? instrument =
      if amount.isPositive then
        (orderParams? instrument amount price type).map fun params =>
          ⟨side.method, .ofMembers params⟩
      else none := by
    simp only [Command.call?, Command.wish?, method]
    split_ifs <;> simp [Function.comp_def]
  rw [entry]
  rcases type_of_name instrument type with ⟨kind, typed, rfl⟩ | ⟨untyped, missing⟩
  · split_ifs with positive
    · rw [orderParams_of_type kind side]
      cases used : usedPrice kind price with
      | error cause =>
          refine ⟨cause, fun field same => ?_, ?_⟩
          · exact usedPrice_ne_emptyField field (same ▸ used)
          · simp [asked, typed, requirePositive, positive, used, bind, Except.bind]
      | ok price =>
          simp [Yields, asked, typed, requirePositive, positive, used, Except.toOption, bind,
            Except.bind, pure, Except.pure]
    · refine ⟨.invalidAmount amount, nofun, ?_⟩
      simp [asked, typed, requirePositive, positive, bind, Except.bind]
  · have nothing : (if amount.isPositive then (orderParams? instrument amount price type).map
        fun params => (⟨side.method, .ofMembers params⟩ : Call) else none) = none := by
      simp [missing]
    rw [nothing]
    exact ⟨.invalidType type, nofun, by simp [asked, untyped, bind, Except.bind]⟩

theorem yields_modify {orderId : String} (full : orderId ≠ "") (price amount : Decimal) :
    Yields (.modifyOrder orderId price amount)
      ((Command.modify orderId price amount).call? instrument) := by
  have entry : (Command.modify orderId price amount).call? instrument =
      if amount.isPositive then
        some ⟨"private/edit", .ofMembers (Amendment.params ⟨orderId, amount, price⟩)⟩
      else none := by
    simp only [Command.call?, Command.wish?]
    split_ifs <;> rfl
  rw [entry]
  split_ifs with positive
  · simp [Yields, Operation.call, Amendment.compose, require_of_ne full, requirePositive, positive,
      bind, Except.bind, pure, Except.pure]
  · refine ⟨.invalidAmount amount, nofun, ?_⟩
    simp [Operation.call, Amendment.compose, require_of_ne full, requirePositive, positive, bind,
      Except.bind]

end

namespace Command

theorem yields_action {command : Command} {instrument label : String} {operation : Operation}
    (spoken : command.Spoken) (named : instrument ≠ "")
    (asked : command.action instrument = .request label operation) :
    Yields operation (command.call? instrument) := by
  cases command with
  | order side type amount price =>
      cases asked
      exact yields_order spoken named type amount price
  | modify orderId price amount =>
      cases asked
      exact yields_modify spoken price amount
  | cancel orderId | state orderId =>
      cases asked
      show _ = _
      simp [Operation.call, require_of_ne spoken, bind, Except.bind, pure, Except.pure]
  | orders =>
      cases asked
      rfl
  | orderbook name | instrument name =>
      cases asked
      have full := getD_ne spoken named
      show _ = _
      simp [Operation.call, require_of_ne full, bind, Except.bind, pure, Except.pure]
  | positions currency =>
      cases asked
      have full : currency.getD defaultCurrency ≠ "" := getD_ne spoken (by decide)
      show _ = _
      simp only [Operation.call, require_of_ne full, bind, Except.bind]
      rfl
  | instruments currency kind =>
      cases asked
      have full : currency.getD defaultCurrency ≠ "" := getD_ne spoken.1 (by decide)
      have full' : kind.getD defaultKind ≠ "" := getD_ne spoken.2 (by decide)
      show _ = _
      simp only [Operation.call, require_of_ne full, require_of_ne full', bind, Except.bind]
      rfl
  | connect | help | quit | raw text | empty => cases asked

end Command

def endsSession (line : String) : Bool :=
  match Command.parse line with
  | .ok .quit => true
  | _ => false

def command? (line : String) : Option Command := (Command.parse line).toOption

/-- The call that a line asks for, at a console with a default instrument. -/
def callOf? (instrument line : String) : Option Call :=
  (command? line).bind (·.call? instrument)

def labelOf? (line : String) : Option String := (command? line).bind Command.label?

def rawOf? (line : String) : Option String :=
  match Command.parse line with
  | .ok (.raw _) => some (String.ofList (Text.trim line.toList))
  | _ => none

variable {instrument line label text : String} {operation : Operation}

theorem labelOf?_eq_some (instrument : String) :
    labelOf? line = some label ↔
      ∃ operation, actionOf instrument line = .request label operation := by
  unfold labelOf? command? actionOf
  cases Command.parse line with
  | error cause => simp [Except.toOption]
  | ok command => simpa [Except.toOption] using command.action_label instrument label

theorem callOf?_eq_none (unasked : labelOf? line = none) : callOf? instrument line = none := by
  unfold callOf?
  unfold labelOf? at unasked
  cases asked : command? line with
  | none => rfl
  | some command =>
      rw [asked] at unasked
      cases command <;> first | rfl | cases unasked

theorem yields_of_line (named : instrument ≠ "")
    (asked : actionOf instrument line = .request label operation) :
    Yields operation (callOf? instrument line) := by
  unfold actionOf at asked
  cases parsed : Command.parse line with
  | error cause => simp [parsed] at asked
  | ok command =>
      rw [parsed] at asked
      have entry : callOf? instrument line = command.call? instrument := by
        simp [callOf?, command?, parsed, Except.toOption]
      rw [entry]
      exact Command.yields_action (Command.spoken_of_parse parsed) named asked

theorem actionOf_eq_quit : actionOf instrument line = .quit ↔ endsSession line = true := by
  unfold actionOf endsSession
  cases Command.parse line with
  | error cause => simp
  | ok command => cases command <;> simp [Command.action]

theorem raw_trimmed (parsed : Command.parse line = .ok (.raw text)) :
    text = String.ofList (Text.trim line.toList) := by
  unfold Command.parse at parsed
  dsimp only at parsed
  split at parsed
  next => cases parsed
  next head args cut =>
    rcases Command.ofWords_cases parsed with ⟨-, type, amount, price, order⟩ |
      ⟨orderId, -, cancel | state | ⟨price, amount, modify⟩⟩ | simple | raw
    · cases order
    · cases cancel
    · cases state
    · cases modify
    · exact absurd simple Command.simple?_ne_raw
    · exact Command.raw.inj raw

theorem rawOf?_eq_some (instrument : String) :
    rawOf? line = some text ↔ actionOf instrument line = .forward text := by
  unfold actionOf rawOf?
  cases parsed : Command.parse line with
  | error cause => simp
  | ok command =>
      cases command
      case raw kept => simp [Command.action, raw_trimmed parsed]
      all_goals simp [Command.action]

end Console

end FeedBridge
