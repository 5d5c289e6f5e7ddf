import FeedBridge.Proofs.Json.Members
import FeedBridge.Proofs.Number.Amounts
import FeedBridge.Trading.Order

namespace FeedBridge.Trading

structure Check where
  holds : Prop
  complaint : OrderError

inductive FirstViolated : List Check → OrderError → Prop
  | here {check : Check} {rest : List Check} (violated : ¬check.holds) :
      FirstViolated (check :: rest) check.complaint
  | later {check : Check} {rest : List Check} {cause : OrderError} (passed : check.holds)
      (violated : FirstViolated rest cause) : FirstViolated (check :: rest) cause

def AllHold (checks : List Check) : Prop := ∀ check ∈ checks, check.holds

section

variable {checks rest : List Check} {check : Check} {cause other : OrderError}

@[simp] theorem allHold_nil : AllHold [] := nofun

@[simp] theorem allHold_cons : AllHold (check :: rest) ↔ check.holds ∧ AllHold rest :=
  List.forall_mem_cons

@[simp] theorem not_firstViolated_nil : ¬FirstViolated [] cause := nofun

@[simp] theorem firstViolated_cons : FirstViolated (check :: rest) cause ↔
    (¬check.holds ∧ cause = check.complaint) ∨ (check.holds ∧ FirstViolated rest cause) := by
  constructor
  · rintro (violated | ⟨passed, violated⟩)
    · exact .inl ⟨violated, rfl⟩
    · exact .inr ⟨passed, violated⟩
  · rintro (⟨violated, rfl⟩ | ⟨passed, violated⟩)
    · exact .here violated
    · exact .later passed violated

theorem firstViolated_append : FirstViolated (checks ++ rest) cause ↔
    FirstViolated checks cause ∨ (AllHold checks ∧ FirstViolated rest cause) := by
  induction checks with
  | nil => simp
  | cons check more ih =>
      rw [List.cons_append, firstViolated_cons, firstViolated_cons, allHold_cons, ih]
      tauto

theorem FirstViolated.not_allHold (violated : FirstViolated checks cause) : ¬AllHold checks := by
  induction violated with
  | here violated => exact fun all => violated (allHold_cons.mp all).1
  | later passed violated ih => exact fun all => ih (allHold_cons.mp all).2

theorem allHold_or_firstViolated (checks : List Check) :
    AllHold checks ∨ ∃ cause, FirstViolated checks cause := by
  induction checks with
  | nil => exact .inl allHold_nil
  | cons check rest ih =>
      by_cases passed : check.holds
      · rcases ih with all | ⟨cause, violated⟩
        · exact .inl (allHold_cons.mpr ⟨passed, all⟩)
        · exact .inr ⟨cause, .later passed violated⟩
      · exact .inr ⟨_, .here passed⟩

end

structure Follows {α : Type} (result : Except OrderError α) (checks : List Check)
    (good : α → Prop) : Prop where
  fails : ∀ cause, FirstViolated checks cause → result = .error cause
  succeeds : AllHold checks → ∃ value, result = .ok value ∧ good value

namespace Follows

variable {α β : Type} {result : Except OrderError α} {checks rest : List Check} {good : α → Prop}
  {next : α → Except OrderError β} {better : β → Prop}

theorem ok {value : α} (fine : good value) : Follows (.ok value) [] good :=
  ⟨nofun, fun _ => ⟨value, rfl, fine⟩⟩

theorem ofCheck {check : Check} (fails : ¬check.holds → result = .error check.complaint)
    (succeeds : check.holds → ∃ value, result = .ok value ∧ good value) :
    Follows result [check] good := by
  refine ⟨fun cause violated => ?_, fun all => succeeds (allHold_cons.mp all).1⟩
  cases violated with
  | here violated => exact fails violated
  | later passed violated => cases violated

theorem bind (follows : Follows result checks good)
    (further : ∀ value, good value → Follows (next value) rest better) :
    Follows (result >>= next) (checks ++ rest) better := by
  refine ⟨fun cause violated => ?_, fun all => ?_⟩
  · rcases firstViolated_append.mp violated with early | ⟨all, late⟩
    · rw [follows.fails cause early]
      rfl
    · obtain ⟨value, rfl, fine⟩ := follows.succeeds all
      exact (further value fine).fails cause late
  · obtain ⟨value, rfl, fine⟩ :=
      follows.succeeds fun check listed => all check (List.mem_append_left _ listed)
    exact (further value fine).succeeds fun check listed =>
      all check (List.mem_append_right _ listed)

theorem error_iff (follows : Follows result checks good) (cause : OrderError) :
    result = .error cause ↔ FirstViolated checks cause := by
  refine ⟨fun failed => ?_, follows.fails cause⟩
  rcases allHold_or_firstViolated checks with all | ⟨other, violated⟩
  · obtain ⟨value, succeeded, -⟩ := follows.succeeds all
    rw [succeeded] at failed
    cases failed
  · rw [follows.fails other violated] at failed
    cases failed
    exact violated

theorem ok_iff (follows : Follows result checks good) :
    (∃ value, result = .ok value) ↔ AllHold checks := by
  refine ⟨fun ⟨value, succeeded⟩ => ?_, fun all => ?_⟩
  · rcases allHold_or_firstViolated checks with all | ⟨cause, violated⟩
    · exact all
    · rw [follows.fails cause violated] at succeeded
      cases succeeded
  · obtain ⟨value, succeeded, -⟩ := follows.succeeds all
    exact ⟨value, succeeded⟩

theorem good_of_ok (follows : Follows result checks good) {value : α}
    (succeeded : result = .ok value) : good value := by
  obtain ⟨other, same, fine⟩ := follows.succeeds (follows.ok_iff.mp ⟨value, succeeded⟩)
  rw [succeeded] at same
  cases same
  exact fine

end Follows

namespace Check

def side (text : String) : Check := ⟨text = "buy" ∨ text = "sell", .invalidSide text⟩

def type (text : String) : Check :=
  ⟨text ∈ ["market", "limit", "stop_market", "stop_limit"], .invalidType text⟩

def nonempty (field text : String) : Check := ⟨text ≠ "", .emptyField field⟩

def positive (amount : Decimal) : Check := ⟨0 < amount.value, .invalidAmount amount⟩

def priced (text : String) (price : Option Decimal) : List Check :=
  [OrderType.limit, .stopMarket, .stopLimit].map fun type =>
    ⟨text = type.name → price.isSome, .missingPrice type⟩

end Check

theorem Side.ofName_follows (text : String) :
    Follows (ofName text) [.side text] (·.name = text) := by
  refine Follows.ofCheck (fun violated => ?_) ?_
  · obtain ⟨noBuy, noSell⟩ := not_or.mp violated
    simp only [ofName, if_neg noBuy, if_neg noSell, Check.side]
  · rintro (rfl | rfl)
    · exact ⟨.buy, rfl, rfl⟩
    · exact ⟨.sell, rfl, rfl⟩

theorem OrderType.ofName_follows (text : String) :
    Follows (ofName text) [.type text] (·.name = text) := by
  refine Follows.ofCheck (fun violated => ?_) (fun passed => ?_)
  · simp only [Check.type, List.mem_cons, List.not_mem_nil, or_false, not_or] at violated
    obtain ⟨noMarket, noLimit, noStopMarket, noStopLimit⟩ := violated
    simp only [ofName, if_neg noMarket, if_neg noLimit, if_neg noStopMarket, if_neg noStopLimit,
      Check.type]
  · simp only [Check.type, List.mem_cons, List.not_mem_nil, or_false] at passed
    rcases passed with rfl | rfl | rfl | rfl
    · exact ⟨.market, rfl, rfl⟩
    · exact ⟨.limit, rfl, rfl⟩
    · exact ⟨.stopMarket, rfl, rfl⟩
    · exact ⟨.stopLimit, rfl, rfl⟩

theorem require_follows (field text : String) :
    Follows (require field text) [.nonempty field text] fun _ => True := by
  unfold require
  refine Follows.ofCheck (fun violated => ?_) (fun passed => ⟨(), ?_, trivial⟩)
  · have empty : text = "" := not_not.mp violated
    simp [empty, Check.nonempty]
  · have written : text ≠ "" := passed
    simp [written]

theorem requirePositive_follows (amount : Decimal) :
    Follows (requirePositive amount) [.positive amount] fun _ => True := by
  have holds : (Check.positive amount).holds ↔ amount.isPositive = true :=
    (Decimal.isPositive_iff amount).symm
  unfold requirePositive
  refine Follows.ofCheck (fun violated => ?_) (fun passed => ⟨(), ?_, trivial⟩)
  · rw [if_neg (mt holds.mpr violated)]
    rfl
  · rw [if_pos (holds.mp passed)]

theorem usedPrice_follows (type : OrderType) (price : Option Decimal) :
    Follows (usedPrice type price) (Check.priced type.name price)
      (· = if type.needsPrice then price else none) := by
  cases price with
  | some price =>
      have all : AllHold (Check.priced type.name (some price)) := by simp [Check.priced]
      refine ⟨fun cause violated => absurd all violated.not_allHold, fun _ => ⟨_, ?_, rfl⟩⟩
      cases type <;> rfl
  | none =>
      -- No price is missed by a market order, and by any other one its own check complains.
      cases type with
      | market => exact ⟨by simp [Check.priced, OrderType.name], fun _ => ⟨none, rfl, rfl⟩⟩
      | limit | stopMarket | stopLimit =>
          refine ⟨fun cause violated => ?_, by simp [Check.priced, OrderType.name]⟩
          simp only [Check.priced, OrderType.name, List.map_cons, List.map_nil] at violated
          simp at violated
          rw [violated]
          rfl

/-! ## Orders -/

namespace Order

section

variable (instrument side type : String) (amount : Decimal) (price : Option Decimal)
  (reduceOnly : Bool)

/-- What the arguments of an order must satisfy, in the order in which it is checked. -/
def checks : List Check :=
  .side side :: .type type :: .nonempty "instrument" instrument :: .positive amount ::
    Check.priced type price

def memberIf (condition : Bool) (key : String) (value : Option Json) : List (String × Json) :=
  if condition then value.toList.map fun value => (key, value) else []

def rests : Bool := type = "limit" || type = "stop_limit"

def waits : Bool := type = "stop_market" || type = "stop_limit"

def members : List (String × Json) :=
  [("instrument_name", .string instrument), ("amount", amountJson amount), ("type", .string type)] ++
    memberIf (rests type) "price" (price.map amountJson) ++
    memberIf (waits type) "trigger" (some (.string "last_price")) ++
    memberIf (waits type) "trigger_price" (price.map amountJson) ++
    memberIf reduceOnly "reduce_only" (some (.bool true))

structure Composed (o : Order) : Prop where
  limitPrice : o.limitPrice = if rests type then price else none
  triggerPrice : o.triggerPrice = if waits type then price else none
  side : o.side.name = side
  instrument : o.instrument = instrument
  type : o.type.name = type
  amount : o.amount = amount
  reduceOnly : o.reduceOnly = reduceOnly

variable {instrument side type amount price reduceOnly}

theorem compose_follows : Follows (compose instrument side type amount price reduceOnly)
    (checks instrument side type amount price)
    (Composed instrument side type amount price reduceOnly) := by
  have inRow : checks instrument side type amount price =
      [.side side] ++ ([.type type] ++ ([.nonempty "instrument" instrument] ++
        ([.positive amount] ++ (Check.priced type price ++ [])))) := by
    simp [checks]
  rw [inRow]
  refine (Side.ofName_follows side).bind fun s named => ?_
  refine (OrderType.ofName_follows type).bind fun t typed => ?_
  refine (require_follows "instrument" instrument).bind fun _ _ => ?_
  refine (requirePositive_follows amount).bind fun _ _ => ?_
  subst typed
  refine (usedPrice_follows t price).bind fun used same => ?_
  subst same
  refine Follows.ok ⟨?_, ?_, named, rfl, rfl, rfl, rfl⟩
  · cases t <;> rfl
  · cases t <;> rfl

theorem waits_name (t : OrderType) : waits t.name = t.isStop := by
  cases t <;> rfl

theorem priceMember_if (condition : Bool) (key : String) (price : Option Decimal) :
    priceMember key (if condition then price else none) =
      memberIf condition key (price.map amountJson) := by
  cases condition <;> cases price <;> rfl

theorem Composed.params_eq {o : Order}
    (composed : Composed instrument side type amount price reduceOnly o) :
    o.params = members instrument type amount price reduceOnly := by
  obtain ⟨limitPrice, triggerPrice, -, sameInstrument, sameType, sameAmount, sameFlag⟩ := composed
  unfold params members
  rw [limitPrice, triggerPrice, priceMember_if, priceMember_if, sameInstrument, sameType, sameAmount,
    sameFlag, ← waits_name, sameType]
  rfl

theorem keys_memberIf (condition : Bool) (key : String) (value : Option Json) :
    ((memberIf condition key value).map Prod.fst).Sublist [key] := by
  cases condition <;> cases value <;> simp [memberIf]

theorem distinct_members :
    ((members instrument type amount price reduceOnly).map Prod.fst).Nodup := by
  have all : ["instrument_name", "amount", "type", "price", "trigger", "trigger_price",
      "reduce_only"].Nodup := by decide
  refine all.sublist ?_
  simp only [members, List.map_append]
  exact ((((List.Sublist.refl ["instrument_name", "amount", "type"]).append
    (keys_memberIf _ _ _)).append (keys_memberIf _ _ _)).append (keys_memberIf _ _ _)).append
      (keys_memberIf _ _ _)

theorem allHold_checks : AllHold (checks instrument side type amount price) ↔
    (side = "buy" ∨ side = "sell") ∧
      (type = "market" ∨ type = "limit" ∨ type = "stop_market" ∨ type = "stop_limit") ∧
      instrument ≠ "" ∧ 0 < amount.value ∧ (type = "market" ∨ price.isSome) := by
  have priced (named : type = "market" ∨ type = "limit" ∨ type = "stop_market" ∨
      type = "stop_limit") :
      AllHold (Check.priced type price) ↔ type = "market" ∨ price.isSome := by
    rcases named with rfl | rfl | rfl | rfl <;> simp [Check.priced, OrderType.name]
  simp only [checks, allHold_cons, Check.side, Check.type, Check.nonempty, Check.positive,
    List.mem_cons, List.not_mem_nil, or_false]
  exact and_congr_right fun _ => and_congr_right fun named =>
    and_congr_right fun _ => and_congr_right fun _ => priced named

theorem isSome_prices {o : Order}
    (composed : Composed instrument side type amount price reduceOnly o)
    (passed : AllHold (checks instrument side type amount price)) :
    (o.limitPrice.isSome ↔ type = "limit" ∨ type = "stop_limit") ∧
      (o.triggerPrice.isSome ↔ type = "stop_market" ∨ type = "stop_limit") := by
  obtain ⟨-, -, -, -, priced⟩ := allHold_checks.mp passed
  rw [composed.limitPrice, composed.triggerPrice]
  rcases priced with rfl | given
  · simp [rests, waits]
  · simp [rests, waits, apply_ite, given]

/-- The members of an order, one by one: those that not every order has are there with the part
that they stand for. -/
structure Sent (o : Order) (encoded : Json) : Prop where
  instrument : encoded.get? "instrument_name" = some (.string o.instrument)
  amount : encoded.get? "amount" = some (amountJson o.amount)
  type : encoded.get? "type" = some (.string o.type.name)
  price : encoded.get? "price" = o.limitPrice.map amountJson
  trigger : encoded.get? "trigger" = o.triggerPrice.map fun _ => .string "last_price"
  triggerPrice : encoded.get? "trigger_price" = o.triggerPrice.map amountJson
  reduceOnly : encoded.get? "reduce_only" = if o.reduceOnly then some (.bool true) else none

theorem sent_of_triggered {o : Order} (triggered : o.type.isStop = o.triggerPrice.isSome) :
    o.Sent (.ofMembers o.params) := by
  obtain ⟨side, instrument, amount, type, limit, trigger, reduceOnly⟩ := o
  dsimp only at triggered
  -- Seven look-ups in a list that depends on which of the three optional parts are there.
  constructor <;> rw [Json.get?_ofMembers] <;>
    cases limit <;> cases trigger <;> cases reduceOnly <;>
    simp [params, priceMember, triggered, List.lookup_cons]

/-- The arguments of an order are checked in a fixed sequence, and the first one that is no good is
what is complained about; if all are good the order is made of them. Its price stands as its limit,
as its trigger, or as both, as its type wants it, and the object that is sent has the members of
just these parts. The price given with a market order makes no difference. -/
theorem composition_exact (instrument side type : String) (amount : Decimal)
    (price : Option Decimal) (reduceOnly : Bool) :
    let result := compose instrument side type amount price reduceOnly
    ((∃ o, result = .ok o) ↔ (side = "buy" ∨ side = "sell") ∧
      (type = "market" ∨ type = "limit" ∨ type = "stop_market" ∨ type = "stop_limit") ∧
      instrument ≠ "" ∧ 0 < amount.value ∧ (type = "market" ∨ price.isSome)) ∧
    (∀ cause, result = .error cause ↔
      FirstViolated (checks instrument side type amount price) cause) ∧
    (∀ o, result = .ok o → Composed instrument side type amount price reduceOnly o ∧
      (o.limitPrice.isSome ↔ type = "limit" ∨ type = "stop_limit") ∧
      (o.triggerPrice.isSome ↔ type = "stop_market" ∨ type = "stop_limit") ∧
      o.params = members instrument type amount price reduceOnly ∧
      (Json.ofMembers o.params).IsObjectOf o.params ∧
      o.Sent (.ofMembers o.params)) ∧
    (type = "market" → ∀ other, compose instrument side type amount other reduceOnly = result) := by
  intro result
  have follows : Follows result _ _ := compose_follows
  refine ⟨follows.ok_iff.trans allHold_checks, follows.error_iff, fun o composes => ?_, ?_⟩
  · have composed := follows.good_of_ok composes
    have passed := follows.ok_iff.mp ⟨o, composes⟩
    obtain ⟨limits, triggers⟩ := isSome_prices composed passed
    have sent := composed.params_eq
    refine ⟨composed, limits, triggers, sent, Json.isObjectOf_ofMembers ?_, sent_of_triggered ?_⟩
    · rw [sent]
      exact distinct_members
    · rw [← waits_name, composed.type, Bool.eq_iff_iff, triggers]
      simp [waits]
  · rintro rfl other
    rfl

end

end Order

theorem Amendment.compose_follows (orderId : String) (price amount : Decimal) :
    Follows (compose orderId price amount) [.nonempty "order_id" orderId, .positive amount]
      (· = ⟨orderId, amount, price⟩) :=
  (require_follows "order_id" orderId).bind fun _ _ =>
    (requirePositive_follows amount).bind fun _ _ => Follows.ok rfl

end FeedBridge.Trading
