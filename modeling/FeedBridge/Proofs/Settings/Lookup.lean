import FeedBridge.Proofs.Basic
import FeedBridge.Proofs.Number.Figures
import FeedBridge.Settings.Basic
import Mathlib.Data.List.DropRight

namespace FeedBridge.Settings

variable {lookup other : Lookup} {key value primary : String} {keys others : List String}

/-- The first key of a list that is set, with its value. -/
def FirstSet (lookup : Lookup) (keys : List String) (key value : String) : Prop :=
  ∃ passed others, keys = passed ++ key :: others ∧ lookup key = some value ∧
    ∀ earlier ∈ passed, lookup earlier = none

theorem firstSet?_eq_some_iff :
    firstSet? lookup keys = some (key, value) ↔ FirstSet lookup keys key value := by
  unfold firstSet? FirstSet
  simp only [List.findSome?_eq_some_iff, Option.map_eq_some_iff, Option.map_eq_none_iff,
    Prod.mk.injEq]
  constructor
  · rintro ⟨passed, a, others, split, ⟨found, set, rfl, rfl⟩, earlier⟩
    exact ⟨passed, others, split, set, earlier⟩
  · rintro ⟨passed, others, split, set, earlier⟩
    exact ⟨passed, key, others, split, ⟨value, set, rfl, rfl⟩, earlier⟩

theorem firstSet?_eq_none_iff : firstSet? lookup keys = none ↔ ∀ key ∈ keys, lookup key = none := by
  simp [firstSet?]

theorem firstSet?_congr (same : ∀ key ∈ keys, other key = lookup key) :
    firstSet? other keys = firstSet? lookup keys := by
  induction keys with
  | nil => rfl
  | cons key keys ih =>
      obtain ⟨first, rest⟩ := List.forall_mem_cons.mp same
      simp only [firstSet?, List.findSome?_cons, first] at ih ⊢
      rw [ih rest]

def Filled (lookup : Lookup) (keys : List String) : Prop :=
  ∃ key value, FirstSet lookup keys key value ∧ value ≠ ""

/-- What is wrong where that is not so. -/
inductive Lacks (lookup : Lookup) (primary : String) (others : List String) : SettingsError → Prop
  | missing (unset : ∀ key ∈ primary :: others, lookup key = none) :
      Lacks lookup primary others (.missing primary)
  | empty {key : String} (set : FirstSet lookup (primary :: others) key "") :
      Lacks lookup primary others (.empty key)

theorem required_eq_ok_iff :
    required lookup primary others = .ok value ↔
      value ≠ "" ∧ ∃ key, FirstSet lookup (primary :: others) key value := by
  unfold required
  simp only [← firstSet?_eq_some_iff]
  cases firstSet? lookup (primary :: others) with
  | none => simp
  | some found =>
      obtain ⟨key, text⟩ := found
      by_cases empty : text = ""
      · simp [empty]
      · simpa [empty] using fun same => same ▸ empty

theorem required_eq_error_iff {e : SettingsError} :
    required lookup primary others = .error e ↔ Lacks lookup primary others e := by
  unfold required
  cases found : firstSet? lookup (primary :: others) with
  | none =>
      constructor
      · rintro ⟨⟩
        exact .missing (firstSet?_eq_none_iff.mp found)
      · rintro (unset | set)
        · rfl
        · cases found.symm.trans (firstSet?_eq_some_iff.mpr set)
  | some first =>
      obtain ⟨key, text⟩ := first
      have set := firstSet?_eq_some_iff.mp found
      by_cases empty : text = ""
      · subst empty
        constructor
        · rintro ⟨⟩
          exact .empty set
        · rintro (unset | again)
          · cases found.symm.trans (firstSet?_eq_none_iff.mpr unset)
          · cases found.symm.trans (firstSet?_eq_some_iff.mpr again)
            rfl
      · have filled : text.isEmpty = false := by simpa using empty
        simp only [filled, Bool.false_eq_true, if_false, reduceCtorEq, false_iff]
        rintro (unset | again)
        · cases found.symm.trans (firstSet?_eq_none_iff.mpr unset)
        · cases found.symm.trans (firstSet?_eq_some_iff.mpr again)
          exact empty rfl

theorem filled_iff :
    Filled lookup (primary :: others) ↔ ∃ value, required lookup primary others = .ok value := by
  simp only [required_eq_ok_iff, Filled]
  exact ⟨fun ⟨key, value, set, filled⟩ => ⟨value, filled, key, set⟩,
    fun ⟨value, filled, key, set⟩ => ⟨key, value, set, filled⟩⟩

theorem required_congr (same : ∀ key ∈ primary :: others, other key = lookup key) :
    required other primary others = required lookup primary others := by
  rw [required, required, firstSet?_congr same]

theorem textOr_ne {usual : String} (some : usual ≠ "") : textOr lookup key usual ≠ "" := by
  unfold textOr
  cases lookup key with
  | none => exact some
  | some value =>
      dsimp only
      split_ifs with empty
      · exact some
      · simpa using empty

theorem textOr_of_empty (set : lookup key = some "") (default : String) :
    textOr lookup key default = default := by
  simp [textOr, set]

theorem readOr_of_unread {α : Type} {read : List Char → Option α}
    (unread : ∀ value, lookup key = some value → read (Text.trim value.toList) = none)
    (default : α) : readOr lookup key read default = default := by
  unfold readOr
  cases set : lookup key with
  | none => rfl
  | some value => simp [unread value set]

def Numeral (bound n : Nat) (cs : List Char) : Prop :=
  n < bound ∧ ∃ sign figures digits, cs = sign ++ figures ∧ (sign = [] ∨ sign = ['+']) ∧
    figures ≠ [] ∧ Digits digits figures ∧ ofDigits digits = n

theorem natBelow?_eq_some_iff {bound n : Nat} {cs : List Char} :
    natBelow? bound cs = some n ↔ Numeral bound n cs := by
  have below (figures : List Char) :
      ((natOfDigits? figures).bind fun m => if m < bound then some m else none) = some n ↔
        n < bound ∧ figures ≠ [] ∧ ∃ digits, Digits digits figures ∧ ofDigits digits = n := by
    rw [← natOfDigits?_eq_some_iff, Option.bind_eq_some_iff]
    constructor
    · rintro ⟨m, read, same⟩
      split_ifs at same with small
      cases same
      exact ⟨small, read⟩
    · rintro ⟨small, read⟩
      exact ⟨n, read, if_pos small⟩
  unfold natBelow?
  constructor
  · intro read
    split at read
    · next rest =>
        obtain ⟨small, nonempty, digits, spelled, sum⟩ := (below rest).mp read
        exact ⟨small, ['+'], rest, digits, rfl, .inr rfl, nonempty, spelled, sum⟩
    · obtain ⟨small, nonempty, digits, spelled, sum⟩ := (below cs).mp read
      exact ⟨small, [], cs, digits, rfl, .inl rfl, nonempty, spelled, sum⟩
  · rintro ⟨small, sign, figures, digits, rfl, rfl | rfl, nonempty, spelled, sum⟩
    · have read := (below figures).mpr ⟨small, nonempty, digits, spelled, sum⟩
      split
      -- A plus sign is not a digit.
      · next rest split =>
          rw [List.nil_append] at split
          subst split
          cases spelled with
          | cons digit _ => cases digit
      · exact read
    · exact (below figures).mpr ⟨small, nonempty, digits, spelled, sum⟩

theorem natOr_of_numeral {bound n : Nat} (set : lookup key = some value)
    (numeral : Numeral bound n (Text.trim value.toList)) (default : Nat) :
    natOr lookup key bound default = n := by
  simp [natOr, readOr, set, natBelow?_eq_some_iff.mpr numeral]

theorem natOr_of_unread {bound : Nat}
    (unread : ∀ value n, lookup key = some value → ¬ Numeral bound n (Text.trim value.toList))
    (default : Nat) : natOr lookup key bound default = default := by
  refine readOr_of_unread (fun value set => ?_) default
  rw [Option.eq_none_iff_forall_ne_some]
  exact fun n read => unread value n set (natBelow?_eq_some_iff.mp read)

/-! ## The base of addresses -/

theorem trimSlashes_toList (s : String) :
    (trimSlashes s).toList = s.toList.rdropWhile (· = '/') :=
  String.toList_ofList

theorem trimSlashes_spec (s : String) :
    (∃ slashes, s.toList = (trimSlashes s).toList ++ slashes ∧ ∀ c ∈ slashes, c = '/') ∧
      ∀ front, (trimSlashes s).toList ≠ front ++ ['/'] := by
  rw [trimSlashes_toList]
  refine ⟨⟨_, (List.rdropWhile_append_rtakeWhile ..).symm, fun c member => ?_⟩, fun front ends => ?_⟩
  · simpa using List.mem_rtakeWhile_imp member
  · have last := List.rdropWhile_last_not (· = '/') s.toList (by simp [ends])
    simp [ends] at last

theorem trimSlashes_eq_empty_iff {s : String} :
    trimSlashes s = "" ↔ ∀ c ∈ s.toList, c = '/' := by
  rw [← String.toList_eq_nil_iff, trimSlashes_toList]
  simp

def urlKeys : List String := ["BASE_URL", "DERIBIT_BASE_URL"]

theorem baseUrl_of_firstSet (set : FirstSet lookup urlKeys key value) :
    (exchangeOf lookup).baseUrl = trimSlashes value := by
  have found := firstSet?_eq_some_iff.mpr set
  rw [urlKeys] at found
  simp only [exchangeOf, found]

theorem baseUrl_of_unset (unset : ∀ key ∈ urlKeys, lookup key = none) :
    (exchangeOf lookup).baseUrl = "https://test.deribit.com" := by
  have found := firstSet?_eq_none_iff.mpr unset
  rw [urlKeys] at found
  simp only [exchangeOf, found]

def credentialKeys : List String := ["API_KEY", "DERIBIT_API_KEY", "API_SECRET", "DERIBIT_API_SECRET"]

def textKeys : List String :=
  ["DERIBIT_WS_HOST", "DERIBIT_WS_PATH", "BOOK_INTERVAL", "DEFAULT_INSTRUMENT"]

def numberKeys : List (String × Nat) :=
  [("DERIBIT_WS_PORT", portBound), ("DERIBIT_CONNECT_TIMEOUT_SECS", wordBound),
    ("BRIDGE_LISTEN_PORT", portBound), ("SESSION_QUEUE_CAPACITY", wordBound),
    ("HTTP_TIMEOUT_SECS", wordBound), ("PIPELINE_QUEUE_CAPACITY", wordBound),
    ("CALL_TIMEOUT_SECS", wordBound), ("HEALTH_PORT", portBound)]

theorem numberKeys_apart : ∀ entry ∈ numberKeys,
    entry.1 ∉ credentialKeys ∧ entry.1 ≠ "BINARY_PROTOCOL" ∧ entry.1 ∉ urlKeys ∧
      entry.1 ∉ textKeys ∧ entry.1 ≠ "BRIDGE_LISTEN_ADDR" ∧
        ∀ again ∈ numberKeys, again.1 = entry.1 → again.2 = entry.2 := by
  decide

structure SameReadings (lookup other : Lookup) : Prop where
  credentials : ∀ key ∈ credentialKeys, other key = lookup key
  url : (exchangeOf other).baseUrl = (exchangeOf lookup).baseUrl
  flag : other "BINARY_PROTOCOL" = lookup "BINARY_PROTOCOL"
  texts : ∀ key ∈ textKeys, ∀ default, textOr other key default = textOr lookup key default
  numbers : ∀ entry ∈ numberKeys, ∀ default,
    natOr other entry.1 entry.2 default = natOr lookup entry.1 entry.2 default
  address : ∀ default, readOr other "BRIDGE_LISTEN_ADDR" IpAddress.ofChars? default =
    readOr lookup "BRIDGE_LISTEN_ADDR" IpAddress.ofChars? default

def withCredentials (lookup : Lookup) (credentials : Trading.Credentials) : Settings where
  credentials := credentials
  exchange := exchangeOf lookup
  listen := listenOf lookup
  requests := requestsOf lookup
  healthPort := natOr lookup "HEALTH_PORT" portBound 8082
  defaultInstrument := textOr lookup "DEFAULT_INSTRUMENT" "BTC-PERPETUAL"

theorem withCredentials_congr (same : SameReadings lookup other) :
    withCredentials other = withCredentials lookup := by
  obtain ⟨-, url, flag, texts, numbers, address⟩ := same
  simp only [textKeys, List.forall_mem_cons] at texts
  simp only [numberKeys, List.forall_mem_cons] at numbers
  obtain ⟨host, path, interval, instrument, -⟩ := texts
  obtain ⟨wsPort, connectTimeout, port, outbox, httpTimeout, queue, callTimeout, health, -⟩ :=
    numbers
  have exchange : exchangeOf other = exchangeOf lookup := by
    simp only [exchangeOf, secondsOr, ExchangeSettings.mk.injEq] at url ⊢
    exact ⟨url, host _, wsPort _, path _, by rw [connectTimeout]⟩
  have listen : listenOf other = listenOf lookup := by
    simp only [listenOf, capacityOr, ListenSettings.mk.injEq]
    exact ⟨address _, port _, by rw [flag], interval _, by rw [outbox]⟩
  have requests : requestsOf other = requestsOf lookup := by
    simp only [requestsOf, secondsOr, capacityOr, RequestSettings.mk.injEq]
    exact ⟨by rw [httpTimeout], by rw [queue], by rw [callTimeout]⟩
  funext credentials
  simp only [withCredentials, exchange, listen, requests, health, instrument]

theorem ofLookup_eq (lookup : Lookup) :
    ofLookup lookup = do
      let key ← required lookup "API_KEY" ["DERIBIT_API_KEY"]
      let secret ← required lookup "API_SECRET" ["DERIBIT_API_SECRET"]
      return withCredentials lookup ⟨key, secret⟩ := by
  unfold ofLookup
  cases keyRead : required lookup "API_KEY" ["DERIBIT_API_KEY"] with
  | error e => rfl
  | ok key =>
      cases secretRead : required lookup "API_SECRET" ["DERIBIT_API_SECRET"] with
      | error e => rfl
      | ok secret =>
          have someKey := (required_eq_ok_iff.mp keyRead).1
          have someSecret := (required_eq_ok_iff.mp secretRead).1
          have credentials : Trading.Credentials.ofTexts key secret = .ok ⟨key, secret⟩ := by
            simp [Trading.Credentials.ofTexts, someKey, someSecret]
          simp only [bind, Except.bind, credentials]
          rfl

theorem credentials_congr (same : ∀ key ∈ credentialKeys, other key = lookup key) :
    required other "API_KEY" ["DERIBIT_API_KEY"] = required lookup "API_KEY" ["DERIBIT_API_KEY"] ∧
      required other "API_SECRET" ["DERIBIT_API_SECRET"] =
        required lookup "API_SECRET" ["DERIBIT_API_SECRET"] := by
  constructor
  · exact required_congr fun key member => same key (List.mem_append_left _ member)
  · exact required_congr fun key member =>
      same key (List.mem_append_right ["API_KEY", "DERIBIT_API_KEY"] member)

theorem ofLookup_congr (same : SameReadings lookup other) : ofLookup other = ofLookup lookup := by
  obtain ⟨keyPair, secretPair⟩ := credentials_congr same.credentials
  rw [ofLookup_eq, ofLookup_eq, keyPair, secretPair, withCredentials_congr same]

theorem ofLookup_ok_iff {s : Settings} :
    ofLookup lookup = .ok s ↔ ∃ key secret,
      required lookup "API_KEY" ["DERIBIT_API_KEY"] = .ok key ∧
        required lookup "API_SECRET" ["DERIBIT_API_SECRET"] = .ok secret ∧
          s = withCredentials lookup ⟨key, secret⟩ := by
  rw [ofLookup_eq, bind_eq_ok]
  refine exists_congr fun key => ?_
  rw [bind_eq_ok]
  constructor
  · rintro ⟨keyRead, secret, secretRead, same⟩
    exact ⟨secret, keyRead, secretRead, (Except.ok.inj same).symm⟩
  · rintro ⟨secret, keyRead, secretRead, rfl⟩
    exact ⟨keyRead, secret, secretRead, rfl⟩

theorem accepts_iff :
    (∃ s, ofLookup lookup = .ok s) ↔
      Filled lookup ["API_KEY", "DERIBIT_API_KEY"] ∧
        Filled lookup ["API_SECRET", "DERIBIT_API_SECRET"] := by
  simp only [filled_iff, ofLookup_ok_iff]
  constructor
  · rintro ⟨s, key, secret, keyRead, secretRead, -⟩
    exact ⟨⟨key, keyRead⟩, secret, secretRead⟩
  · rintro ⟨⟨key, keyRead⟩, secret, secretRead⟩
    exact ⟨_, key, secret, keyRead, secretRead, rfl⟩

theorem ofLookup_error_iff {e : SettingsError} :
    ofLookup lookup = .error e ↔
      Lacks lookup "API_KEY" ["DERIBIT_API_KEY"] e ∨
        Filled lookup ["API_KEY", "DERIBIT_API_KEY"] ∧
          Lacks lookup "API_SECRET" ["DERIBIT_API_SECRET"] e := by
  rw [ofLookup_eq, filled_iff, ← required_eq_error_iff, ← required_eq_error_iff]
  cases required lookup "API_KEY" ["DERIBIT_API_KEY"] with
  | error keyCause => simp [bind, Except.bind]
  | ok key =>
      cases required lookup "API_SECRET" ["DERIBIT_API_SECRET"] with
      | error secretCause => simp [bind, Except.bind]
      | ok secret => simp [bind, Except.bind, pure, Except.pure]

def unset (lookup : Lookup) (key : String) : Lookup :=
  fun other => if other = key then none else lookup other

theorem unset_self (lookup : Lookup) (key : String) : unset lookup key key = none := if_pos rfl

theorem unset_of_ne {asked : String} (different : asked ≠ key) :
    unset lookup key asked = lookup asked :=
  if_neg different

theorem sameReadings_unset (credential : key ∉ credentialKeys) (flag : key ≠ "BINARY_PROTOCOL")
    (url : (exchangeOf (unset lookup key)).baseUrl = (exchangeOf lookup).baseUrl)
    (text : key ∈ textKeys → ∀ default, textOr lookup key default = default)
    (number : ∀ bound, (key, bound) ∈ numberKeys →
      ∀ default, natOr lookup key bound default = default)
    (address : key = "BRIDGE_LISTEN_ADDR" →
      ∀ default, readOr lookup key IpAddress.ofChars? default = default) :
    SameReadings lookup (unset lookup key) where
  credentials asked listed := unset_of_ne fun same => credential (same ▸ listed)
  url := url
  flag := unset_of_ne flag.symm
  texts asked listed default := by
    by_cases same : asked = key
    · subst same
      rw [text listed, textOr, unset_self]
    · rw [textOr, textOr, unset_of_ne same]
  numbers entry listed default := by
    obtain ⟨asked, bound⟩ := entry
    by_cases same : asked = key
    · subst same
      rw [number bound listed, natOr, readOr, unset_self]
    · rw [natOr, natOr, readOr, readOr, unset_of_ne same]
  address default := by
    by_cases same : "BRIDGE_LISTEN_ADDR" = key
    · subst same
      rw [address rfl, readOr, unset_self]
    · rw [readOr, readOr, unset_of_ne same]

theorem baseUrl_unset (different : key ∉ urlKeys) :
    (exchangeOf (unset lookup key)).baseUrl = (exchangeOf lookup).baseUrl := by
  have same : ∀ asked ∈ urlKeys, unset lookup key asked = lookup asked :=
    fun asked listed => unset_of_ne fun same => different (same ▸ listed)
  have found := firstSet?_congr same
  rw [urlKeys] at found
  simp only [exchangeOf, found]

end FeedBridge.Settings
