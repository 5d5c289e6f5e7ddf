import FeedBridge.Client.Roster
import FeedBridge.Proofs.Settings.Lookup
import FeedBridge.Trading.Pipeline

/-!
# What accepted settings are good for

Of the texts in accepted settings only the base of addresses may be empty: an empty value is not
passed over for it, and slashes at its end are taken off after that (`usable_iff`). Capacities are
raised to one where they are zero and bounded by nothing else, so that a queue may be asked for
which cannot be created (`queues_iff`).
-/

namespace FeedBridge

namespace Settings

variable {lookup : Lookup} {s : Settings}

def otherTexts (s : Settings) : List String :=
  [s.credentials.key, s.credentials.secret, s.exchange.wsHost, s.exchange.wsPath,
    s.listen.bookInterval, s.defaultInstrument]

structure Usable (s : Settings) : Prop where
  filled : ∀ text ∈ s.exchange.baseUrl :: s.otherTexts, text ≠ ""
  slashless : ∀ front, s.exchange.baseUrl.toList ≠ front ++ ['/']

/-- An optional text that is set and empty counts as much as none. -/
def EmptyAsUnset (lookup : Lookup) (keys : List String) : Prop :=
  ∀ key ∈ keys, lookup key = some "" → ofLookup (unset lookup key) = ofLookup lookup

def OnlySlashes (value : String) : Prop := ∀ c ∈ value.toList, c = '/'

instance (value : String) : Decidable (OnlySlashes value) := List.decidableBAll _ _

theorem otherTexts_ne (accepted : ofLookup lookup = .ok s) : ∀ text ∈ s.otherTexts, text ≠ "" := by
  obtain ⟨key, secret, keyRead, secretRead, rfl⟩ := ofLookup_ok_iff.mp accepted
  simp only [otherTexts, List.forall_mem_cons]
  exact ⟨(required_eq_ok_iff.mp keyRead).1, (required_eq_ok_iff.mp secretRead).1,
    textOr_ne (by decide), textOr_ne (by decide), textOr_ne (by decide), textOr_ne (by decide), nofun⟩

theorem exchange_of_ok (accepted : ofLookup lookup = .ok s) : s.exchange = exchangeOf lookup := by
  obtain ⟨key, secret, -, -, rfl⟩ := ofLookup_ok_iff.mp accepted
  rfl

theorem baseUrl_slashless (lookup : Lookup) (front : List Char) :
    (exchangeOf lookup).baseUrl.toList ≠ front ++ ['/'] := by
  cases found : firstSet? lookup urlKeys with
  | some first =>
      rw [baseUrl_of_firstSet (firstSet?_eq_some_iff.mp found)]
      exact (trimSlashes_spec _).2 front
  | none =>
      rw [baseUrl_of_unset (firstSet?_eq_none_iff.mp found)]
      intro ends
      have last := congrArg List.getLast? ends
      rw [List.getLast?_concat] at last
      revert last
      decide

theorem baseUrl_eq_empty_iff (lookup : Lookup) :
    (exchangeOf lookup).baseUrl = "" ↔
      ∃ key value, FirstSet lookup urlKeys key value ∧ OnlySlashes value := by
  constructor
  · intro empty
    cases found : firstSet? lookup urlKeys with
    | some first =>
        have set := firstSet?_eq_some_iff.mp found
        rw [baseUrl_of_firstSet set] at empty
        exact ⟨_, _, set, trimSlashes_eq_empty_iff.mp empty⟩
    | none =>
        rw [baseUrl_of_unset (firstSet?_eq_none_iff.mp found)] at empty
        exact absurd empty (by decide)
  · rintro ⟨key, value, set, slashes⟩
    rw [baseUrl_of_firstSet set]
    exact trimSlashes_eq_empty_iff.mpr slashes

theorem emptyAsUnset_texts (lookup : Lookup) : EmptyAsUnset lookup textKeys := by
  intro key listed set
  have apart : ∀ text ∈ textKeys, text ∉ credentialKeys ∧ text ≠ "BINARY_PROTOCOL" ∧
      text ∉ urlKeys ∧ text ≠ "BRIDGE_LISTEN_ADDR" := by
    decide
  obtain ⟨credential, flag, url, address⟩ := apart key listed
  refine ofLookup_congr (sameReadings_unset credential flag (baseUrl_unset url)
    (fun _ => textOr_of_empty set) (fun bound member => ?_) fun same => absurd same address)
  obtain ⟨-, -, -, noText, -⟩ := numberKeys_apart _ member
  exact absurd listed noText

theorem emptyAsUnset_urls
    (url : ∀ key value, FirstSet lookup urlKeys key value → ¬ OnlySlashes value) :
    EmptyAsUnset lookup urlKeys := by
  have empty : OnlySlashes "" := by decide
  intro key listed set
  rcases List.mem_cons.mp listed with rfl | listed
  · exact absurd empty (url _ _ ⟨[], ["DERIBIT_BASE_URL"], rfl, set, nofun⟩)
  · cases List.mem_singleton.mp listed
    cases first : lookup "BASE_URL" with
    | none =>
        refine absurd empty (url _ _ ⟨["BASE_URL"], [], rfl, set, fun earlier member => ?_⟩)
        rwa [List.mem_singleton.mp member]
    | some value =>
        have before : FirstSet lookup urlKeys "BASE_URL" value :=
          ⟨[], ["DERIBIT_BASE_URL"], rfl, first, nofun⟩
        have after : FirstSet (unset lookup "DERIBIT_BASE_URL") urlKeys "BASE_URL" value :=
          ⟨[], ["DERIBIT_BASE_URL"], rfl, (unset_of_ne (by decide)).trans first, nofun⟩
        refine ofLookup_congr (sameReadings_unset (by decide) (by decide) ?_
          (fun member => absurd member (by decide)) (fun bound member => ?_)
          fun same => absurd same (by decide))
        · rw [baseUrl_of_firstSet before, baseUrl_of_firstSet after]
        · obtain ⟨-, -, noUrl, -⟩ := numberKeys_apart _ member
          exact absurd (List.mem_cons_of_mem _ (.head _)) noUrl

/-- Accepted settings are usable, and empty texts are passed over, exactly where the first value
that is set for the base of addresses holds something else than slashes. Everything but the base
is always as it should be. -/
theorem usable_iff (accepted : ofLookup lookup = .ok s) :
    (Usable s ∧ EmptyAsUnset lookup (urlKeys ++ textKeys) ↔
      ∀ key value, FirstSet lookup urlKeys key value → ¬ OnlySlashes value) ∧
    (∀ text ∈ s.otherTexts, text ≠ "") ∧
    (∀ front, s.exchange.baseUrl.toList ≠ front ++ ['/']) ∧
    (s.exchange.baseUrl = "" ↔
      ∃ key value, FirstSet lookup urlKeys key value ∧ OnlySlashes value) ∧
    EmptyAsUnset lookup textKeys := by
  have others := otherTexts_ne accepted
  have slashless := baseUrl_slashless lookup
  have empty_iff := baseUrl_eq_empty_iff lookup
  rw [← exchange_of_ok accepted] at slashless empty_iff
  refine ⟨⟨fun ⟨usable, _⟩ key value set slashes => ?_, fun url => ⟨⟨?_, slashless⟩, ?_⟩⟩,
    others, slashless, empty_iff, emptyAsUnset_texts lookup⟩
  · exact usable.filled _ (.head _) (empty_iff.mpr ⟨key, value, set, slashes⟩)
  · refine List.forall_mem_cons.mpr ⟨fun empty => ?_, others⟩
    obtain ⟨key, value, set, slashes⟩ := empty_iff.mp empty
    exact url key value set slashes
  · exact List.forall_mem_append.mpr ⟨emptyAsUnset_urls url, emptyAsUnset_texts lookup⟩

theorem usable_of_path :
    let lookup : Lookup := fun key =>
      [("API_KEY", "k"), ("API_SECRET", "s"), ("DERIBIT_BASE_URL", "https://h/p//"),
        ("BOOK_INTERVAL", "")].lookup key
    let s := withCredentials lookup ⟨"k", "s"⟩
    ofLookup lookup = .ok s ∧ s.exchange.baseUrl = "https://h/p" ∧ s.listen.bookInterval = "100ms" ∧
      Usable s ∧ EmptyAsUnset lookup (urlKeys ++ textKeys) := by
  intro lookup s
  have accepted : ofLookup lookup = .ok s := by decide +kernel
  have first : firstSet? lookup urlKeys = some ("DERIBIT_BASE_URL", "https://h/p//") := by
    decide +kernel
  refine ⟨accepted, by decide +kernel, by decide +kernel, (usable_iff accepted).1.mpr ?_⟩
  intro key value set
  cases first.symm.trans (firstSet?_eq_some_iff.mpr set)
  decide

/-- An empty base is accepted as it is. -/
theorem empty_base_accepted :
    let lookup : Lookup := fun key =>
      [("API_KEY", "k"), ("API_SECRET", "s"), ("BASE_URL", "")].lookup key
    ∃ s, ofLookup lookup = .ok s ∧ s.exchange.baseUrl = "" ∧ ¬ Usable s ∧
      ¬ EmptyAsUnset lookup (urlKeys ++ textKeys) := by
  intro lookup
  have accepted : ofLookup lookup = .ok (withCredentials lookup ⟨"k", "s"⟩) := by decide +kernel
  refine ⟨_, accepted, by decide +kernel, fun usable => ?_, fun passed => ?_⟩
  · exact usable.filled _ (.head _) (by decide +kernel)
  · have same := passed "BASE_URL" (.head _) (by decide +kernel)
    revert same
    decide +kernel

end Settings

open Trading (Credentials Instant Reply RequestError tokenOfReply)

/-- Start a pipeline on a channel that has as many slots as the pipeline has room. The channel is
created once there is a token; there is nothing where it cannot be. -/
def Trading.Pipeline.launch (creates : Nat → Bool) (credentials : Credentials) (capacity : Nat)
    (seed : UInt64) (reply : Reply) (now : Instant) : Option (Except RequestError Pipeline) :=
  match Pipeline.start credentials capacity seed reply now with
  | .error cause => some (.error cause)
  | .ok p => if creates p.capacity then some (.ok p) else none

def Session.launch (creates : Nat → Bool) (id : SessionId) (format : WireFormat) (capacity : Nat) :
    Option Session :=
  let session := Session.fresh id format capacity
  if creates session.outbox.capacity then some session else none

namespace Settings

variable {creates : Nat → Bool} {lookup : Lookup} {s : Settings} {key : String}

/-- The most slots that a channel can have. -/
def slotLimit : Nat := (wordBound - 1) >>> 3

/-- A capacity is asked for that no channel can have. -/
def AsksBeyond (lookup : Lookup) (key : String) : Prop :=
  ∃ value n, lookup key = some value ∧ Numeral wordBound n (Text.trim value.toList) ∧ slotLimit < n

theorem slotLimit_lt_capacityOr_iff (default : Nat) (small : default ≤ slotLimit) :
    slotLimit < capacityOr lookup key default ↔ AsksBeyond lookup key := by
  have one : 1 ≤ slotLimit := by decide
  have larger (n : Nat) : slotLimit < max n 1 ↔ slotLimit < n := by omega
  rw [capacityOr, larger]
  constructor
  · intro beyond
    by_cases numeral : ∃ value n, lookup key = some value ∧
        Numeral wordBound n (Text.trim value.toList)
    · obtain ⟨value, n, set, numeral⟩ := numeral
      rw [natOr_of_numeral set numeral] at beyond
      exact ⟨value, n, set, numeral, beyond⟩
    · rw [natOr_of_unread fun value n set found => numeral ⟨value, n, set, found⟩] at beyond
      omega
  · rintro ⟨value, n, set, numeral, beyond⟩
    rwa [natOr_of_numeral set numeral]

theorem created_eq_none_iff {α : Type} (limit : ∀ n, creates n = true ↔ 1 ≤ n ∧ n ≤ slotLimit)
    {capacity : Nat} (positive : 1 ≤ capacity) (made : α) :
    (if creates (max capacity 1) then some made else none) = none ↔ slotLimit < capacity := by
  have created := limit (max capacity 1)
  split_ifs with fits
  · have within := created.mp fits
    simp only [false_iff]
    omega
  · simp only [true_iff]
    by_contra within
    exact fits (created.mpr (by omega))

theorem pipeline_launch_eq_none_iff (limit : ∀ n, creates n = true ↔ 1 ≤ n ∧ n ≤ slotLimit)
    (accepted : ofLookup lookup = .ok s) (seed : UInt64) (reply : Reply) (now : Instant) :
    Trading.Pipeline.launch creates s.credentials s.requests.queueCapacity seed reply now = none ↔
      (∃ token, tokenOfReply reply now = .ok token) ∧
        AsksBeyond lookup "PIPELINE_QUEUE_CAPACITY" := by
  obtain ⟨key, secret, -, -, rfl⟩ := ofLookup_ok_iff.mp accepted
  have capacity : (withCredentials lookup ⟨key, secret⟩).requests.queueCapacity =
      capacityOr lookup "PIPELINE_QUEUE_CAPACITY" 1024 := rfl
  rw [← slotLimit_lt_capacityOr_iff 1024 (by decide), capacity,
    Trading.Pipeline.launch, Trading.Pipeline.start]
  cases tokenOfReply reply now with
  | error cause => simp
  | ok token =>
      simp only [Except.ok.injEq, exists_eq', true_and]
      exact created_eq_none_iff limit (Nat.le_max_right ..) _

theorem session_launch_eq_none_iff (limit : ∀ n, creates n = true ↔ 1 ≤ n ∧ n ≤ slotLimit)
    (accepted : ofLookup lookup = .ok s) (id : SessionId) (format : WireFormat) :
    Session.launch creates id format s.broker.outboxCapacity = none ↔
      AsksBeyond lookup "SESSION_QUEUE_CAPACITY" := by
  obtain ⟨key, secret, -, -, rfl⟩ := ofLookup_ok_iff.mp accepted
  have capacity : (withCredentials lookup ⟨key, secret⟩).broker.outboxCapacity =
      capacityOr lookup "SESSION_QUEUE_CAPACITY" 1024 := rfl
  rw [← slotLimit_lt_capacityOr_iff 1024 (by decide), capacity]
  exact created_eq_none_iff limit (Nat.le_max_right ..) _

def firstGrant : Reply := .ok (.object [("result", .array [.string "a", .string "r", .nat 900])])

/-- Where channels have so many slots at most, the queues of accepted settings can all be created
exactly where no larger capacity is asked for. -/
theorem queues_iff (limit : ∀ n, creates n = true ↔ 1 ≤ n ∧ n ≤ slotLimit)
    (accepted : ofLookup lookup = .ok s) :
    ((∀ seed reply now, Trading.Pipeline.launch creates s.credentials s.requests.queueCapacity
          seed reply now ≠ none) ∧
        (∀ id, Session.launch creates id s.broker.format s.broker.outboxCapacity ≠ none) ↔
      ¬ AsksBeyond lookup "PIPELINE_QUEUE_CAPACITY" ∧
        ¬ AsksBeyond lookup "SESSION_QUEUE_CAPACITY") ∧
    (∀ seed reply now, Trading.Pipeline.launch creates s.credentials s.requests.queueCapacity
        seed reply now = none ↔
      (∃ token, tokenOfReply reply now = .ok token) ∧
        AsksBeyond lookup "PIPELINE_QUEUE_CAPACITY") ∧
    ∀ id format, Session.launch creates id format s.broker.outboxCapacity = none ↔
      AsksBeyond lookup "SESSION_QUEUE_CAPACITY" := by
  have pipelines := pipeline_launch_eq_none_iff limit accepted
  have sessions := session_launch_eq_none_iff limit accepted
  refine ⟨?_, pipelines, sessions⟩
  simp only [ne_eq, pipelines, sessions]
  constructor
  · rintro ⟨noPipeline, noSession⟩
    exact ⟨fun beyond => noPipeline 0 firstGrant 0 ⟨⟨_, rfl⟩, beyond⟩, noSession ⟨0⟩⟩
  · rintro ⟨noPipeline, noSession⟩
    exact ⟨fun _ _ _ ⟨_, beyond⟩ => noPipeline beyond, fun _ => noSession⟩

theorem queues_of_largest :
    let creates : Nat → Bool := fun n => decide (1 ≤ n ∧ n ≤ slotLimit)
    let lookup : Lookup := fun key =>
      [("API_KEY", "k"), ("API_SECRET", "s"), ("PIPELINE_QUEUE_CAPACITY", "0"),
        ("SESSION_QUEUE_CAPACITY", " +2305843009213693951 ")].lookup key
    let s := withCredentials lookup ⟨"k", "s"⟩
    ofLookup lookup = .ok s ∧ s.requests.queueCapacity = 1 ∧ s.broker.outboxCapacity = slotLimit ∧
      (∀ seed reply now, Trading.Pipeline.launch creates s.credentials s.requests.queueCapacity
        seed reply now ≠ none) ∧
      ∀ id, Session.launch creates id s.broker.format s.broker.outboxCapacity ≠ none := by
  intro creates lookup s
  have accepted : ofLookup lookup = .ok s := by decide +kernel
  have modest (key : String) (fits : capacityOr lookup key 1024 ≤ slotLimit) :
      ¬ AsksBeyond lookup key := by
    rw [← slotLimit_lt_capacityOr_iff 1024 (by decide)]
    exact Nat.not_lt.mpr fits
  exact ⟨accepted, by decide +kernel, by decide +kernel,
    (queues_iff (fun n => decide_eq_true_iff) accepted).1.mpr
      ⟨modest _ (by decide +kernel), modest _ (by decide +kernel)⟩⟩

/-- One slot more is accepted and asked for. -/
theorem larger_capacity_accepted :
    let creates : Nat → Bool := fun n => decide (1 ≤ n ∧ n ≤ slotLimit)
    let lookup : Lookup := fun key =>
      [("API_KEY", "k"), ("API_SECRET", "s"), ("PIPELINE_QUEUE_CAPACITY", "2305843009213693952"),
        ("SESSION_QUEUE_CAPACITY", "2305843009213693952")].lookup key
    ∃ s, ofLookup lookup = .ok s ∧
      (Trading.Pipeline.launch creates s.credentials s.requests.queueCapacity 0 firstGrant 0).isNone ∧
      (Session.launch creates ⟨1⟩ s.broker.format s.broker.outboxCapacity).isNone := by
  intro creates lookup
  have accepted : ofLookup lookup = .ok (withCredentials lookup ⟨"k", "s"⟩) := by decide +kernel
  exact ⟨_, accepted, by decide +kernel, by decide +kernel⟩

end Settings

end FeedBridge
