import FeedBridge.Proofs.Settings.Lookup
import FeedBridge.Proofs.Settings.Outline

namespace FeedBridge.Settings

open EnvFile (Legible LastBound Place)

variable {process lookup other : Lookup} {places : List Place} {path key value : String}
  {content : EnvFile.Content}

/-- The first of some places that holds a file. -/
def Nearest (places : List Place) (path : String) (content : EnvFile.Content) : Prop :=
  ∃ passed above, places = passed ++ ⟨path, .file content⟩ :: above ∧
    ∀ place ∈ passed, ∀ other, place.entry ≠ .file other

theorem nearest?_cons {place : Place} (passed : ∀ content, place.entry ≠ .file content) :
    Environment.nearest? (place :: places) =
      (Environment.nearest? places).map fun found => { found with level := found.level + 1 } := by
  obtain ⟨path, entry⟩ := place
  cases entry with
  | nothing | directory => rfl
  | file content => exact absurd rfl (passed content)

theorem nearest?_eq_none (fileless : ∀ place ∈ places, ∀ content, place.entry ≠ .file content) :
    Environment.nearest? places = none := by
  induction places with
  | nil => rfl
  | cons place places ih =>
      obtain ⟨passed, rest⟩ := List.forall_mem_cons.mp fileless
      rw [nearest?_cons passed, ih rest, Option.map_none]

theorem nearest?_eq_some (near : Nearest places path content) :
    ∃ level, Environment.nearest? places = some ⟨level, path, content⟩ := by
  obtain ⟨passed, above, rfl, fileless⟩ := near
  induction passed with
  | nil => exact ⟨0, rfl⟩
  | cons place passed ih =>
      obtain ⟨first, rest⟩ := List.forall_mem_cons.mp fileless
      obtain ⟨level, found⟩ := ih rest
      exact ⟨level + 1, by rw [List.cons_append, nearest?_cons first, found, Option.map_some]⟩

theorem nearest_or_none (places : List Place) :
    (∃ path content, Nearest places path content) ∨
      ∀ place ∈ places, ∀ content, place.entry ≠ .file content := by
  induction places with
  | nil => exact .inr nofun
  | cons place places ih =>
      by_cases file : ∃ content, place.entry = .file content
      · obtain ⟨path, entry⟩ := place
        obtain ⟨content, rfl⟩ := file
        exact .inl ⟨path, content, [], places, rfl, nofun⟩
      · have passed : ∀ content, place.entry ≠ .file content :=
          fun content same => file ⟨content, same⟩
        rcases ih with ⟨path, content, front, above, rfl, fileless⟩ | fileless
        · exact .inl ⟨path, content, place :: front, above, rfl,
            List.forall_mem_cons.mpr ⟨passed, fileless⟩⟩
        · exact .inr (List.forall_mem_cons.mpr ⟨passed, fileless⟩)

/-- The variables of an environment: those of the process alone where there is no file, and
otherwise those of the process before those that the nearest file binds. -/
inductive Variables (process : Lookup) (places : List Place) : Lookup → Prop
  | alone (fileless : ∀ place ∈ places, ∀ content, place.entry ≠ .file content) :
      Variables process places process
  | layered {path : String} {bytes : ByteArray} {lookup : Lookup}
      (near : Nearest places path (.ok bytes)) (legible : (EnvFile.outline bytes).Legible)
      (value_iff : ∀ key value, lookup key = some value ↔
        process key = some value ∨
          process key = none ∧ LastBound process (EnvFile.outline bytes).lines key value) :
      Variables process places lookup

theorem ofEnvironment_of_error {cause : EnvFileError} (near : Nearest places path content)
    (failed : EnvFile.read process content = .error cause) :
    ofEnvironment process places = .error (.file path cause.message) := by
  obtain ⟨level, found⟩ := nearest?_eq_some near
  simp only [ofEnvironment, Environment.load, found, failed]
  rfl

theorem get?_eq_some_iff {bindings : EnvFile.Bindings} :
    Environment.get? { process, bindings } key = some value ↔
      process key = some value ∨ process key = none ∧ bindings.get? key = some value := by
  cases set : process key <;> simp [Environment.get?, set]

theorem ofEnvironment_of_legible (process : Lookup)
    (legible : ∀ path content, Nearest places path content → Legible content) :
    ∃ lookup, Variables process places lookup ∧
      ofEnvironment process places = ofLookup lookup := by
  rcases nearest_or_none places with ⟨path, content, near⟩ | fileless
  · obtain ⟨bytes, rfl, clear⟩ := legible path content near
    obtain ⟨bindings, read⟩ := EnvFile.Legible.read ⟨bytes, rfl, clear⟩ process
    obtain ⟨level, found⟩ := nearest?_eq_some near
    refine ⟨Environment.get? { process, bindings }, .layered near clear fun key value => ?_, ?_⟩
    · rw [get?_eq_some_iff, EnvFile.get?_of_read read]
    · simp only [ofEnvironment, Environment.load, found, read]
      rfl
  · refine ⟨process, .alone fileless, ?_⟩
    have asked : Environment.get? { process } = process := by
      funext key
      simp only [Environment.get?]
      cases process key <;> rfl
    simp only [ofEnvironment, Environment.load, nearest?_eq_none fileless, asked]

theorem Lacks.ne_invalidCredentials {primary : String} {others : List String} {e : SettingsError}
    (lacks : Lacks lookup primary others e) (reason : String) : e ≠ .invalidCredentials reason := by
  rintro rfl
  cases lacks

theorem ofLookup_ne_invalidCredentials (lookup : Lookup) (reason : String) :
    ofLookup lookup ≠ .error (.invalidCredentials reason) := by
  intro failed
  rcases ofLookup_error_iff.mp failed with lacks | ⟨-, lacks⟩
  · exact lacks.ne_invalidCredentials reason rfl
  · exact lacks.ne_invalidCredentials reason rfl

theorem ofLookup_error_congr (same : ∀ key ∈ credentialKeys, other key = lookup key)
    (e : SettingsError) : ofLookup other = .error e ↔ ofLookup lookup = .error e := by
  obtain ⟨keyPair, secretPair⟩ := credentials_congr same
  simp only [ofLookup_error_iff, filled_iff, ← required_eq_error_iff, keyPair, secretPair]

theorem ofLookup_unset_number {bound : Nat} (listed : (key, bound) ∈ numberKeys)
    (unread : ∀ value n, lookup key = some value → ¬ Numeral bound n (Text.trim value.toList)) :
    ofLookup (unset lookup key) = ofLookup lookup := by
  obtain ⟨credential, flag, url, text, address, once⟩ := numberKeys_apart _ listed
  refine ofLookup_congr (sameReadings_unset credential flag (baseUrl_unset url)
    (fun member => absurd member text) (fun again member default => ?_)
    fun same => absurd same address)
  cases once _ member rfl
  exact natOr_of_unread unread default

theorem ofLookup_unset_address
    (unread : ∀ value, lookup "BRIDGE_LISTEN_ADDR" = some value →
      IpAddress.ofChars? (Text.trim value.toList) = none) :
    ofLookup (unset lookup "BRIDGE_LISTEN_ADDR") = ofLookup lookup := by
  refine ofLookup_congr (sameReadings_unset (by decide) (by decide) (baseUrl_unset (by decide))
    (fun member => absurd member (by decide)) (fun bound member => ?_)
    fun _ => readOr_of_unread unread)
  obtain ⟨-, -, -, -, different, -⟩ := numberKeys_apart _ member
  exact absurd rfl different

/-- An illegible nearest file fails every process. Otherwise there are variables in two layers, and
a lookup of variables gives settings exactly where both pairs of credentials are filled; its
failure names the key or the secret that is missing or empty, and no other variable has a part
in it. A number or an address that cannot be read is as good as none. -/
theorem resolution_exact (process : Lookup) (places : List Place) :
    (∀ path content, Nearest places path content → ¬ Legible content →
      ∃ cause : EnvFileError, ∀ process,
        ofEnvironment process places = .error (.file path cause.message)) ∧
    ((∀ path content, Nearest places path content → Legible content) →
      ∃ lookup, Variables process places lookup ∧
        ofEnvironment process places = ofLookup lookup) ∧
    ∀ lookup,
      ((∃ s, ofLookup lookup = .ok s) ↔
        Filled lookup ["API_KEY", "DERIBIT_API_KEY"] ∧
          Filled lookup ["API_SECRET", "DERIBIT_API_SECRET"]) ∧
      (∀ e, ofLookup lookup = .error e ↔
        Lacks lookup "API_KEY" ["DERIBIT_API_KEY"] e ∨
          Filled lookup ["API_KEY", "DERIBIT_API_KEY"] ∧
            Lacks lookup "API_SECRET" ["DERIBIT_API_SECRET"] e) ∧
      (∀ reason, ofLookup lookup ≠ .error (.invalidCredentials reason)) ∧
      (∀ other, (∀ key ∈ credentialKeys, other key = lookup key) →
        ∀ e, ofLookup other = .error e ↔ ofLookup lookup = .error e) ∧
      (∀ key bound value, (key, bound) ∈ numberKeys → lookup key = some value →
        (∀ n, ¬ Numeral bound n (Text.trim value.toList)) →
          ofLookup (unset lookup key) = ofLookup lookup) ∧
      ∀ value, lookup "BRIDGE_LISTEN_ADDR" = some value →
        IpAddress.ofChars? (Text.trim value.toList) = none →
          ofLookup (unset lookup "BRIDGE_LISTEN_ADDR") = ofLookup lookup := by
  refine ⟨fun path content near illegible => ?_, ofEnvironment_of_legible process, fun lookup =>
    ⟨accepts_iff, fun e => ofLookup_error_iff, ofLookup_ne_invalidCredentials lookup,
      fun other => ofLookup_error_congr, fun key bound value listed set unread => ?_,
      fun value set unread => ?_⟩⟩
  · obtain ⟨cause, failed⟩ := EnvFile.read_of_not_legible illegible
    exact ⟨cause, fun process => ofEnvironment_of_error near (failed process)⟩
  · refine ofLookup_unset_number listed fun text n again => ?_
    cases set.symm.trans again
    exact unread n
  · refine ofLookup_unset_address fun text again => ?_
    cases set.symm.trans again
    exact unread

/-- A directory of the name is passed over, and what the file sets first goes before what the
process sets second: the empty key hides a good one. -/
example :
    let process : Lookup := fun key =>
      [("DERIBIT_API_KEY", "k"), ("API_SECRET", "s")].lookup key
    ofEnvironment process
        [⟨"/a/b/.env", .directory⟩, ⟨"/a/.env", .file (.ok "API_KEY=''\n".toUTF8)⟩,
          ⟨"/.env", .file (.ok "API_KEY=x\n".toUTF8)⟩] =
      .error (.empty "API_KEY") := by
  decide +kernel

end FeedBridge.Settings
