import FeedBridge.Proofs.Bridge.Backing

namespace FeedBridge

structure Roster.Lasting (settings : BrokerSettings) (P : Roster → Prop) : Prop where
  metrics : ∀ {r : Roster} (metrics : RoutingMetrics), P r → P { r with metrics }
  enroll : ∀ {r : Roster} (id : SessionId), P r →
    P (r.enroll (.fresh id settings.format settings.outboxCapacity))
  unregister : ∀ {r : Roster} (id : SessionId), P r → P (r.unregister id)
  deliver : ∀ {r : Roster} (id : SessionId) (payload : String), P r → P (r.deliver id payload)
  closeAt : ∀ {r : Roster} (place : Nat), P r → P (r.closeAt place)
  clear : ∀ {r : Roster}, P r → P r.clear

variable {settings : BrokerSettings} {P : Roster → Prop}

namespace Router

theorem lasts_deliverAll (lasting : Roster.Lasting settings P) {roster : Roster} (holds : P roster)
    (payload : String) (recipients : List SessionId) :
    P (deliverAll roster payload recipients).1 := by
  induction recipients generalizing roster with
  | nil => exact holds
  | cons id rest ih => exact ih (lasting.deliver id payload holds)

theorem lasts_exchangeText (lasting : Roster.Lasting settings P) {r : Router} (holds : P r.roster)
    (text : String) : P (r.exchangeText text).roster := by
  have purged : P r.purge.roster := by
    dsimp only [purge]
    split_ifs
    · exact lasting.metrics _ holds
    · exact holds
  unfold exchangeText route fanOut
  split
  · split
    · exact holds
    · split
      · exact purged
      · exact lasting.metrics _ (lasts_deliverAll lasting purged _ _)
  · exact holds

end Router

structure Bridge.Keeps (settings : BrokerSettings) (P : Roster → Prop) (b : Bridge) : Prop where
  settings : b.settings = settings
  roster : P b.roster

namespace Bridge.Keeps

variable {b : Bridge}

theorem handleAll (lasting : Roster.Lasting settings P) (keeps : b.Keeps settings P)
    (calls : List HandlerCall) : (b.handleAll calls).Keeps settings P := by
  induction calls generalizing b with
  | nil => exact keeps
  | cons call rest ih =>
      apply ih
      cases call with
      | message text =>
          exact ⟨keeps.settings, Router.lasts_exchangeText lasting keeps.roster text⟩
      | closed | opened | error => exact ⟨keeps.settings, keeps.roster⟩

theorem handled (lasting : Roster.Lasting settings P) (keeps : b.Keeps settings P)
    (uplink : Uplink) (calls : List HandlerCall) :
    ({ b with uplink }.handleAll calls).Keeps settings P := by
  have attached : Keeps settings P { b with uplink } := ⟨keeps.settings, keeps.roster⟩
  exact attached.handleAll lasting calls

theorem beginText (keeps : b.Keeps settings P) (text : String) :
    (b.beginText text).2.Keeps settings P := by
  unfold Bridge.beginText Router.beginSubscribe
  cases ClientRequest.parse text with
  | error cause => exact keeps
  | ok topic => cases b.uplink.isOpen <;> exact ⟨keeps.settings, keeps.roster⟩

theorem finishText (lasting : Roster.Lasting settings P) (keeps : b.Keeps settings P)
    (id : SessionId) (topic : Topic) (written : Except UplinkError Unit) :
    (b.finishText id topic written).Keeps settings P := by
  rcases written with cause | ⟨⟩
  · exact ⟨keeps.settings, keeps.roster⟩
  · exact ⟨keeps.settings, lasting.metrics _ keeps.roster⟩

theorem register (lasting : Roster.Lasting settings P) (keeps : b.Keeps settings P)
    (id : SessionId) : (b.register id).Keeps settings P := by
  obtain ⟨rfl, roster⟩ := keeps
  exact ⟨rfl, lasting.enroll id roster⟩

theorem advanceReading (keeps : b.Keeps settings P) (id : SessionId) (incoming : Incoming) :
    (b.advanceReading id incoming).1.Keeps settings P := by
  unfold Bridge.advanceReading
  cases incoming with
  | ended | failed | control => exact keeps
  | message frame =>
      dsimp only
      split_ifs
      · exact keeps
      · cases frame.message? with
        | none => exact keeps
        | some text =>
            have begun := keeps.beginText text
            dsimp only
            generalize b.beginText text = after at begun ⊢
            obtain ⟨_ | ⟨topic, request⟩, after⟩ := after <;> exact begun

theorem advance (lasting : Roster.Lasting settings P) (keeps : b.Keeps settings P)
    (point : TaskPoint) (event : TaskEvent) : (b.advance point event).1.Keeps settings P := by
  -- one case for each section, from the handshake to the end of the task; the last is any misfit
  unfold Bridge.advance
  split
  case h_1 => exact ⟨keeps.settings, keeps.roster⟩
  case h_2 | h_4 | h_6 | h_10 => exact keeps
  case h_3 => exact keeps.register lasting _
  case h_5 => exact keeps.advanceReading _ _
  case h_7 => exact keeps.finishText lasting _ _ _
  case h_8 => exact ⟨keeps.settings, lasting.unregister _ keeps.roster⟩
  case h_9 => exact ⟨keeps.settings, lasting.metrics _ keeps.roster⟩

theorem sayFarewell (lasting : Roster.Lasting settings P) (keeps : b.Keeps settings P)
    (places : List Nat) : (places.foldl Bridge.sayFarewell b).Keeps settings P := by
  induction places generalizing b with
  | nil => exact keeps
  | cons place rest ih => exact ih ⟨keeps.settings, lasting.closeAt place keeps.roster⟩

theorem stopBroker (lasting : Roster.Lasting settings P) (keeps : b.Keeps settings P) :
    b.stopBroker.Keeps settings P := by
  dsimp only [Bridge.stopBroker, Bridge.drain]
  split_ifs
  · exact keeps
  · have drained : Keeps settings P ({ b with brokerStopped := true, listening := false }.onRouter
        (·.onRoster (·.clear))) := ⟨keeps.settings, lasting.clear keeps.roster⟩
    exact drained.sayFarewell lasting _

end Bridge.Keeps

namespace Service

variable {s : Service}

theorem lasts_step (lasting : Roster.Lasting settings P) (keeps : s.bridge.Keeps settings P)
    {step : Step}
    (others : ∀ change, step = .roster change → P (s.bridge.roster.step change).1) :
    (s.step step).bridge.Keeps settings P := by
  cases step with
  | accept => exact keeps
  | advance task event =>
      dsimp only [Service.step, Service.advance]
      split
      · exact keeps
      · exact keeps.advance lasting _ _
      · exact keeps
  | write task taken =>
      dsimp only [Service.step, Service.write]
      split
      · split <;> exact keeps
      · exact keeps
  | finish task =>
      dsimp only [Service.step, Service.finish]
      split
      · exact keeps.advance lasting _ _
      · exact keeps
  | connect url timeout dial =>
      have connected : (s.bridge.connectUplink url timeout dial).1.Keeps settings P :=
        keeps.handled lasting _ _
      dsimp only [Service.step, Service.connect]
      generalize s.bridge.connectUplink url timeout dial = after at connected ⊢
      obtain ⟨bridge, cause | _⟩ := after <;> exact connected
  | receive incoming =>
      dsimp only [Service.step]
      split_ifs
      · exact keeps.handled lasting _ _
      · exact keeps
  | close farewell => exact keeps.handled lasting _ _
  | roster change => exact ⟨keeps.settings, others change rfl⟩
  | stopBroker => exact keeps.stopBroker lasting
  | clearRouter => exact ⟨keeps.settings, lasting.metrics _ keeps.roster⟩

end Service

end FeedBridge
