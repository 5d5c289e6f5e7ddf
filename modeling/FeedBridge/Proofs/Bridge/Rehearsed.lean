import FeedBridge.Bridge.Rehearsal
import FeedBridge.Proofs.Bridge.Stillness
import FeedBridge.Proofs.Basic

namespace FeedBridge.Bridge

def Reaches (b after : Bridge) : Prop := ∃ events, after = b.play events

namespace Reaches

theorem refl (b : Bridge) : b.Reaches b := ⟨[], rfl⟩

theorem event (b : Bridge) (event : Event) : b.Reaches (b.event event) := ⟨[event], rfl⟩

theorem trans {before between after : Bridge} (first : before.Reaches between)
    (second : between.Reaches after) : before.Reaches after := by
  obtain ⟨events, rfl⟩ := first
  obtain ⟨later, rfl⟩ := second
  exact ⟨events ++ later, (play_append before events later).symm⟩

end Reaches

namespace Rehearsal

theorem reaches_flushClient (b : Bridge) (id : SessionId) : b.Reaches (flushClient b id).2 := by
  unfold flushClient
  cases b.roster.latest? id with
  | none => exact .refl b
  | some place =>
      dsimp only
      cases found : b.roster.sessions[place]? with
      | none =>
          have absent : b.roster.hasWriter place = false := by simp [Roster.hasWriter, found]
          rw [absent]
          exact .refl b
      | some session =>
          have written := Reaches.event b (.write place session.outbox.waiting.length)
          split_ifs
          · exact .refl b
          · simp only [Roster.takeUpTo, found]
            exact written.trans (.event _ (.dropWriter place))
          · simp only [Roster.takeUpTo, found]
            exact written

theorem reaches_flush (b : Bridge) (clients : List (String × SessionId)) :
    b.Reaches (flush b clients).2 := by
  induction clients generalizing b with
  | nil => exact .refl b
  | cons client rest ih =>
      exact (reaches_flushClient b client.2).trans (ih _)

theorem reaches_clientReceiveAll (b : Bridge) (id : SessionId) (incoming : List Incoming) :
    b.Reaches (clientReceiveAll b id incoming).1 := by
  induction incoming generalizing b with
  | nil => exact .refl b
  | cons first rest ih => exact (Reaches.event b (.hear id first)).trans (ih _)

theorem reaches_receiveAll (b : Bridge) (incoming : List Incoming) :
    b.Reaches (receiveAll b incoming) := by
  induction incoming generalizing b with
  | nil => exact .refl b
  | cons first rest ih => exact (Reaches.event b (.receive first)).trans (ih _)

theorem reaches_reported {b : Bridge} (r : Rehearsal) {bridge : Bridge} (reaches : b.Reaches bridge)
    (response : Response) (frames : List Frame) :
    b.Reaches (r.reported bridge response frames).1.bridge :=
  reaches.trans (reaches_flush bridge r.clients)

theorem reaches_byExchange (r : Rehearsal) (incoming : List Incoming) (response : Response) :
    r.bridge.Reaches (r.byExchange incoming response).1.bridge := by
  unfold byExchange
  split_ifs
  · exact reaches_reported r (.refl _) _ _
  · exact reaches_reported r (reaches_receiveAll _ _) _ _

theorem reaches_byClient {r next : Rehearsal} {client : String} {incoming : List Incoming}
    {response : Response} {report : Report}
    (acted : r.byClient client incoming response = .ok (next, report)) :
    r.bridge.Reaches next.bridge := by
  unfold byClient at acted
  cases found : r.clients.lookup client with
  | none => simp [found] at acted
  | some id =>
      simp only [found, Except.ok.injEq] at acted
      have reported := reaches_reported r (reaches_clientReceiveAll r.bridge id incoming) response
        (clientReceiveAll r.bridge id incoming).2
      rwa [acted] at reported

theorem reaches_clientConnect (r : Rehearsal) (client : String) :
    r.bridge.Reaches (r.clientConnect client).1.bridge := by
  unfold clientConnect
  split_ifs with refused
  · exact reaches_reported r (.refl _) _ _
  · have listening : r.bridge.listening = true := by
      simp only [Bool.or_eq_true, not_or, Bool.not_eq_true', Bool.not_eq_false] at refused
      exact refused.1
    have entered : r.bridge.Reaches r.bridge.enter.2 := by
      have event := Reaches.event r.bridge .enter
      rwa [Bridge.event, if_pos listening] at event
    exact reaches_reported _ entered _ _

theorem reaches_step {r next : Rehearsal} {step : Step} {report : Report}
    (stepped : r.step step = .ok (next, report)) : r.bridge.Reaches next.bridge := by
  have whole {bridge : Bridge} (reaches : r.bridge.Reaches bridge) {response : Response}
      {frames : List Frame} (same : r.reported bridge response frames = (next, report)) :
      r.bridge.Reaches next.bridge := by
    have reported := reaches_reported r reaches response frames
    rwa [same] at reported
  cases step with
  | start =>
      have started := Reaches.event r.bridge (.start r.bind)
      unfold Rehearsal.step at stepped
      dsimp only at stepped
      split at stepped <;> exact whole started (Except.ok.inj stepped)
  | connectUplink peer =>
      have connected := Reaches.event r.bridge
        (.connect exchangeUrl r.timeout (r.network.dial peer))
      unfold Rehearsal.step at stepped
      dsimp only at stepped
      split at stepped <;> exact whole connected (Except.ok.inj stepped)
  | clientConnect client =>
      have connected := reaches_clientConnect r client
      rwa [Except.ok.inj stepped] at connected
  | badHandshake =>
      unfold Rehearsal.step at stepped
      dsimp only at stepped
      split_ifs at stepped
      exact whole (.refl _) (Except.ok.inj stepped)
  | clientSend client incoming => exact reaches_byClient stepped
  | clientEnd client incoming =>
      obtain ⟨⟨after, told⟩, acted, ended⟩ := bind_eq_ok.mp stepped
      cases ended
      have reaches : r.bridge.Reaches after.bridge := reaches_byClient acted
      exact reaches
  | push incoming =>
      have pushed := reaches_byExchange r incoming .pushed
      rwa [Except.ok.inj stepped] at pushed
  | uplinkEnd incoming =>
      have ended := reaches_byExchange r [incoming] .ended
      rwa [Except.ok.inj stepped] at ended
  | sendUplink text =>
      unfold Rehearsal.step at stepped
      dsimp only at stepped
      split at stepped <;> exact whole (.refl _) (Except.ok.inj stepped)
  | broadcast text => exact whole (.event _ (.broadcast text)) (Except.ok.inj stepped)
  | stop => exact whole (.event _ (.stop .written)) (Except.ok.inj stepped)

theorem reaches_run {r last : Rehearsal} {steps : List Step} {reports : List Report}
    (ran : r.run steps = .ok (reports, last)) :
    ∃ events, last.bridge = ((r.bridge.play events).stop .written).1 := by
  induction steps generalizing r reports with
  | nil =>
      cases ran
      exact ⟨[], rfl⟩
  | cons step rest ih =>
      obtain ⟨⟨next, report⟩, stepped, ran⟩ := bind_eq_ok.mp ran
      obtain ⟨⟨later, final⟩, ran, ended⟩ := bind_eq_ok.mp ran
      cases ended
      obtain ⟨early, first⟩ := reaches_step stepped
      obtain ⟨events, same⟩ := ih ran
      rw [first, ← play_append] at same
      exact ⟨early ++ events, same⟩

theorem still_run {settings : BrokerSettings} {interval : String} {r last : Rehearsal}
    (fresh : r.bridge = { settings, router := { interval } }) {steps : List Step}
    {reports : List Report} (ran : r.run steps = .ok (reports, last)) : last.bridge.Still := by
  obtain ⟨events, same⟩ := reaches_run ran
  have going : r.bridge.Going := by
    rw [fresh]
    exact ⟨rfl, rfl⟩
  rw [same]
  exact going.stop_still events .written

end Rehearsal

end FeedBridge.Bridge
