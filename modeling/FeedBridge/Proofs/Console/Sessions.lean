import FeedBridge.Console.Program
import FeedBridge.Proofs.Console.Meaning
import FeedBridge.Proofs.Settings.Lookup
import FeedBridge.Proofs.Trading.Solitary

namespace FeedBridge.Console

open Trading (Call Operation Post Carries)

def Printed.isOut : Printed → Bool
  | .out _ => true
  | .err _ => false

structure Deed where
  line : String
  connected : Bool
  posts : List Post
  settled : List (Nat × Trading.Result)
  printed : List Printed
  forwarded : List String

namespace Deed

def between (line : String) (d after : Desk) : Deed where
  line
  connected := d.bridge.uplink.isOpen
  posts := after.trading.pipeline.posts.drop d.trading.pipeline.posts.length
  settled := after.trading.pipeline.settled.drop d.trading.pipeline.settled.length
  printed := after.printed.drop d.printed.length
  forwarded := after.forwarded.drop d.forwarded.length

/-- A deed is what its line asks for. -/
structure Obeys (deed : Deed) (instrument : String) (credentials : Trading.Credentials) : Prop where
  carries : Carries credentials deed.posts (callOf? instrument deed.line).toList
  silent : callOf? instrument deed.line = none → deed.posts = []
  checks : ∀ label operation, actionOf instrument deed.line = .request label operation →
    Yields operation (callOf? instrument deed.line)
  reports : ∀ label, labelOf? deed.line = some label → ∃ result,
    deed.printed = [Desk.reportOf label result] ∧
      ((Desk.reportOf label result).isOut ↔ ∃ ticket value, deed.settled = [(ticket, .ok value)]) ∧
      ∀ field, result ≠ .error (.invalidArgument (.emptyField field))
  forwards : deed.forwarded = if deed.connected then (rawOf? deed.line).toList else []

end Deed

namespace Desk

def deeds (d : Desk) : List String → List Deed
  | [] => []
  | line :: rest =>
    if endsSession line then []
    else .between line d (d.work [line]) :: (d.work [line]).deeds rest

/-- Every call that the lines ask for, up to the end of the session, is answered within the call
timeout, with a new token if one is due. -/
def Answered (d : Desk) : List String → Prop
  | [] => True
  | line :: rest =>
    endsSession line = true ∨
      (∀ call ∈ callOf? d.instrument line, ∃ exchange ∈ d.trading.exchange? call,
        exchange.delay < d.callTimeout.millis) ∧ (d.work [line]).Answered rest

structure Fit (d : Desk) : Prop where
  running : d.bridge.isRunning = true
  connected : d.bridge.uplink.isOpen = true → d.bridge.uplink.sink.isSome = true
  idle : d.trading.Idle
  named : d.instrument ≠ ""

structure Becomes (d : Desk) (deed : Deed) (after : Desk) : Prop where
  fit : after.Fit
  instrument : after.instrument = d.instrument
  credentials : after.trading.pipeline.credentials = d.trading.pipeline.credentials
  connected : deed.connected = d.bridge.uplink.isOpen
  posts : after.trading.pipeline.posts = d.trading.pipeline.posts ++ deed.posts
  settled : after.trading.pipeline.settled = d.trading.pipeline.settled ++ deed.settled
  printed : after.printed = d.printed ++ deed.printed
  forwarded : after.forwarded = d.forwarded ++ deed.forwarded

variable {d after : Desk} {line : String}

theorem Becomes.between {deed : Deed} (becomes : d.Becomes deed after) :
    Deed.between deed.line d after = deed := by
  simp [Deed.between, becomes.posts, becomes.settled, becomes.printed, becomes.forwarded,
    ← becomes.connected]

def quietly (d : Desk) (line : String) (printed : List Printed) (forwarded : List String) :
    Deed where
  line
  connected := d.bridge.uplink.isOpen
  posts := []
  settled := []
  printed
  forwarded

theorem Fit.becomes_quietly (fit : d.Fit) (line : String) {bridge : Bridge}
    (printed : List Printed) (forwarded : List String) (running : bridge.isRunning = true)
    (connected : bridge.uplink.isOpen = true → bridge.uplink.sink.isSome = true) :
    d.Becomes (d.quietly line printed forwarded)
      { d with
        bridge, printed := d.printed ++ printed, forwarded := d.forwarded ++ forwarded } where
  fit := ⟨running, connected, fit.idle, fit.named⟩
  instrument := rfl
  credentials := rfl
  connected := rfl
  posts := (List.append_nil _).symm
  settled := (List.append_nil _).symm
  printed := rfl
  forwarded := rfl

theorem connect_cases (fit : d.Fit) : ∃ bridge printed,
    d.connect = { d with bridge, printed := d.printed ++ printed } ∧ bridge.isRunning = true ∧
      (bridge.uplink.isOpen = true → bridge.uplink.sink.isSome = true) := by
  -- What the handler is told of an attempt does not concern the router, so the bridge keeps running
  -- whatever becomes of it.
  unfold connect Bridge.connectUplink Uplink.connect
  cases d.bridge.uplink.beginConnect? with
  | none => exact ⟨d.bridge, _, rfl, fit.running, fit.connected⟩
  | some u =>
      cases d.dial with
      | accepted =>
          refine ⟨{ d.bridge with uplink := u.storeSink.setOpen.storeReader u.made }, [], ?_,
            fit.running, fun _ => rfl⟩
          rw [List.append_nil]
          rfl
      | failed reason => exact ⟨_, _, rfl, fit.running, nofun⟩
      | timedOut => exact ⟨_, _, rfl, fit.running, nofun⟩

theorem forward_connected (fit : d.Fit) (connected : d.bridge.uplink.isOpen = true)
    (text : String) : d.forward text = { d with forwarded := d.forwarded ++ [text] } := by
  have sent : d.bridge.sendUplink text (.ok ()) = .ok (.text text) := by
    simp [Bridge.sendUplink, Uplink.send, connected, Option.isNone_iff_eq_none,
      Option.isSome_iff_ne_none.mp (fit.connected connected)]
  simp [forward, connected, sent]

theorem forward_unconnected (unconnected : d.bridge.uplink.isOpen = false) (text : String) :
    ∃ complaint, d.forward text = d.print complaint := by
  simp [forward, unconnected]

theorem request_valid (fit : d.Fit) {operation : Operation} {call : Call}
    (valid : operation.call = .ok call) {exchange : Trading.Exchange}
    (passes : d.trading.exchange? call = some exchange)
    (quick : exchange.delay < d.callTimeout.millis) (label : String) :
    ∃ trading, d.trading.Served exchange trading ∧
      d.request label operation = { d with
        trading
        printed := d.printed ++ [reportOf label (Trading.resultOfReply exchange.reply)] } := by
  obtain ⟨trading, waited, served⟩ := fit.idle.waitTimeout passes quick
  refine ⟨trading, served, ?_⟩
  simp only [request, fit.idle.request valid, await, waited]
  rfl

theorem request_invalid {operation : Operation} {cause : Trading.OrderError}
    (invalid : operation.call = .error cause) (label : String) :
    d.request label operation = d.print (reportOf label (.error (.invalidArgument cause))) := by
  simp only [request, Trading.Rehearsal.step, Trading.Pipeline.request, invalid]

/-! ## Single lines -/

theorem isOut_reportOf (label : String) (result : Trading.Result) :
    (reportOf label result).isOut ↔ ∃ value, result = .ok value := by
  cases result <;> simp [reportOf, Printed.isOut]

theorem obeys_quietly (d : Desk) (named : d.instrument ≠ "") (credentials : Trading.Credentials)
    {printed : List Printed} {forwarded : List String}
    (unasked : callOf? d.instrument line = none)
    (refused : ∀ label, labelOf? line = some label → ∃ cause,
      (∀ field, cause ≠ Trading.OrderError.emptyField field) ∧
        printed = [reportOf label (.error (.invalidArgument cause))])
    (forwards : forwarded = if d.bridge.uplink.isOpen then (rawOf? line).toList else []) :
    (d.quietly line printed forwarded).Obeys d.instrument credentials where
  carries := by
    rw [show callOf? d.instrument (d.quietly line printed forwarded).line = none from unasked]
    exact .nil
  silent := fun _ => rfl
  checks := fun _ _ => yields_of_line named
  reports := fun label labelled => by
    obtain ⟨cause, other, printed⟩ := refused label labelled
    refine ⟨.error (.invalidArgument cause), printed, ?_, fun field same => ?_⟩
    · rw [isOut_reportOf]
      simp [quietly]
    · exact other field (Trading.RequestError.invalidArgument.inj (Except.error.inj same))
  forwards := forwards

theorem rawOf?_eq_none {action : Action} (acts : actionOf d.instrument line = action)
    (other : ∀ text, action ≠ .forward text) : rawOf? line = none := by
  by_contra raw
  obtain ⟨text, raw⟩ := Option.ne_none_iff_exists'.mp raw
  exact other text (acts.symm.trans ((rawOf?_eq_some d.instrument).mp raw))

theorem deed_of_request (fit : d.Fit) {label : String} {operation : Operation}
    (asked : actionOf d.instrument line = .request label operation)
    (answered : ∀ call ∈ callOf? d.instrument line, ∃ exchange ∈ d.trading.exchange? call,
      exchange.delay < d.callTimeout.millis) :
    ∃ deed, deed.line = line ∧ d.Becomes deed (d.request label operation) ∧
      deed.Obeys d.instrument d.trading.pipeline.credentials := by
  have labelled {other : String} (found : labelOf? line = some other) : other = label := by
    obtain ⟨_, same⟩ := (labelOf?_eq_some d.instrument).mp found
    rw [asked] at same
    exact (Action.request.inj same).1.symm
  have nothing : ([] : List String) =
      if d.bridge.uplink.isOpen then (rawOf? line).toList else [] := by
    simp [rawOf?_eq_none asked nofun]
  have yields := yields_of_line fit.named asked
  cases entry : callOf? d.instrument line with
  | some call =>
      rw [entry] at yields
      obtain ⟨exchange, passes, quick⟩ := answered call (Option.mem_def.mpr entry)
      obtain ⟨trading, served, requested⟩ := d.request_valid fit yields passes quick label
      let result := Trading.resultOfReply exchange.reply
      refine ⟨⟨line, d.bridge.uplink.isOpen, exchange.posts,
        [(d.trading.pipeline.nextTicket, result)], [reportOf label result], []⟩, rfl, ?_, ?_⟩
      · rw [requested]
        exact ⟨⟨fit.running, fit.connected, served.idle, fit.named⟩, rfl, served.credentials, rfl,
          served.posts, served.settled, rfl, (List.append_nil _).symm⟩
      · refine ⟨?_, fun unasked => ?_, fun _ _ => yields_of_line fit.named,
          fun other found => ⟨result, ?_, ?_, fun field => ?_⟩, nothing⟩
        · rw [entry]
          exact Trading.Rehearsal.carries_of_exchange? passes
        · rw [entry] at unasked
          cases unasked
        · rw [labelled found]
        · rw [isOut_reportOf]
          simp
        · exact Trading.resultOfReply_ne_invalid exchange.reply
  | none =>
      rw [entry] at yields
      obtain ⟨cause, other, refused⟩ := yields
      refine ⟨d.quietly line [reportOf label (.error (.invalidArgument cause))] [], rfl, ?_, ?_⟩
      · rw [request_invalid refused]
        have same := fit.becomes_quietly line
          [reportOf label (.error (.invalidArgument cause))] [] fit.running fit.connected
        rwa [List.append_nil] at same
      · refine d.obeys_quietly fit.named _ entry (fun _ found => ?_) nothing
        exact ⟨cause, other, by rw [labelled found]⟩

theorem deed_of_other (fit : d.Fit) {action : Action} (acts : actionOf d.instrument line = action)
    (other : ∀ label operation, action ≠ .request label operation) (bridge : Bridge)
    (printed : List Printed) (forwarded : List String) (running : bridge.isRunning = true)
    (connected : bridge.uplink.isOpen = true → bridge.uplink.sink.isSome = true)
    (forwards : forwarded = if d.bridge.uplink.isOpen then (rawOf? line).toList else [])
    (same : after = { d with
      bridge, printed := d.printed ++ printed, forwarded := d.forwarded ++ forwarded }) :
    ∃ deed, deed.line = line ∧ d.Becomes deed after ∧
      deed.Obeys d.instrument d.trading.pipeline.credentials := by
  have unlabelled : labelOf? line = none := by
    by_contra labelled
    obtain ⟨label, labelled⟩ := Option.ne_none_iff_exists'.mp labelled
    obtain ⟨operation, asked⟩ := (labelOf?_eq_some d.instrument).mp labelled
    exact other label operation (acts.symm.trans asked)
  refine ⟨d.quietly line printed forwarded, rfl,
    same ▸ fit.becomes_quietly _ _ _ running connected, ?_⟩
  refine d.obeys_quietly fit.named _ (callOf?_eq_none unlabelled) (fun label found => ?_) forwards
  rw [unlabelled] at found
  cases found

theorem deed_of_line (fit : d.Fit) (goes : endsSession line = false)
    (answered : ∀ call ∈ callOf? d.instrument line, ∃ exchange ∈ d.trading.exchange? call,
      exchange.delay < d.callTimeout.millis) :
    ∃ deed, deed.line = line ∧ d.Becomes deed (d.act (actionOf d.instrument line)) ∧
      deed.Obeys d.instrument d.trading.pipeline.credentials := by
  have nothing {action : Action} (acts : actionOf d.instrument line = action)
      (other : ∀ text, action ≠ .forward text) :
      [] = if d.bridge.uplink.isOpen then (rawOf? line).toList else [] := by
    simp [rawOf?_eq_none acts other]
  cases acts : actionOf d.instrument line with
  | request label operation => exact deed_of_request fit acts answered
  | quit =>
      rw [actionOf_eq_quit, goes] at acts
      cases acts
  | nothing =>
      refine deed_of_other fit acts nofun d.bridge [] [] fit.running fit.connected
        (nothing acts nofun) ?_
      simp [act]
  | help =>
      refine deed_of_other fit acts nofun d.bridge [.out helpText] [] fit.running fit.connected
        (nothing acts nofun) ?_
      rw [List.append_nil]
      rfl
  | complain message =>
      refine deed_of_other fit acts nofun d.bridge [.err message] [] fit.running fit.connected
        (nothing acts nofun) ?_
      rw [List.append_nil]
      rfl
  | connect =>
      obtain ⟨bridge, printed, connects, running, connected⟩ := d.connect_cases fit
      refine deed_of_other fit acts nofun bridge printed [] running connected
        (nothing acts nofun) ?_
      rw [List.append_nil]
      exact connects
  | forward text =>
      have raw : rawOf? line = some text := (rawOf?_eq_some d.instrument).mpr acts
      cases connected : d.bridge.uplink.isOpen with
      | true =>
          refine deed_of_other fit acts nofun d.bridge [] [text] fit.running fit.connected
            (by simp [connected, raw]) ?_
          rw [List.append_nil]
          exact d.forward_connected fit connected text
      | false =>
          obtain ⟨complaint, unsent⟩ := d.forward_unconnected connected text
          refine deed_of_other fit acts nofun d.bridge [complaint] [] fit.running fit.connected
            (by simp [connected]) ?_
          rw [List.append_nil]
          exact unsent

theorem work_of_ends (ends : endsSession line = true) (rest : List String) :
    d.work (line :: rest) = d := by
  unfold work
  rw [actionOf_eq_quit.mpr ends]
  split_ifs <;> rfl

theorem work_cons (running : d.bridge.isRunning = true) (goes : endsSession line = false)
    (rest : List String) :
    d.work (line :: rest) = (d.act (actionOf d.instrument line)).work rest := by
  have other : actionOf d.instrument line ≠ .quit := by
    rw [Ne, actionOf_eq_quit, goes]
    nofun
  conv_lhs => unfold work
  rw [running]
  split
  next absurd => cases absurd
  next =>
    split
    next quits => exact absurd quits other
    next => rfl

theorem deeds_of_ends (ends : endsSession line = true) (rest : List String) :
    d.deeds (line :: rest) = [] :=
  if_pos ends

structure Comes (d : Desk) (deeds : List Deed) (last : Desk) : Prop where
  fit : last.Fit
  obeys : ∀ deed ∈ deeds, deed.Obeys d.instrument d.trading.pipeline.credentials
  posts : last.trading.pipeline.posts = d.trading.pipeline.posts ++ deeds.flatMap (·.posts)
  printed : last.printed = d.printed ++ deeds.flatMap (·.printed)
  forwarded : last.forwarded = d.forwarded ++ deeds.flatMap (·.forwarded)

theorem Comes.of_nothing (fit : d.Fit) : d.Comes [] d :=
  ⟨fit, nofun, (List.append_nil _).symm, (List.append_nil _).symm, (List.append_nil _).symm⟩

theorem Comes.cons {deed : Deed} {deeds : List Deed} {last : Desk}
    (becomes : d.Becomes deed after)
    (obeys : deed.Obeys d.instrument d.trading.pipeline.credentials)
    (comes : after.Comes deeds last) : d.Comes (deed :: deeds) last := by
  obtain ⟨-, instrument, credentials, -, posts, -, printed, forwarded⟩ := becomes
  obtain ⟨fit, later, posts', printed', forwarded'⟩ := comes
  rw [instrument, credentials] at later
  refine ⟨fit, List.forall_mem_cons.mpr ⟨obeys, later⟩, ?_, ?_, ?_⟩
  · rw [posts', posts, List.append_assoc, List.flatMap_cons]
  · rw [printed', printed, List.append_assoc, List.flatMap_cons]
  · rw [forwarded', forwarded, List.append_assoc, List.flatMap_cons]

theorem work_comes (fit : d.Fit) {lines : List String} (answered : d.Answered lines) :
    d.Comes (d.deeds lines) (d.work lines) ∧
      (d.deeds lines).map (·.line) = lines.takeWhile (!endsSession ·) ∧
      d.work lines = d.work (lines.takeWhile (!endsSession ·)) := by
  -- Each line leaves a desk that is fit for the next one, which carries the induction.
  induction lines generalizing d with
  | nil => exact ⟨.of_nothing fit, rfl, rfl⟩
  | cons line rest ih =>
      cases ends : endsSession line with
      | true =>
          have nobody : (line :: rest).takeWhile (!endsSession ·) = [] := by simp [ends]
          rw [work_of_ends ends, deeds_of_ends ends, nobody]
          exact ⟨.of_nothing fit, rfl, rfl⟩
      | false =>
          obtain ⟨inTime, later⟩ := answered.resolve_left (by rw [ends]; nofun)
          obtain ⟨deed, rfl, becomes, obeys⟩ := deed_of_line fit ends inTime
          have single : d.work [deed.line] = d.act (actionOf d.instrument deed.line) :=
            work_cons fit.running ends []
          rw [single] at later
          obtain ⟨comes, lines, same⟩ := ih becomes.fit later
          have first : d.deeds (deed.line :: rest) =
              deed :: (d.act (actionOf d.instrument deed.line)).deeds rest := by
            rw [deeds, if_neg (by rw [ends]; nofun), single, becomes.between]
          have heard : (deed.line :: rest).takeWhile (!endsSession ·) =
              deed.line :: rest.takeWhile (!endsSession ·) := by
            simp [ends]
          rw [first, heard, work_cons fit.running ends, work_cons fit.running ends]
          exact ⟨.cons becomes obeys comes, congrArg (deed.line :: ·) lines, same⟩

theorem carries_of_obeys {instrument : String} {credentials : Trading.Credentials}
    {deeds : List Deed} (obey : ∀ deed ∈ deeds, deed.Obeys instrument credentials) :
    Carries credentials (deeds.flatMap (·.posts))
      ((deeds.map (·.line)).filterMap (callOf? instrument)) := by
  induction deeds with
  | nil => exact .nil
  | cons deed rest ih =>
      obtain ⟨first, others⟩ := List.forall_mem_cons.mp obey
      have calls : ((deed :: rest).map (·.line)).filterMap (callOf? instrument) =
          (callOf? instrument deed.line).toList ++
            (rest.map (·.line)).filterMap (callOf? instrument) := by
        rw [List.map_cons, List.filterMap_cons]
        cases callOf? instrument deed.line <;> rfl
      rw [List.flatMap_cons, calls]
      exact first.carries.append (ih others)

theorem forwarded_of_obeys {instrument : String} {credentials : Trading.Credentials}
    {deeds : List Deed} (obey : ∀ deed ∈ deeds, deed.Obeys instrument credentials) :
    deeds.flatMap (·.forwarded) =
      (deeds.filter (·.connected)).filterMap fun deed => rawOf? deed.line := by
  induction deeds with
  | nil => rfl
  | cons deed rest ih =>
      obtain ⟨first, others⟩ := List.forall_mem_cons.mp obey
      rw [List.flatMap_cons, first.forwards, ih others, List.filter_cons]
      cases deed.connected with
      | false => rfl
      | true =>
          simp only [if_true, List.filterMap_cons]
          cases rawOf? deed.line <;> rfl

end Desk

/-! ## The whole program -/

def newDesk (s : Surroundings) (settings : Settings) (trading : Trading.Rehearsal)
    (printed : List Printed) : Desk :=
  let bridge : Bridge :=
    { settings := settings.broker, router := { interval := settings.listen.bookInterval } }
  { instrument := settings.defaultInstrument
    callTimeout := settings.requests.callTimeout
    endpoint :=
      ⟨settings.exchange.wsHost, settings.exchange.wsPort, settings.exchange.wsPath⟩
    connectTimeout := settings.exchange.connectTimeout
    dial := s.network.dial s.exchangePeer
    bridge := (bridge.start (.ok ())).1
    trading, printed }

def openDesk (s : Surroundings) (settings : Settings) (trading : Trading.Rehearsal)
    (printed : List Printed) : Desk :=
  (newDesk s settings trading printed).connect.print (.out helpText)

theorem named_of_lookup {lookup : Lookup} {settings : Settings}
    (read : Settings.ofLookup lookup = .ok settings) : settings.defaultInstrument ≠ "" := by
  obtain ⟨key, secret, -, -, rfl⟩ := Settings.ofLookup_ok_iff.mp read
  exact Settings.textOr_ne (by decide)

theorem fit_openDesk (s : Surroundings) {settings : Settings} {trading : Trading.Rehearsal}
    (printed : List Printed) (named : settings.defaultInstrument ≠ "") (idle : trading.Idle) :
    (openDesk s settings trading printed).Fit ∧
      (openDesk s settings trading printed).trading = trading ∧
      (openDesk s settings trading printed).instrument = settings.defaultInstrument ∧
      (openDesk s settings trading printed).forwarded = [] := by
  have fit : (newDesk s settings trading printed).Fit := ⟨rfl, nofun, idle, named⟩
  obtain ⟨bridge, complaints, connects, running, connected⟩ := Desk.connect_cases fit
  rw [openDesk, connects]
  exact ⟨⟨running, connected, idle, named⟩, rfl, rfl, rfl⟩

theorem carries_begin {key secret : String} {capacity : Nat} {script : Trading.Script}
    {trading : Trading.Rehearsal}
    (begun : Trading.Rehearsal.begin key secret capacity script = .ok trading) :
    Carries trading.pipeline.credentials trading.pipeline.posts [] := by
  obtain ⟨credentials, reply, started, -⟩ := Trading.Rehearsal.begin_ok begun
  obtain ⟨token, -, pipeline⟩ := Trading.Pipeline.start_ok started
  rw [pipeline]
  exact ⟨.nil, fun post member _ => ⟨0, List.mem_singleton.mp member⟩⟩

theorem run_eq {s : Surroundings} {environment : Environment} {settings : Settings}
    {trading : Trading.Rehearsal} (loaded : Environment.load s.process s.places = .ok environment)
    (read : Settings.ofLookup environment.get? = .ok settings)
    (begun : Trading.Rehearsal.begin settings.credentials.key settings.credentials.secret
      settings.requests.queueCapacity s.script = .ok trading) :
    let d := openDesk s settings trading (telemetryWarning (.ofLookup environment.get?))
    let last := d.work s.lines
    run s = {
      exitCode := 0
      printed := last.printed
      posts := (last.trading.step .shutdown).1.pipeline.posts } := by
  simp only [run, loaded, read, runSettings, begun]
  rfl

/-- A desk at a console, between two lines, does what the next lines say, up to the first one that
ends the session: it posts one call for each line that asks for one, in the order of the lines, and
beside them only asks for tokens; it sends the lines that are no commands while it is connected; and
each of its deeds is what its line asks for. The program is at such a desk when it reads its first
line, and what it leaves behind is what is on the desk after the last one. -/
theorem sessions_obey :
    (∀ (d : Desk) (lines : List String), d.Fit → d.Answered lines →
      let heard := lines.takeWhile (!endsSession ·)
      let deeds := d.deeds lines
      let last := d.work lines
      let credentials := d.trading.pipeline.credentials
      last = d.work heard ∧
      deeds.map (·.line) = heard ∧
      (∀ deed ∈ deeds, deed.Obeys d.instrument credentials) ∧
      last.trading.pipeline.posts = d.trading.pipeline.posts ++ deeds.flatMap (·.posts) ∧
      Carries credentials (deeds.flatMap (·.posts)) (heard.filterMap (callOf? d.instrument)) ∧
      last.printed = d.printed ++ deeds.flatMap (·.printed) ∧
      last.forwarded = d.forwarded ++
        (deeds.filter (·.connected)).filterMap fun deed => rawOf? deed.line) ∧
    ∀ (s : Surroundings) (environment : Environment) (settings : Settings)
      (trading : Trading.Rehearsal),
      Environment.load s.process s.places = .ok environment →
      Settings.ofLookup environment.get? = .ok settings →
      Trading.Rehearsal.begin settings.credentials.key settings.credentials.secret
        settings.requests.queueCapacity s.script = .ok trading →
      let d := openDesk s settings trading (telemetryWarning (.ofLookup environment.get?))
      let heard := s.lines.takeWhile (!endsSession ·)
      let last := d.work s.lines
      d.Fit ∧ d.forwarded = [] ∧ (d.Answered s.lines →
        (run s).exitCode = 0 ∧
        (run s).printed = last.printed ∧
        (run s).posts = last.trading.pipeline.posts ∧
        Carries trading.pipeline.credentials (run s).posts
          (heard.filterMap (callOf? settings.defaultInstrument))) := by
  refine ⟨fun d lines fit answered => ?_,
    fun s environment settings trading loaded read begun => ?_⟩
  · obtain ⟨⟨-, obeys, posts, printed, forwarded⟩, heard, same⟩ := Desk.work_comes fit answered
    refine ⟨same, heard, obeys, posts, ?_, printed, ?_⟩
    · exact heard ▸ Desk.carries_of_obeys obeys
    · rw [← Desk.forwarded_of_obeys obeys]
      exact forwarded
  · intro d heard last
    obtain ⟨fit, same, instrument, unsent⟩ :
        d.Fit ∧ d.trading = trading ∧ d.instrument = _ ∧ d.forwarded = [] :=
      fit_openDesk s _ (named_of_lookup read) (Trading.Rehearsal.idle_begin begun)
    refine ⟨fit, unsent, fun answered => ?_⟩
    obtain ⟨⟨fit, obeys, posts, -, -⟩, lines, -⟩ := Desk.work_comes fit answered
    have finish := run_eq loaded read begun
    have ended : (run s).posts = last.trading.pipeline.posts :=
      (congrArg Finish.posts finish).trans fit.idle.shutdown
    refine ⟨congrArg Finish.exitCode finish, congrArg Finish.printed finish, ended, ?_⟩
    rw [ended, posts, same, ← instrument]
    rw [same] at obeys
    have carried := Desk.carries_of_obeys obeys
    rw [lines] at carried
    exact (carries_begin begun).append carried

theorem sessions_obey_of_five_lines :
    let s : Surroundings := {
      process := fun key => if key = "API_KEY" then some "k" else
        if key = "API_SECRET" then some "s" else none
      places := []
      lines := ["positions", " hello ", "buy limit 0 1", "quit", "orders"]
      network := .up
      exchangePeer := .accepting }
    let environment : Environment := { process := s.process }
    let settings : Settings := { credentials := ⟨"k", "s"⟩ }
    let trading : Trading.Rehearsal := {
      pipeline := {
        credentials := settings.credentials
        capacity := 1024
        token := ⟨"token-1", 900, 0⟩
        nextId := 1
        posts := [Trading.tokenPost settings.credentials 0] }
      script := { defaultGrants := 1 }
      now := 0 }
    let d := openDesk s settings trading (telemetryWarning (.ofLookup environment.get?))
    Environment.load s.process s.places = .ok environment ∧
      Settings.ofLookup environment.get? = .ok settings ∧
      Trading.Rehearsal.begin settings.credentials.key settings.credentials.secret
        settings.requests.queueCapacity s.script = .ok trading ∧
      d.Fit ∧ d.Answered s.lines ∧
      (d.work s.lines).forwarded = ["hello"] ∧
      (run s).exitCode = 0 ∧
      Carries trading.pipeline.credentials (run s).posts
        [⟨"private/get_positions", .ofMembers [("currency", .string "BTC")]⟩] := by
  intro s environment settings trading d
  have loaded : Environment.load s.process s.places = .ok environment := rfl
  have read : Settings.ofLookup environment.get? = .ok settings := by decide +kernel
  have begun : Trading.Rehearsal.begin settings.credentials.key settings.credentials.secret
    settings.requests.queueCapacity s.script = .ok trading := by
    show Trading.Rehearsal.begin "k" "s" 1024 {} = _
    rfl
  obtain ⟨fit, -, ends⟩ := sessions_obey.2 s environment settings trading loaded read begun
  have answered : d.Answered s.lines := by
    refine .inr ⟨fun call asked => ?_, .inr ⟨nofun, .inr ⟨nofun, .inl rfl⟩⟩⟩
    have positions : some ⟨"private/get_positions", .ofMembers [("currency", .string "BTC")]⟩ =
        some call := asked
    cases positions
    have same : d.trading = trading := rfl
    rw [same]
    have good : trading.pipeline.token.needsRefresh (Trading.momentOfMillis trading.now) = false :=
      by decide +kernel
    simp only [Trading.Rehearsal.exchange?, good]
    exact ⟨_, rfl, by decide +kernel⟩
  obtain ⟨exit, -, -, carries⟩ := ends answered
  obtain ⟨-, -, -, -, -, -, forwarded⟩ := sessions_obey.1 d s.lines fit answered
  exact ⟨loaded, read, begun, fit, answered, forwarded.trans (by decide +kernel), exit, carries⟩

end FeedBridge.Console
