import FeedBridge.Proofs.Json.Rewording
import FeedBridge.Proofs.Trading.Traffic

/-!
# Tokens and what callers are told

Two runs of a pipeline hear the same, except for the access tokens in the answers to requests for
tokens. They go on alike and hold different tokens (`Traffic.Twin`). What the one who starts the
pipeline and the callers are told is the same exactly if every changed answer that is heard can be
read as a grant: one that cannot be read is told in full, with the token in it
(`Traffic.told_alike_iff`).
-/

namespace FeedBridge.Trading

def Grant.withToken (token : String) : Json → Json
  | .array (access :: rest) => .array (access.reworded token :: rest)
  | value => value.mapMember "access_token" (Json.reworded token)

def replyWithToken (token : String) (reply : Reply) : Reply :=
  reply.map (Json.mapMember "result" (Grant.withToken token))

namespace Grant

variable (token : String)

theorem readText_reworded (value : Json) :
    readText (value.reworded token) = (readText value).map fun _ => token := by
  cases value <;> rfl

theorem readMember_mapMember (value : Json) :
    readMember (value.mapMember "access_token" (Json.reworded token)) "access_token" readText =
      (readMember value "access_token" readText).map fun access => access.map fun _ => token := by
  unfold readMember
  rw [Json.get?_mapMember_self]
  cases value.get? "access_token" with
  | none => rfl
  | some member =>
      simp only [Option.map_some, readText_reworded]
      cases readText member <;> rfl

theorem readMember_mapMember_of_ne {α : Type} {key : String} (different : key ≠ "access_token")
    (value : Json) (read : Json → Except GrantError α) :
    readMember (value.mapMember "access_token" (Json.reworded token)) key read =
      readMember value key read := by
  unfold readMember
  rw [Json.get?_mapMember_of_ne different]

theorem ofObject_withToken (value : Json) :
    ofObject (value.mapMember "access_token" (Json.reworded token)) =
      (ofObject value).map fun grant => { grant with accessToken := token } := by
  unfold ofObject
  rw [readMember_mapMember, readMember_mapMember_of_ne token (by decide),
    readMember_mapMember_of_ne token (by decide), readMember_mapMember_of_ne token (by decide)]
  rcases readMember value "access_token" readText with _ | _ | access <;>
    rcases readMember value "expires_in" readInt64 with _ | _ | lifetime <;>
    cases readMember value "refresh_token" readText <;>
    cases readMember value "scope" readOptionalText <;> rfl

theorem ofItems_withToken (access : Json) (rest : List Json) :
    ofItems (access.reworded token :: rest) =
      (ofItems (access :: rest)).map fun grant => { grant with accessToken := token } := by
  have read := readText_reworded token access
  match rest with
  | [] =>
      simp only [ofItems, read]
      cases readText access <;> rfl
  | [refresh] =>
      simp only [ofItems, read]
      cases readText access <;> cases readText refresh <;> rfl
  | [refresh, lifetime] =>
      simp only [ofItems, read]
      cases readText access <;> cases readText refresh <;> cases readInt64 lifetime <;> rfl
  | refresh :: lifetime :: scope :: more =>
      simp only [ofItems, read]
      cases readText access <;> cases readText refresh <;> cases readInt64 lifetime <;>
        cases readOptionalText scope <;> cases more.isEmpty <;> rfl

theorem ofJson_withToken (value : Json) :
    ofJson (withToken token value) =
      (ofJson value).map fun grant => { grant with accessToken := token } := by
  cases value with
  | object members => exact ofObject_withToken token (.object members)
  | array items =>
      cases items with
      | nil => rfl
      | cons access rest => exact ofItems_withToken token access rest
  | _ => rfl

theorem toldApart_withToken (value : Json) : value.ToldApart (withToken token value) := by
  have member (value : Json) :
      value.ToldApart (value.mapMember "access_token" (Json.reworded token)) :=
    Json.ToldApart.mapMember (Json.ToldApart.reworded token) "access_token" value
  cases value with
  | array items =>
      cases items with
      | nil => exact member _
      | cons access rest => exact (Json.ToldApart.reworded token access).head rest
  | _ => exact member _

end Grant

theorem tokenOfReply_of_none {answer : Json} (found : answer.get? "result" = none) (now : Instant) :
    tokenOfReply (.ok answer) now = .error (.rejected answer.text) := by
  simp only [tokenOfReply, found]

theorem tokenOfReply_of_ok {answer result : Json} {grant : Grant}
    (found : answer.get? "result" = some result) (read : Grant.ofJson result = .ok grant)
    (now : Instant) : tokenOfReply (.ok answer) now = .ok (.ofGrant grant now) := by
  simp only [tokenOfReply, found, read]

theorem tokenOfReply_of_error {answer result : Json} {cause : GrantError}
    (found : answer.get? "result" = some result) (unread : Grant.ofJson result = .error cause)
    (now : Instant) : tokenOfReply (.ok answer) now =
      .error (.rejected (cause.message ++ ": " ++ answer.text)) := by
  simp only [tokenOfReply, found, unread]

theorem rejected_inj {text text' : String}
    (same : (AuthError.rejected text).message = (AuthError.rejected text').message) :
    text = text' :=
  (String.append_right_inj _).mp same

theorem tokenOfReply_withToken (token : String) (reply : Reply) (now : Instant) :
    (∃ granted, tokenOfReply reply now = .ok granted ∧
      tokenOfReply (replyWithToken token reply) now = .ok { granted with accessToken := token }) ∨
    ∃ cause cause', tokenOfReply reply now = .error cause ∧
      tokenOfReply (replyWithToken token reply) now = .error cause' ∧
      (cause'.message = cause.message → replyWithToken token reply = reply) := by
  cases reply with
  | error failure => exact .inr ⟨_, _, rfl, rfl, fun _ => rfl⟩
  | ok answer =>
      obtain ⟨changed, isChanged⟩ :
          ∃ changed, answer.mapMember "result" (Grant.withToken token) = changed := ⟨_, rfl⟩
      have reply : replyWithToken token (.ok answer) = .ok changed := congrArg Except.ok isChanged
      have apart := Json.ToldApart.mapMember (Grant.toldApart_withToken token) "result" answer
      have member := Json.get?_mapMember_self "result" (Grant.withToken token) answer
      rw [isChanged] at apart member
      rw [reply]
      cases found : answer.get? "result" with
      | none =>
          rw [found, Option.map_none] at member
          refine .inr ⟨_, _, tokenOfReply_of_none found now, tokenOfReply_of_none member now,
            fun same => ?_⟩
          rw [apart.eq_of_text (rejected_inj same).symm]
      | some result =>
          rw [found, Option.map_some] at member
          have read := Grant.ofJson_withToken token result
          cases grant : Grant.ofJson result with
          | ok grant =>
              rw [grant] at read
              exact .inl ⟨_, tokenOfReply_of_ok found grant now, tokenOfReply_of_ok member read now⟩
          | error cause =>
              rw [grant] at read
              refine .inr ⟨_, _, tokenOfReply_of_error found grant now,
                tokenOfReply_of_error member read now, fun same => ?_⟩
              rw [apart.eq_of_text ((String.append_right_inj _).mp (rejected_inj same)).symm]

/-! ## Pipelines with different tokens -/

def Pipeline.Twin (p q : Pipeline) : Prop :=
  ∃ accessToken posts settled,
    q = { p with token := { p.token with accessToken }, posts, settled }

namespace Pipeline

variable {p q : Pipeline}

def work (p : Pipeline) (now : Instant) (reply : Reply) : Pipeline :=
  match p.stage with
  | .ready => p.receive
  | .received _ => p.discount
  | .dispatching _ => p.dispatch now
  | .authenticating _ | .calling _ => p.reply reply now
  | .finished | .crashed => p

def verdicts (p : Pipeline) (now : Instant) (reply : Reply) : List (Nat × Result) :=
  match p.stage with
  | .authenticating job =>
    match tokenOfReply reply now with
    | .ok _ => []
    | .error cause => [(job.ticket, .error (.authentication cause))]
  | .calling job => [(job.ticket, resultOfReply reply)]
  | _ => []

theorem settled_receive (p : Pipeline) : p.receive.settled = p.settled := by
  unfold receive
  split
  · rfl
  · split <;> rfl
  · rfl

theorem settled_work (p : Pipeline) (now : Instant) (reply : Reply) :
    (p.work now reply).settled = p.settled ++ p.verdicts now reply := by
  unfold work verdicts
  cases stage : p.stage with
  | ready => rw [settled_receive, List.append_nil]
  | received job => simp [discount, stage, publishDepth, setDepth]
  | dispatching job =>
      simp only [dispatch, stage, List.append_nil]
      split <;> rfl
  | authenticating job =>
      simp only [Pipeline.reply, stage]
      cases tokenOfReply reply now with
      | ok token => exact (List.append_nil _).symm
      | error cause => rfl
  | calling job => simp only [Pipeline.reply, stage, settle]
  | finished | crashed => exact (List.append_nil _).symm

namespace Twin

theorem stage_eq (twin : p.Twin q) : q.stage = p.stage := by
  obtain ⟨_, _, _, rfl⟩ := twin
  rfl

theorem settle (twin : p.Twin q) (job : Job) {result result' : Result}
    (alike : outcomeOf result' = outcomeOf result) :
    (p.settle job result).Twin (q.settle job result') := by
  obtain ⟨token, posts, settled, rfl⟩ := twin
  refine ⟨token, posts, settled ++ [(job.ticket, result')], ?_⟩
  unfold Pipeline.settle countResult
  rw [alike]
  rcases result with cause | answer <;> rcases result' with cause' | answer'
  · rfl
  · cases cause <;> cases alike
  · cases cause' <;> cases alike
  · rfl

theorem receive (twin : p.Twin q) : p.receive.Twin q.receive := by
  obtain ⟨token, posts, settled, rfl⟩ := twin
  refine ⟨token, posts, settled, ?_⟩
  cases stage : p.stage with
  | ready =>
      cases queue : p.waiting with
      | nil =>
          simp only [Pipeline.receive, stage, queue]
          split <;> simp only [stage, queue]
      | cons job rest => simp only [Pipeline.receive, stage, queue]
  | _ => simp only [Pipeline.receive, stage]

theorem dispatch (twin : p.Twin q) (now : Instant) : (p.dispatch now).Twin (q.dispatch now) := by
  obtain ⟨token, posts, settled, rfl⟩ := twin
  have due : Token.needsRefresh { p.token with accessToken := token } now =
      p.token.needsRefresh now := rfl
  cases stage : p.stage with
  | dispatching job =>
      simp only [Pipeline.dispatch, stage, due]
      cases p.token.needsRefresh now <;> exact ⟨_, _, _, rfl⟩
  | _ =>
      simp only [Pipeline.dispatch, stage]
      exact ⟨token, posts, settled, by simp only [stage]⟩

theorem reply_of_granted (twin : p.Twin q) {job : Job}
    (authenticating : p.stage = .authenticating job)
    {reply reply' : Reply} {now : Instant} {granted : Token} {token : String}
    (first : tokenOfReply reply now = .ok granted)
    (second : tokenOfReply reply' now = .ok { granted with accessToken := token }) :
    (p.reply reply now).Twin (q.reply reply' now) := by
  obtain ⟨_, _, _, rfl⟩ := twin
  simp only [Pipeline.reply, authenticating, first, second]
  exact ⟨_, _, _, rfl⟩

theorem reply_of_refused (twin : p.Twin q) {job : Job}
    (authenticating : p.stage = .authenticating job)
    {reply reply' : Reply} {now : Instant} {cause cause' : AuthError}
    (first : tokenOfReply reply now = .error cause)
    (second : tokenOfReply reply' now = .error cause') :
    (p.reply reply now).Twin (q.reply reply' now) := by
  have stage := twin.stage_eq.trans authenticating
  simp only [Pipeline.reply, authenticating, stage, first, second]
  exact twin.settle job rfl

theorem work (twin : p.Twin q) (now : Instant) (reply : Reply) :
    (p.work now reply).Twin (q.work now reply) ∧ q.verdicts now reply = p.verdicts now reply := by
  have same := twin.stage_eq
  unfold Pipeline.work verdicts
  rw [same]
  refine ⟨?_, rfl⟩
  cases stage : p.stage with
  | ready => exact twin.receive
  | received job =>
      obtain ⟨token, posts, settled, rfl⟩ := twin
      simp only [discount, stage]
      exact ⟨token, posts, settled, rfl⟩
  | dispatching job => exact twin.dispatch now
  | authenticating job =>
      cases heard : tokenOfReply reply now with
      | ok granted => exact twin.reply_of_granted stage heard heard
      | error cause => exact twin.reply_of_refused stage heard heard
  | calling job =>
      simp only [Pipeline.reply, stage, same]
      exact twin.settle job rfl
  | finished | crashed => exact twin

end Twin

end Pipeline

theorem Attempt.start_twin {p q : Pipeline} (twin : p.Twin q) (call : Call) :
    (start p call).1.Twin (start q call).1 ∧ (start q call).2 = (start p call).2 := by
  obtain ⟨token, posts, settled, rfl⟩ := twin
  unfold start Pipeline.takeShare?
  cases isOpen : p.accepting with
  | true => exact ⟨⟨token, posts, settled, rfl⟩, rfl⟩
  | false => exact ⟨⟨token, posts, settled, by simp [isOpen]⟩, rfl⟩

theorem Attempt.advance_twin {p q : Pipeline} (twin : p.Twin q) (a : Attempt) :
    (a.advance p).1.Twin (a.advance q).1 ∧ (a.advance q).2 = (a.advance p).2 := by
  obtain ⟨token, posts, settled, rfl⟩ := twin
  unfold advance
  rcases a.phase with _ | _ | (cause | ticket) | answer | answer
  case announced =>
    have same : Pipeline.answer { p with
        token := { p.token with accessToken := token }, posts, settled } = p.answer := rfl
    rw [same]
    cases p.answer <;> exact ⟨⟨token, posts, settled, rfl⟩, rfl⟩
  all_goals exact ⟨⟨token, posts, settled, rfl⟩, rfl⟩

namespace Traffic

variable {t u : Traffic}

structure Twin (t u : Traffic) : Prop where
  pipeline : t.pipeline.Twin u.pipeline
  attempts : u.attempts = t.attempts

def verdict (t : Traffic) : Step → List (Nat × Result)
  | .work now reply => t.pipeline.verdicts now reply
  | _ => []

def verdicts (t : Traffic) : List Step → List (Nat × Result)
  | [] => []
  | step :: rest => t.verdict step ++ (t.step step).verdicts rest

theorem work_pipeline (t : Traffic) (now : Instant) (reply : Reply) :
    (t.work now reply).pipeline = t.pipeline.work now reply := by
  unfold work Pipeline.work
  cases t.pipeline.stage with
  | authenticating | calling =>
      dsimp only
      split <;> rfl
  | _ => rfl

theorem work_attempts (t : Traffic) (now : Instant) (reply : Reply) :
    (t.work now reply).attempts = t.attempts := by
  have worked := worked t now reply
  generalize t.work now reply = next at worked ⊢
  cases worked <;> rfl

theorem settled_step (t : Traffic) (step : Step) :
    (t.step step).pipeline.settled = t.pipeline.settled ++ t.verdict step := by
  rcases step.work_or_idle with ⟨now, reply, rfl⟩ | idle
  · rw [step_work, work_pipeline]
    exact t.pipeline.settled_work now reply
  · have same := (t.step_undisturbed idle).1.settled
    cases step with
    | work => cases idle
    | _ => exact same.trans (List.append_nil _).symm

theorem settled_run (t : Traffic) (steps : List Step) :
    (t.run steps).pipeline.settled = t.pipeline.settled ++ t.verdicts steps := by
  induction steps generalizing t with
  | nil => exact (List.append_nil _).symm
  | cons step rest ih => rw [run_cons, ih, settled_step, verdicts, List.append_assoc]

theorem Twin.begin (twin : t.Twin u) (call : Call) : (t.begin call).Twin (u.begin call) := by
  obtain ⟨pipeline, attempt⟩ := Attempt.start_twin twin.pipeline call
  refine ⟨pipeline, ?_⟩
  have attempts : (u.begin call).attempts = u.attempts ++ [(Attempt.start u.pipeline call).2] := rfl
  rw [attempts, twin.attempts, attempt]
  rfl

theorem Twin.advance (twin : t.Twin u) (caller : Nat) :
    (t.advance caller).Twin (u.advance caller) := by
  unfold Traffic.advance
  rw [twin.attempts]
  cases t.attempts[caller]? with
  | none => exact twin
  | some a =>
      obtain ⟨pipeline, after⟩ := Attempt.advance_twin twin.pipeline a
      exact ⟨pipeline, congrArg (t.attempts.set caller) after⟩

theorem Twin.work (twin : t.Twin u) {now : Instant} {reply reply' : Reply}
    (pipeline : (t.pipeline.work now reply).Twin (u.pipeline.work now reply')) :
    (t.work now reply).Twin (u.work now reply') := by
  refine ⟨?_, ?_⟩
  · rwa [work_pipeline, work_pipeline]
  · rw [work_attempts, work_attempts, twin.attempts]

theorem Twin.step (twin : t.Twin u) (step : Step) :
    (t.step step).Twin (u.step step) ∧ u.verdict step = t.verdict step := by
  cases step with
  | begin call => exact ⟨twin.begin call, rfl⟩
  | advance caller => exact ⟨twin.advance caller, rfl⟩
  | work now reply =>
      obtain ⟨pipeline, verdicts⟩ := twin.pipeline.work now reply
      exact ⟨twin.work pipeline, verdicts⟩
  | shutdown =>
      obtain ⟨token, posts, settled, same⟩ := twin.pipeline
      have closed : t.pipeline.close.Twin u.pipeline.close :=
        ⟨token, posts, settled, by simp only [Pipeline.close, same]⟩
      exact ⟨⟨closed, twin.attempts⟩, rfl⟩
  | release ticket => exact ⟨⟨twin.pipeline, twin.attempts⟩, rfl⟩

end Traffic

/-! ## What shows -/

def worded (settled : Nat × Result) : Nat × Except String Json :=
  (settled.1, settled.2.mapError RequestError.message)

/-- Whether a changed answer to a request for a token is one that cannot be read as a grant. -/
def Spilled (now : Instant) (reply reply' : Reply) : Prop :=
  reply' ≠ reply ∧ ∃ cause, tokenOfReply reply now = .error cause

structure Shows (spilled : Prop) (results results' : List (Nat × Result)) : Prop where
  length_eq : results'.length = results.length
  kept : ¬spilled → results' = results
  shown : results'.map worded = results.map worded → ¬spilled

namespace Shows

theorem refl (results : List (Nat × Result)) : Shows False results results :=
  ⟨rfl, fun _ => rfl, fun _ => id⟩

theorem append {spilled spilled' : Prop} {first first' second second' : List (Nat × Result)}
    (earlier : Shows spilled first first') (later : Shows spilled' second second') :
    Shows (spilled ∨ spilled') (first ++ second) (first' ++ second') := by
  refine ⟨?_, fun kept => ?_, fun same => ?_⟩
  · rw [List.length_append, List.length_append, earlier.length_eq, later.length_eq]
  · rw [not_or] at kept
    rw [earlier.kept kept.1, later.kept kept.2]
  · rw [List.map_append, List.map_append] at same
    obtain ⟨one, other⟩ := List.append_inj same (by simp [earlier.length_eq])
    exact not_or.mpr ⟨earlier.shown one, later.shown other⟩

end Shows

theorem authentication_inj {cause cause' : AuthError} (same :
    (RequestError.authentication cause).message = (RequestError.authentication cause').message) :
    cause.message = cause'.message :=
  (String.append_right_inj _).mp same

namespace Traffic

/-- Two runs of steps that differ at most in the access tokens in answers to requests for tokens. -/
inductive Retold : Traffic → List Step → List Step → Prop
  | nil {t : Traffic} : Retold t [] []
  | same {t : Traffic} {rest rest' : List Step} (step : Step)
      (later : Retold (t.step step) rest rest') : Retold t (step :: rest) (step :: rest')
  | answer {t : Traffic} {rest rest' : List Step} {job : Job}
      (authenticating : t.pipeline.stage = .authenticating job) (now : Instant) (reply : Reply)
      (token : String) (later : Retold (t.work now reply) rest rest') :
      Retold t (.work now reply :: rest) (.work now (replyWithToken token reply) :: rest')

theorem Retold.after {t : Traffic} (first : List Step) {rest rest' : List Step}
    (later : Retold (t.run first) rest rest') : Retold t (first ++ rest) (first ++ rest') := by
  induction first generalizing t with
  | nil => exact later
  | cons step first ih => exact .same step (ih later)

def SpillsNext (t : Traffic) : Step → Step → Prop
  | .work now reply, .work _ reply' =>
    (∃ job, t.pipeline.stage = .authenticating job) ∧ Spilled now reply reply'
  | _, _ => False

def Spills (t : Traffic) : List Step → List Step → Prop
  | step :: rest, step' :: rest' => t.SpillsNext step step' ∨ (t.step step).Spills rest rest'
  | _, _ => False

theorem not_spillsNext (t : Traffic) (step : Step) : ¬t.SpillsNext step step := by
  cases step with
  | work now reply => exact fun spilled => spilled.2.1 rfl
  | _ => exact id

variable {t u : Traffic}

theorem Twin.answer (twin : t.Twin u) {job : Job}
    (authenticating : t.pipeline.stage = .authenticating job) (now : Instant) (reply : Reply)
    (token : String) :
    let reply' := replyWithToken token reply
    (t.work now reply).Twin (u.work now reply') ∧
      Shows (t.SpillsNext (.work now reply) (.work now reply'))
        (t.verdict (.work now reply)) (u.verdict (.work now reply')) := by
  intro reply'
  have stage := twin.pipeline.stage_eq.trans authenticating
  have asked : ∃ job, t.pipeline.stage = .authenticating job := ⟨job, authenticating⟩
  have next (pipeline : (t.pipeline.reply reply now).Twin (u.pipeline.reply reply' now)) :
      (t.work now reply).Twin (u.work now reply') :=
    twin.work (by simpa only [Pipeline.work, authenticating, stage] using pipeline)
  rcases tokenOfReply_withToken token reply now with
    ⟨granted, first, second⟩ | ⟨cause, cause', first, second, shown⟩
  · refine ⟨next (twin.pipeline.reply_of_granted authenticating first second), ?_⟩
    simp only [verdict, Pipeline.verdicts, authenticating, stage, first, reply', second]
    refine ⟨rfl, fun _ => rfl, fun _ spilled => ?_⟩
    obtain ⟨-, -, cause, refused⟩ := spilled
    rw [first] at refused
    cases refused
  · refine ⟨next (twin.pipeline.reply_of_refused authenticating first second), ?_⟩
    simp only [verdict, Pipeline.verdicts, authenticating, stage, first, reply', second]
    refine ⟨rfl, fun kept => ?_, fun same spilled => ?_⟩
    · have unchanged : replyWithToken token reply = reply := by
        by_contra changed
        exact kept ⟨asked, changed, cause, first⟩
      rw [unchanged, first] at second
      cases second
      rfl
    · obtain ⟨-, changed, -⟩ := spilled
      have words : (RequestError.authentication cause').message =
          (RequestError.authentication cause).message := by
        simpa only [worded, List.map_cons, List.map_nil, List.cons.injEq, Prod.mk.injEq, true_and,
          and_true, Except.mapError, Except.error.injEq] using same
      exact changed (shown (authentication_inj words))

theorem Retold.shows {steps steps' : List Step} (retold : Retold t steps steps') (twin : t.Twin u) :
    (t.run steps).Twin (u.run steps') ∧
      Shows (t.Spills steps steps') (t.verdicts steps) (u.verdicts steps') := by
  induction retold generalizing u with
  | nil => exact ⟨twin, .refl []⟩
  | @same t rest rest' step later ih =>
      obtain ⟨next, verdict⟩ := twin.step step
      obtain ⟨last, shows⟩ := ih next
      refine ⟨last, ?_⟩
      have first : Shows (t.SpillsNext step step) (t.verdict step) (u.verdict step) := by
        rw [verdict, eq_false (t.not_spillsNext step)]
        exact .refl _
      exact first.append shows
  | answer authenticating now reply token later ih =>
      obtain ⟨next, first⟩ := twin.answer authenticating now reply token
      obtain ⟨last, shows⟩ := ih next
      exact ⟨last, first.append shows⟩

abbrev Told (ε : Type) := List (Option (Except ε Nat)) × List (Nat × Except ε Json)

def told (t : Traffic) : Told RequestError :=
  (t.attempts.map Attempt.answer?, t.pipeline.settled)

/-- What is told of a pipeline: why it does not start, or else what its callers are told. -/
def account (credentials : Credentials) (capacity : Nat) (seed : UInt64) (reply : Reply)
    (now : Instant) (steps : List Step) : Except RequestError (Told RequestError) :=
  (Pipeline.start credentials capacity seed reply now).map fun p =>
    (run { pipeline := p } steps).told

def inWords (account : Except RequestError (Told RequestError)) : Except String (Told String) :=
  (account.mapError RequestError.message).map fun (answers, results) =>
    (answers.map (Option.map (Except.mapError RequestError.message)), results.map worded)

theorem Retold.told {steps steps' : List Step} (retold : Retold t steps steps') (twin : t.Twin u)
    (settled : u.pipeline.settled = t.pipeline.settled) :
    (¬t.Spills steps steps' → (u.run steps').told = (t.run steps).told) ∧
      (inWords (.ok (u.run steps').told) = inWords (.ok (t.run steps).told) →
        ¬t.Spills steps steps') := by
  obtain ⟨last, shows⟩ := retold.shows twin
  refine ⟨fun unspilled => ?_, fun same => shows.shown ?_⟩
  · unfold Traffic.told
    rw [last.attempts, settled_run, settled_run, settled, shows.kept unspilled]
  · have results := congrArg Prod.snd (Except.ok.inj same)
    simp only [Traffic.told, settled_run, settled, List.map_append] at results
    exact List.append_cancel_left results

/-- Two starts and runs that differ at most in the access tokens in answers to requests for tokens:
the start, the answers to all submissions and all results come out the same, in the texts of the
errors too, exactly if every changed answer that is heard can be read as a grant. -/
theorem told_alike_iff {credentials : Credentials} {capacity : Nat} {seed : UInt64} {reply : Reply}
    {now : Instant} (token : String) {steps steps' : List Step}
    (retold : ∀ p, Pipeline.start credentials capacity seed reply now = .ok p →
      Retold { pipeline := p } steps steps') :
    let reply' := replyWithToken token reply
    let before := account credentials capacity seed reply now steps
    let after := account credentials capacity seed reply' now steps'
    let spilled := Spilled now reply reply' ∨ ∃ p,
      Pipeline.start credentials capacity seed reply now = .ok p ∧
        Spills { pipeline := p } steps steps'
    (after = before ↔ ¬spilled) ∧ (inWords after = inWords before ↔ ¬spilled) := by
  intro reply' before after spilled
  have whole : (¬spilled → after = before) ∧ (inWords after = inWords before → ¬spilled) := by
    -- Either both runs start, and whatever spills does so later on, or neither does.
    rcases tokenOfReply_withToken token reply now with
      ⟨granted, first, second⟩ | ⟨cause, cause', first, second, shown⟩
    · obtain ⟨p, started, started'⟩ : ∃ p,
          Pipeline.start credentials capacity seed reply now = .ok p ∧
          Pipeline.start credentials capacity seed reply' now =
            .ok { p with token := { p.token with accessToken := token } } := by
        simp only [Pipeline.start, first, reply', second]
        exact ⟨_, rfl, rfl⟩
      have twin : Twin { pipeline := p }
          { pipeline := { p with token := { p.token with accessToken := token } } } :=
        ⟨⟨token, p.posts, p.settled, rfl⟩, rfl⟩
      have later : spilled ↔ Spills { pipeline := p } steps steps' := by
        simp [spilled, Spilled, first, started]
      simp only [before, after, account, started, started', later]
      obtain ⟨kept, shown⟩ := (retold p started).told twin rfl
      exact ⟨fun unspilled => congrArg Except.ok (kept unspilled), shown⟩
    · have unstarted {reply : Reply} {cause : AuthError}
          (refused : tokenOfReply reply now = .error cause) :
          Pipeline.start credentials capacity seed reply now = .error (.authentication cause) := by
        simp only [Pipeline.start, refused]
      have here : spilled ↔ reply' ≠ reply := by
        simp [spilled, Spilled, first, unstarted first]
      have unstarted' : Pipeline.start credentials capacity seed reply' now =
          .error (.authentication cause') := unstarted second
      simp only [before, after, account, unstarted first, unstarted', here]
      refine ⟨fun kept => ?_, fun same changed => changed (shown ?_)⟩
      · have unchanged : replyWithToken token reply = reply := not_not.mp kept
        rw [unchanged, first] at second
        cases second
        rfl
      · exact authentication_inj (Except.error.inj same)
  exact ⟨⟨fun same => whole.2 (congrArg inWords same), whole.1⟩,
    ⟨whole.2, fun unspilled => congrArg inWords (whole.1 unspilled)⟩⟩

theorem told_alike_of_renewal :
    let grant (token : String) : Reply := .ok (.object [("result",
      .object [("access_token", .string token), ("expires_in", .nat 900)])])
    let credentials : Credentials := ⟨"k", "s"⟩
    let p : Pipeline := {
      credentials
      capacity := 1
      token := ⟨"a", 900, 0⟩
      nextId := 8
      posts := [tokenPost credentials 7] }
    let late : Instant := 1000000000000
    let work (reply : Reply) : Step := .work late reply
    let first : List Step := .begin ⟨"private/cancel", .null⟩ :: List.replicate 4 (.advance 0) ++
      [work (.ok .null), work (.ok .null)]
    let steps (token : String) := first ++ [work (.ok .null), work (grant token), work (.ok .null)]
    let told (first second : String) := account credentials 1 7 (grant first) 0 (steps second)
    Pipeline.start credentials 1 7 (grant "a") 0 = .ok p ∧
      Retold { pipeline := p } (steps "b") (steps "d") ∧
      (run { pipeline := p } (steps "b")).pipeline.token.accessToken = "b" ∧
      told "c" "d" = told "a" "b" := by
  intro grant credentials p late work first steps told
  have granted (token : String) (now : Instant) :
      tokenOfReply (grant token) now = .ok ⟨token, 900, now⟩ := rfl
  have started : Pipeline.start credentials 1 7 (grant "a") 0 = .ok p := rfl
  have due : p.token.needsRefresh late = true := by decide
  have dispatching : (run { pipeline := p } first).pipeline.stage =
      .dispatching ⟨0, ⟨"private/cancel", .null⟩⟩ := rfl
  have token : (run { pipeline := p } first).pipeline.token = p.token := rfl
  have authenticating : ((run { pipeline := p } first).work late (.ok .null)).pipeline.stage =
      .authenticating ⟨0, ⟨"private/cancel", .null⟩⟩ := by
    rw [work_pipeline, Pipeline.work, dispatching]
    simp only [Pipeline.dispatch, dispatching, token, due, if_true, Pipeline.postToken]
  have retold : Retold { pipeline := p } (steps "b") (steps "d") :=
    .after first (.same _ (.answer authenticating late (grant "b") "d" (.same _ .nil)))
  have other : replyWithToken "c" (grant "a") = grant "c" := rfl
  have same := (told_alike_iff "c" fun q began => by
    rw [started] at began
    cases began
    exact retold).1.mpr
  rw [other] at same
  refine ⟨started, retold, by decide +kernel, same ?_⟩
  rintro (⟨-, cause, refused⟩ | ⟨q, -, spills⟩)
  · rw [granted] at refused
    cases refused
  · simp [steps, first, work, Spills, SpillsNext, Spilled, granted, List.replicate] at spills

/-- A result with a token that cannot be read as a grant, since its lifetime is missing, is told in
full to the one who starts the pipeline. -/
theorem token_told_of_missing_lifetime :
    let reply (token : String) : Reply :=
      .ok (.object [("result", .object [("access_token", .string token)])])
    let told (token : String) := inWords (account ⟨"k", "s"⟩ 1 7 (reply token) 0 [])
    let text (token : String) := "authentication error: authentication failed: missing field " ++
      "\x60expires_in\x60: \x7b\"result\":\x7b\"access_token\":\"" ++ token ++ "\"\x7d\x7d"
    reply "b" = replyWithToken "b" (reply "a") ∧ told "a" = .error (text "a") ∧
      told "b" = .error (text "b") ∧ told "b" ≠ told "a" := by
  intro reply told text
  have first : told "a" = .error (text "a") := rfl
  have second : told "b" = .error (text "b") := rfl
  refine ⟨rfl, first, second, fun same => ?_⟩
  rw [first, second] at same
  have different : text "b" ≠ text "a" := by decide
  exact different (Except.error.inj same)

end Traffic

end FeedBridge.Trading
