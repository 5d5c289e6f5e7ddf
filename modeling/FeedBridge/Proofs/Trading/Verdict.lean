import FeedBridge.Proofs.Trading.Books
import FeedBridge.Trading.Http

namespace FeedBridge.Trading

def Stage.isCalling : Stage → Bool
  | .calling _ => true
  | _ => false

theorem Stage.calling_of_isCalling {stage : Stage} (calling : stage.isCalling = true) :
    ∃ job, stage = .calling job := by
  cases stage with
  | calling job => exact ⟨job, rfl⟩
  | _ => cases calling

namespace Http.Response

/-- Whether the exchange says in a response that a call went through, with this value. -/
def Confirms (r : Response) (value : Json) : Prop :=
  isSuccess r.status = true ∧ Json.parse? r.text = some value ∧
    (value.get? "result").isSome ∧ value.get? "error" = none

def IsVague (r : Response) : Prop :=
  ∃ value, Json.parse? r.text = some value ∧ value.get? "error" = none ∧ ¬r.Confirms value

theorem isVague_of_parsed {r : Response} {value : Json} (parsed : Json.parse? r.text = some value) :
    r.IsVague ↔ (value.get? "error").isNone ∧
      ¬(isSuccess r.status = true ∧ (value.get? "result").isSome) := by
  constructor
  · rintro ⟨found, same, clean, vague⟩
    rw [parsed] at same
    cases same
    refine ⟨by simp [clean], fun confirmed => vague ⟨confirmed.1, parsed, confirmed.2, clean⟩⟩
  · rintro ⟨clean, unconfirmed⟩
    refine ⟨value, parsed, by simpa using clean, fun confirmed => unconfirmed ?_⟩
    exact ⟨confirmed.1, confirmed.2.2.1⟩

instance (r : Response) : Decidable r.IsVague :=
  match parsed : Json.parse? r.text with
  | some _ => decidable_of_iff' _ (isVague_of_parsed parsed)
  | none => isFalse fun ⟨_, found, _⟩ => by
      rw [parsed] at found
      cases found

/-- What a caller may be told on a response: success only if the exchange confirms it, and the
refusal of the exchange if there is one. -/
def Truthful (r : Response) (result : Result) : Prop :=
  (∀ value, result = .ok value → r.Confirms value) ∧
    ∀ value error, Json.parse? r.text = some value → value.get? "error" = some error →
      result = .error (.exchange (.ofJson error))

theorem resultOfReply_ok_iff (r : Response) (value : Json) :
    resultOfReply r.reply = .ok value ↔
      Json.parse? r.text = some value ∧ value.get? "error" = none := by
  unfold reply
  cases parsed : Json.parse? r.text with
  | none => cases isSuccess r.status <;> simp [resultOfReply]
  | some found =>
      cases error : found.get? "error" with
      | none =>
          simp only [resultOfReply, error, Except.ok.injEq, Option.some.injEq]
          constructor
          · rintro rfl
            exact ⟨rfl, error⟩
          · exact fun same => same.1
      | some refusal =>
          simp only [resultOfReply, error, reduceCtorEq, Option.some.injEq, false_iff]
          rintro ⟨rfl, none⟩
          rw [error] at none
          cases none

theorem resultOfReply_of_error {r : Response} {value error : Json}
    (parsed : Json.parse? r.text = some value) (found : value.get? "error" = some error) :
    resultOfReply r.reply = .error (.exchange (.ofJson error)) := by
  simp only [reply, parsed, resultOfReply, found]

theorem truthful_resultOfReply_iff (r : Response) : r.Truthful (resultOfReply r.reply) ↔ ¬r.IsVague := by
  constructor
  · rintro ⟨confirmed, -⟩ ⟨value, parsed, clean, vague⟩
    exact vague (confirmed value ((resultOfReply_ok_iff r value).mpr ⟨parsed, clean⟩))
  · intro clear
    refine ⟨fun value succeeded => ?_, fun value error => resultOfReply_of_error⟩
    obtain ⟨parsed, clean⟩ := (resultOfReply_ok_iff r value).mp succeeded
    by_contra vague
    exact clear ⟨value, parsed, clean, vague⟩

end Http.Response

namespace Traffic

variable {t : Traffic} {room : Nat}

theorem pipeline_of_calling {job : Job} (calling : t.pipeline.stage = .calling job) (now : Instant)
    (reply : Reply) :
    (t.work now reply).pipeline = t.pipeline.settle job (resultOfReply reply) := by
  have settled : (t.pipeline.settle job (resultOfReply reply)).stage = .ready := rfl
  simp only [work, calling, Pipeline.reply, settled]

theorem settle_counts (p : Pipeline) (job : Job) (result : Result) :
    (p.settle job result).counters.succeeded =
        p.counters.succeeded + (if result.isOk then 1 else 0) ∧
      (p.settle job result).counters.failed =
        p.counters.failed + (if result.isOk then 0 else 1) := by
  cases result <;> exact ⟨rfl, rfl⟩

theorem Sound.resolves (sound : t.Sound room) {job : Job} (calling : t.pipeline.stage = .calling job)
    (now : Instant) (reply : Reply) :
    (t.work now reply).pipeline.result? job.ticket = some (resultOfReply reply) := by
  have after : (t.work now reply).Sound room := sound.step (.work now reply)
  have once : ((t.work now reply).pipeline.settled.map Prod.fst).Nodup :=
    after.settled_range ▸ List.nodup_range
  rw [Pipeline.result?, lookup_iff_mem once, pipeline_of_calling calling]
  exact List.mem_append_right _ (List.mem_singleton_self _)

/-- After any run, whatever response comes to a call: its ticket resolves to a success exactly if
the response holds a JSON value without an error, whatever its status, and only a success is
counted as one. So the caller is told the truth exactly if such a value is a confirmation. -/
theorem truthful_iff {credentials : Credentials} {capacity : Nat} {seed : UInt64}
    {reply : Reply} {now : Instant} {p : Pipeline}
    (started : Pipeline.start credentials capacity seed reply now = .ok p) (steps : List Step)
    {job : Job} (calling : (run { pipeline := p } steps).pipeline.stage = .calling job)
    (response : Http.Response) (moment : Instant) :
    let before := (run { pipeline := p } steps).pipeline
    let after := ((run { pipeline := p } steps).work moment response.reply).pipeline
    ∃ result, after.result? job.ticket = some result ∧
      (∀ value, result = .ok value ↔
        Json.parse? response.text = some value ∧ value.get? "error" = none) ∧
      after.counters.succeeded = before.counters.succeeded + (if result.isOk then 1 else 0) ∧
      after.counters.failed = before.counters.failed + (if result.isOk then 0 else 1) ∧
      (response.Truthful result ↔ ¬response.IsVague) := by
  intro before after
  have sound := (sound_start started).run steps
  have counts := settle_counts before job (resultOfReply response.reply)
  have settled : after = before.settle job (resultOfReply response.reply) :=
    pipeline_of_calling calling moment response.reply
  rw [← settled] at counts
  exact ⟨resultOfReply response.reply, sound.resolves calling moment response.reply,
    response.resultOfReply_ok_iff, counts.1, counts.2, response.truthful_resultOfReply_iff⟩

theorem truthful_of_confirmation :
    let grant := Json.object [("result", .array [.string "a", .string "r", .nat 900])]
    let credentials : Credentials := ⟨"k", "s"⟩
    let p : Pipeline := {
      credentials
      capacity := 1
      token := ⟨"a", 900, 0⟩
      nextId := 8
      posts := [tokenPost credentials 7] }
    let work : Step := .work 0 (.ok .null)
    let steps := .begin ⟨"private/cancel", .null⟩ :: List.replicate 4 (.advance 0) ++
      List.replicate 3 work
    let response : Http.Response := { body := "\x7b\"result\":1\x7d".toUTF8.data.toList }
    Pipeline.start credentials 1 7 (.ok grant) 0 = .ok p ∧
      ∃ job, (run { pipeline := p } steps).pipeline.stage = .calling job ∧
        ∃ result, ((run { pipeline := p } steps).work 0 response.reply).pipeline.result?
          job.ticket = some result ∧ response.Truthful result := by
  intro grant credentials p work steps response
  have started : Pipeline.start credentials 1 7 (.ok grant) 0 = .ok p := rfl
  have posted : (run { pipeline := p } steps).pipeline.stage.isCalling = true := by decide +kernel
  have clear : ¬response.IsVague := by decide +kernel
  obtain ⟨job, calling⟩ := Stage.calling_of_isCalling posted
  obtain ⟨result, resolved, -, -, -, truthful⟩ := truthful_iff started steps calling response 0
  exact ⟨started, job, calling, result, resolved, truthful.mpr clear⟩

/-- The answer of an empty object to a cancellation is reported as a success. -/
theorem empty_answer_succeeds :
    let grant := Json.object [("result", .array [.string "a", .string "r", .nat 900])]
    let credentials : Credentials := ⟨"k", "s"⟩
    let p : Pipeline := {
      credentials
      capacity := 1
      token := ⟨"a", 900, 0⟩
      nextId := 8
      posts := [tokenPost credentials 7] }
    let work : Step := .work 0 (.ok .null)
    let steps := .begin ⟨"private/cancel", .null⟩ :: List.replicate 4 (.advance 0) ++
      List.replicate 3 work
    let response : Http.Response := { body := [0x7B, 0x7D] }
    let after := ((run { pipeline := p } steps).work 0 response.reply).pipeline
    Pipeline.start credentials 1 7 (.ok grant) 0 = .ok p ∧
      after.result? 0 = some (.ok (.object [])) ∧ after.counters.succeeded = 1 ∧
      ¬response.Confirms (.object []) := by
  intro grant credentials p work steps response after
  have started : Pipeline.start credentials 1 7 (.ok grant) 0 = .ok p := rfl
  have posted : (run { pipeline := p } steps).pipeline.stage.isCalling = true := by decide +kernel
  have inHand : (run { pipeline := p } steps).pipeline.stage.job?.map Job.ticket = some 0 := by
    decide +kernel
  obtain ⟨job, calling⟩ := Stage.calling_of_isCalling posted
  have ticket : job.ticket = 0 := by
    rw [calling] at inHand
    exact Option.some.inj inHand
  have resolved := ((sound_start started).run steps).resolves calling 0 response.reply
  have empty : resultOfReply (Http.Response.reply { body := [0x7B, 0x7D] }) = .ok (.object []) := by
    rfl
  rw [ticket] at resolved
  refine ⟨started, resolved.trans (congrArg some empty), by decide +kernel, fun confirmed => ?_⟩
  cases confirmed.2.2.1

end Traffic

end FeedBridge.Trading
