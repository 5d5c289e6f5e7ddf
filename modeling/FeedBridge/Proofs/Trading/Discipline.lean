import FeedBridge.Proofs.Trading.Ledger

namespace FeedBridge.Trading

theorem Token.needsRefresh_mono {token : Token} {now later : Instant} (ordered : now ≤ later)
    (due : token.needsRefresh now = true) : token.needsRefresh later = true := by
  unfold Token.needsRefresh Token.secondsSince at *
  have longer : (now - token.grantedAt).toNat / tenTo 9 ≤ (later - token.grantedAt).toNat / tenTo 9 :=
    Nat.div_le_div_right (Int.toNat_le_toNat (Int.sub_le_sub_right ordered _))
  simp only [decide_eq_true_eq] at *
  omega

/-! ## Without the answers to calls -/

def Pipeline.blurred (p : Pipeline) : Pipeline :=
  { p with
    settled := p.settled.map fun settled => (settled.1, .error .dropped)
    counters :=
      { p.counters with succeeded := p.counters.succeeded + p.counters.failed, failed := 0 }
    metrics := { p.metrics with requests := {}, timings := {} } }

def Execution.blurred (e : Execution) : Execution := { e with answer := none }

@[simp] theorem Execution.blurred_comp_blurred :
    Execution.blurred ∘ Execution.blurred = Execution.blurred := rfl

namespace Traffic

/-- The traffic without the answers to calls and without what follows from them for the callers. -/
def blurred (t : Traffic) : Traffic :=
  { t with
    pipeline := t.pipeline.blurred
    done := t.done.map Execution.blurred
    current := t.current.map Execution.blurred }

/-- Two lists of steps that differ at most in the answers to calls. -/
inductive Alike : Traffic → List Step → List Step → Prop
  | nil {t : Traffic} : Alike t [] []
  | same {t : Traffic} {rest rest' : List Step} (step : Step) (later : Alike (t.step step) rest rest') :
      Alike t (step :: rest) (step :: rest')
  | answer {t : Traffic} {rest rest' : List Step} {job : Job}
      (calling : t.pipeline.stage = .calling job) (now : Instant) (reply reply' : Reply)
      (later : Alike (t.work now reply) rest rest') :
      Alike t (.work now reply :: rest) (.work now reply' :: rest')

end Traffic

namespace Traffic

end Traffic

namespace Pipeline

variable (p : Pipeline)

@[simp] theorem blurred_posts : p.blurred.posts = p.posts := rfl

@[simp] theorem settle_posts (job : Job) (result : Result) : (p.settle job result).posts = p.posts :=
  rfl

end Pipeline

namespace Traffic

end Traffic

namespace Execution

variable {credentials : Credentials} {e : Execution}

theorem Posted.filter (posted : e.Posted credentials) : ∃ id id' : UInt64,
    e.posts.filter Post.asksForToken = (if e.due then [tokenPost credentials id] else []) ∧
      e.posts.filter (fun post => !post.asksForToken) =
        (e.bearer?.map fun token => callPost e.job.call id' token.accessToken).toList := by
  obtain ⟨-, id, id', posts⟩ := posted
  refine ⟨id, id', ?_, ?_⟩
  · rw [posts]
    cases e.due <;> cases e.bearer? <;> simp
  · rw [posts]
    cases e.due <;> cases e.bearer? <;> simp

theorem Posted.head (posted : e.Posted credentials) :
    e.posts.head?.map Post.asksForToken = some e.due := by
  obtain ⟨-, id, id', posts⟩ := posted
  rw [posts]
  cases due : e.due <;> simp [bearer?, due]

theorem granted?_of_refused {cause : AuthError} (refused : e.renewal? = some (.error cause)) :
    e.granted? = none := by
  simp [granted?, refused, Except.toOption]

theorem Posted.due_of_refused (posted : e.Posted credentials) {cause : AuthError}
    (refused : e.renewal? = some (.error cause)) : e.due = true := by
  by_contra fresh
  have ungranted := posted.1 (by simpa using fresh)
  simp [renewal?, ungranted] at refused

theorem Posted.asks_only (posted : e.Posted credentials) {cause : AuthError}
    (refused : e.renewal? = some (.error cause)) : ∀ post ∈ e.posts, post.asksForToken = true := by
  obtain ⟨id, id', -, calls⟩ := posted.filter
  have nothing : e.bearer? = none := by
    simp [bearer?, posted.due_of_refused refused, granted?_of_refused refused]
  rw [nothing] at calls
  intro post listed
  have silent := List.filter_eq_nil_iff.mp calls post listed
  simpa using silent

theorem Posted.bearer (posted : e.Posted credentials) {held : Token} (found : e.token = held)
    (asked : e.due = true → e.grant.isSome) (granted : ∀ cause, e.renewal? ≠ some (.error cause)) :
    e.bearer? = some (e.granted?.getD held) := by
  cases due : e.due with
  | false => simp [bearer?, due, granted?_of_ungranted (posted.1 due), found]
  | true =>
      obtain ⟨answer, grant⟩ := Option.isSome_iff_exists.mp (asked due)
      have renewal : e.renewal? = some (tokenOfReply answer.1 answer.2) := by
        simp [renewal?, grant]
      cases reply : tokenOfReply answer.1 answer.2 with
      | error cause => exact absurd (reply ▸ renewal) (granted cause)
      | ok token => simp [bearer?, due, granted?, renewal, reply, Except.toOption]

end Execution

namespace Traffic

variable {t : Traffic} {room : Nat} {credentials : Credentials} {seed : UInt64} {initial : Token}

theorem Ledger.number (ledger : t.Ledger credentials seed initial) {k : Nat} {post : Post}
    (found : t.pipeline.posts[k]? = some post) (fits : seed.toNat + k < UInt64.size) :
    post.body.get? "id" = some (.nat (seed.toNat + k)) := by
  have small : (UInt64.ofNat k).toNat = k := UInt64.toNat_ofNat_of_lt' (by omega)
  rw [ledger.numbered.numbers k post found, UInt64.toNat_add, small, Nat.mod_eq_of_lt fits]

end Traffic

end FeedBridge.Trading
