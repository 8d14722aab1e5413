import LogPipeline.Proofs.Pipeline.Draining
import LogPipeline.Proofs.Pipeline.Idempotence

namespace LogPipeline

open Backend

def Batch.IsOpen (batch : Batch) : Prop :=
  batch.status = .pending ∨ batch.status = .processing

def Backend.Open (b : Backend) (id : BatchId) : Prop :=
  ∃ batch, b.batches.get? id = some batch ∧ batch.IsOpen

/-! ## What is opened -/

structure Opens (named : List BatchId) (b after : Backend) : Prop where
  writes : after.batches.failWrites = b.batches.failWrites
  opened : ∀ id, after.Open id → b.Open id ∨ id ∈ named

variable {policy : RetryPolicy} {now : Timestamp} {id : BatchId} {retry : Nat} {b : Backend}

theorem opens_of_same {after : Backend} (same : after.batches = b.batches) : Opens [] b after := by
  refine ⟨by rw [same], fun id opened => .inl ?_⟩
  rw [Backend.Open, same] at opened
  exact opened

theorem closed_of_settled (settled : Settled policy b id) : ¬ b.Open id := by
  obtain ⟨outcome, known⟩ := settled
  rintro ⟨batch, found, pending | processing⟩
  · simp [found, settledOutcome?, pending] at known
  · simp [found, settledOutcome?, processing] at known

theorem Attempted.writes {requests : List Request} {result : Except Failure Outcome}
    {after : Backend} (attempted : Attempted policy now id retry b requests result after)
    (writable : b.batches.failWrites = false) :
    after.batches.failWrites = false ∧ ∀ request ∈ requests, request.isFailedWrite = false := by
  cases attempted with
  | heldUnrecorded _ _ failing | unmarked _ failing => cases writable.symm.trans failing
  | settled | outage => exact ⟨writable, List.forall_mem_nil _⟩
  | held | empty | refused | stored => exact ⟨writable, by simp [Request.isFailedWrite]⟩

theorem Concluded.writes {tried : Observed.Tried}
    (concluded : Concluded policy now id retry b tried) (writable : b.batches.failWrites = false) :
    tried.after.batches.failWrites = false ∧
      ∀ request ∈ tried.requests, request.isFailedWrite = false := by
  cases concluded with
  | ended attempted => exact attempted.writes writable
  | retried attempted => exact attempted.writes writable
  | unrecorded attempted _ failing => cases (attempted.writes writable).1.symm.trans failing
  | failed attempted =>
      obtain ⟨still, recorded⟩ := attempted.writes writable
      exact ⟨still, forall_mem_append_singleton recorded rfl⟩

theorem opens_tryOnce (plain : b.Plain) (writable : b.batches.failWrites = false)
    (policy : RetryPolicy) (now : Timestamp) (id : BatchId) (retry : Nat) :
    Opens [id] b (tryOnce policy now id retry b).2 ∧
      ∀ outcome, (tryOnce policy now id retry b).1 = .done outcome →
        ¬ (tryOnce policy now id retry b).2.Open id := by
  rw [Observed.tryOnce_shows]
  have concluded := concluded_tryOnce plain policy now id retry
  obtain ⟨still, recorded⟩ := concluded.writes writable
  refine ⟨⟨still.trans writable.symm, ?_⟩, fun outcome done =>
    closed_of_settled (concluded.settled_after done recorded)⟩
  rintro other ⟨batch, found, opened⟩
  by_cases same : other = id
  · exact .inr (List.mem_singleton.mpr same)
  · exact .inl ⟨batch, (concluded.concerns.2 other same).symm.trans found, opened⟩

theorem opens_cleanUp (plain : b.Plain) (policy : RetentionPolicy) (now : Timestamp) :
    Opens [] b (LogPipeline.cleanUp policy now b).2 where
  writes := failWrites_cleanUp plain policy now
  opened id := by
    rintro ⟨batch, found, opened⟩
    have swept := swept_cleanUp plain policy now id
    rw [found] at swept
    -- A record that a cleanup rewrites is a failed one, so an open one was there before.
    rcases swept.status with before | failed
    · exact .inl ⟨batch, before, opened⟩
    · rw [Batch.IsOpen, failed] at opened
      rcases opened with opened | opened <;> cases opened

theorem opens_put (batch : Batch) {after : Backend}
    (saved : after.batches = b.batches.put batch) : Opens [batch.id] b after := by
  refine ⟨by rw [saved]; rfl, ?_⟩
  rintro id ⟨found, shown, opened⟩
  rw [saved, BatchStore.get?_put] at shown
  split at shown
  · rename_i same
    exact .inr (List.mem_singleton.mpr same.symm)
  · exact .inl ⟨found, shown, opened⟩

theorem opens_erase (b : Backend) (gone : BatchId) :
    Opens [] b { b with batches := b.batches.erase gone } := by
  refine ⟨rfl, ?_⟩
  rintro id ⟨found, shown, opened⟩
  rw [BatchStore.get?_erase] at shown
  split at shown
  · cases shown
  · exact .inl ⟨found, shown, opened⟩

/-! ## What is attended to -/

theorem Task.eq_resume_of_resumed? {task : Task} {id : BatchId} {retry : Nat}
    (resumes : task.resumed? = some (id, retry)) : task = .resume id retry := by
  cases task with
  | resume =>
      cases resumes
      rfl
  | _ => cases resumes

namespace Pipeline

variable {α : Type} {p q : Pipeline α}

structure Attended (p : Pipeline α) : Prop where
  writable : p.backend.batches.failWrites = false
  scheduled : ∀ id, p.backend.Open id → id ∈ p.pool.waiting ++ p.pool.seated

theorem Attended.of_opens {named : List BatchId} (attended : Attended p)
    (opens : Opens named p.backend q.backend)
    (stays : ∀ id ∈ p.pool.waiting ++ p.pool.seated, id ∈ q.pool.waiting ++ q.pool.seated)
    (comes : ∀ id ∈ named, id ∈ q.pool.waiting ++ q.pool.seated) : Attended q where
  writable := opens.writes.trans attended.writable
  scheduled id opened := by
    rcases opens.opened id opened with before | new
    · exact stays id (attended.scheduled id before)
    · exact comes id new

theorem Attended.of_same (attended : Attended p) (batches : q.backend.batches = p.backend.batches)
    (pool : q.pool = p.pool) : Attended q :=
  attended.of_opens (opens_of_same batches) (by rw [pool]; exact fun _ => id)
    (List.forall_mem_nil _)

theorem Attended.announce (attended : Attended p) (delivers : p.handler = .deliver)
    (running : p.pool.shutDown = false) {id : BatchId} {backend : Backend}
    (opens : Opens [id] p.backend backend) :
    Attended (Pipeline.announce id { p with backend }).2 := by
  rw [announce_of_deliver (p := { p with backend }) delivers]
  have joins : (({ p with backend } : Pipeline α).scheduled id).pool =
      { p.pool with waiting := p.pool.waiting ++ [id] } := by
    simp [Pipeline.scheduled, running]
  have kept : (({ p with backend } : Pipeline α).scheduled id).backend = backend := by
    simp [Pipeline.scheduled, running]
  refine attended.of_opens (kept.symm ▸ opens) (fun other member => ?_) ?_
  · rw [joins]
    rcases List.mem_append.mp member with waits | sits
    · exact List.mem_append_left _ (List.mem_append_left _ waits)
    · exact List.mem_append_right _ sits
  · rw [joins]
    exact List.forall_mem_singleton.mpr
      (List.mem_append_left _ (List.mem_append_right _ List.mem_cons_self))

theorem Attended.deliver (attended : Attended p) (plain : p.backend.Plain)
    (interval : p.pool.policy.interval ≠ 0) (running : p.pool.shutDown = false) {id : BatchId}
    (sits : id ∈ p.pool.seated) (retry n : Nat) : Attended (deliver id retry (n + 1) p).2 := by
  obtain ⟨opens, settles⟩ := opens_tryOnce plain attended.writable p.pool.policy p.now id retry
  rw [deliver_succ]
  cases tried : tryOnce p.pool.policy p.now id retry p.backend with
  | mk next after =>
      rw [tried] at opens settles
      have kept : Attended { p with backend := after } := by
        refine attended.of_opens opens (fun _ member => member) fun other same => ?_
        rw [List.mem_singleton.mp same]
        exact List.mem_append_right _ sits
      cases next with
      | done outcome =>
          refine ⟨kept.writable, fun other opened => ?_⟩
          -- The batch that gives its seat back is settled, so whoever is open is another one.
          have differs : other ≠ id := by
            rintro rfl
            exact settles outcome rfl opened
          rcases List.mem_append.mp (kept.scheduled other opened) with waits | sits
          · exact List.mem_append_left _ waits
          · exact List.mem_append_right _ ((List.mem_erase_of_ne differs).mpr sits)
      | wait next span =>
          have some : span ≠ 0 := (eq_of_wait tried).2 ▸ RetryPolicy.backoff_ne_zero interval _
          simp only [running, Bool.false_eq_true, if_false, some, setTimer_apply,
            Nanos.waitMillis_ne_zero some]
          exact kept.of_same rfl rfl

theorem Attended.serve (attended : Attended p) (plain : p.backend.Plain)
    (interval : p.pool.policy.interval ≠ 0) (running : p.pool.shutDown = false) :
    Attended (serve p).2 := by
  rw [serve_apply]
  cases waits : p.pool.waiting with
  | nil => exact attended
  | cons id others =>
      dsimp only
      split
      · exact attended
      · have sat : Attended { p with
            pool := { p.pool with seated := p.pool.seated ++ [id], waiting := others } } := by
          refine attended.of_opens (opens_of_same rfl) (fun other member => ?_)
            (List.forall_mem_nil _)
          rw [waits] at member
          rw [← List.append_assoc]
          exact (List.perm_append_singleton id _).mem_iff.mpr member
        exact sat.deliver plain interval running (List.mem_append_right _ List.mem_cons_self) 0 _

theorem Attended.makeBatch (attended : Attended p) (orderly : Orderly p)
    (running : p.pool.shutDown = false) (key : Key) (logs : List RawLog) :
    Attended (makeBatch key logs p).2 := by
  have saved : (saveBatch (.new p.backend.ids.fresh key logs p.now)).on
      { p.backend with ids := p.backend.ids.advance } = (.ok (), { p.backend with
        ids := p.backend.ids.advance
        batches := p.backend.batches.put (.new p.backend.ids.fresh key logs p.now) }) := by
    rw [on_saveBatch (b := { p.backend with ids := p.backend.ids.advance })
      ⟨orderly.plain.faults, orderly.plain.script⟩]
    simp only [BatchStore.save, attended.writable, Bool.false_eq_true, if_false]
  rw [makeBatch_apply, saved]
  exact attended.announce orderly.handler running
    (opens_put (.new p.backend.ids.fresh key logs p.now) rfl)

theorem Attended.makeBatches (attended : Attended p) (orderly : Orderly p)
    (running : p.pool.shutDown = false) (groups : List Group) :
    Attended (makeBatches groups p).2 := by
  induction groups generalizing p with
  | nil => exact attended
  | cons group rest ih =>
      have made := (proceeds_makeBatch orderly running group.1 group.2).1
      rw [makeBatches_cons]
      exact ih (attended.makeBatch orderly running group.1 group.2) made.orderly
        (made.shutDown.trans running)

theorem Attended.drainBuffers (attended : Attended p) (orderly : Orderly p)
    (running : p.pool.shutDown = false) : Attended (drainBuffers p).2 := by
  rw [drainBuffers_apply]
  split
  · exact attended
  · have cleared : Orderly (showBuffered { p with buffers := p.buffers.cleared }).2 :=
      orderly.of_same rfl rfl rfl rfl ⟨orderly.plain.faults, orderly.plain.script⟩ fun _ => id
    have still : Attended (showBuffered { p with buffers := p.buffers.cleared }).2 :=
      attended.of_same rfl rfl
    exact still.makeBatches cleared running p.buffers.groups

theorem Attended.runTask [Quantity α] (attended : Attended p) (orderly : Orderly p)
    (running : p.pool.shutDown = false) {task : Task} {rest : List Task}
    (among : p.ready.Perm (task :: rest)) :
    Attended (runTask task { p with ready := rest }).2 := by
  have member : task ∈ p.ready := among.mem_iff.mpr List.mem_cons_self
  have taken : Attended { p with ready := rest } := attended.of_same rfl rfl
  cases task with
  | flush key logs =>
      have fewer := (proceeds_take orderly among rfl (orderly.served_take among rfl)).orderly
      exact taken.makeBatch fewer running key logs
  | serve => exact taken.serve orderly.plain orderly.interval running
  | resume id retry =>
      have resumes : (id, retry) ∈ p.resuming := List.mem_filterMap.mpr ⟨_, member, rfl⟩
      have sits : id ∈ p.pool.seated :=
        orderly.seated.mem_iff.mpr (List.mem_map_of_mem (List.mem_append_left _ resumes))
      exact taken.deliver orderly.plain orderly.interval running sits retry _
  | run job =>
      have again := proceeds_again orderly among
      have timed : Attended (setTimer job.period (.run job) { p with ready := rest }).2 := by
        rw [setTimer_apply]
        split <;> exact attended.of_same rfl rfl
      obtain ⟨kind, period⟩ := job
      cases kind with
      | flushBuffers => exact timed.drainBuffers again.orderly (again.shutDown.trans running)
      | refillLimiter | evictDecisions => exact timed.of_same rfl rfl
      | cleanUp =>
          exact timed.of_opens (opens_cleanUp again.orderly.plain _ _)
            (fun _ member => member) (List.forall_mem_nil _)
  | change c => exact (orderly.ready _ member).elim

theorem Attended.moveTo (attended : Attended p) (instant : Nat) : Attended (moveTo instant p).2 :=
  attended.of_same rfl rfl

/-! ## Who attends -/

inductive HasTask (p : Pipeline α) (id : BatchId) : Prop where
  | queued (waits : id ∈ p.pool.waiting)
  | due (retry : Nat) (ready : .resume id retry ∈ p.ready)
  | pausing (timer : Timer) (among : timer ∈ p.timers) (retry : Nat)
      (resumes : timer.task = .resume id retry)

theorem Orderly.hasTask_of_seated (orderly : Orderly p) {id : BatchId}
    (sits : id ∈ p.pool.seated) : HasTask p id := by
  obtain ⟨⟨_, retry⟩, member, rfl⟩ := List.mem_map.mp (orderly.seated.mem_iff.mp sits)
  rcases List.mem_append.mp member with resumes | pauses
  · obtain ⟨task, among, resumes⟩ := List.mem_filterMap.mp resumes
    exact .due retry (Task.eq_resume_of_resumed? resumes ▸ among)
  · obtain ⟨timer, among, resumes⟩ := List.mem_filterMap.mp pauses
    exact .pausing timer among retry (Task.eq_resume_of_resumed? resumes)

theorem HasTask.of_settled (orderly : Orderly p) (settled : p.ready = []) {id : BatchId}
    (task : HasTask p id) :
    id ∈ p.pool.waiting ∧ p.pool.seats ≤ p.pool.seated.length ∨ id ∈ p.pausing.map Prod.fst := by
  cases task with
  | queued waits =>
      have served := orderly.served
      have some := List.length_pos_of_mem waits
      rw [settled, List.countP_nil] at served
      exact .inl ⟨waits, by omega⟩
  | due retry ready =>
      rw [settled] at ready
      cases ready
  | pausing timer among retry resumes =>
      refine .inr (List.mem_map.mpr ⟨(id, retry), List.mem_filterMap.mpr ⟨timer, among, ?_⟩, rfl⟩)
      rw [resumes]
      rfl

theorem Attended.hasTask (attended : Attended p) (orderly : Orderly p) {id : BatchId}
    (opened : p.backend.Open id) : HasTask p id := by
  rcases List.mem_append.mp (attended.scheduled id opened) with waits | sits
  · exact .queued waits
  · exact orderly.hasTask_of_seated sits

end Pipeline

end LogPipeline
