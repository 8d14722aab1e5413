import LogPipeline.Proofs.Service.Turns
import LogPipeline.Proofs.Time.Timestamp

/-!
# How recent the last attempt is

A batch whose delivery has begun waits for its next attempt, and an attempt that fails is either on
record or has been turned away before it could be recorded. So its last recorded attempt is no
further back than all waits before the next one together, unless the batch is still pending.
-/

namespace LogPipeline

open Backend

/-! ## Instants -/

theorem Timestamp.not_lt_before {epoch : Int} {tried clock waits : Nat} {timeout : Nanos}
    (inside : (Timestamp.ofMillis epoch).inRange = true) (recent : clock ≤ tried + waits)
    (ample : Nanos.ofMillis waits ≤ timeout) :
    ¬ Timestamp.ofMillis (epoch + tried) < (Timestamp.ofMillis (epoch + clock)).before timeout := by
  have first : firstSecond ≤ epoch / 1000 := firstSecond_le_of_inRange inside
  have span : waits * 1000000 ≤ timeout := ample
  have kept : firstSecond ≤ (Timestamp.ofMillis (epoch + tried)).second := by
    simp only [ofMillis]
    omega
  rw [lt_before_iff kept]
  rintro ⟨limit, made, sooner⟩
  have less := nanos_lt_of_lt (nano_ofMillis_lt _) sooner
  rw [nanos_of_minus? made, nanos_ofMillis, nanos_ofMillis] at less
  omega

/-! ## Records -/

structure Pacing where
  epoch : Int
  policy : RetryPolicy
  retention : RetentionPolicy

/-- The processing timeout is no shorter than all waits of a delivery together. -/
def Pacing.IsAmple (s : Pacing) : Prop :=
  Nanos.ofMillis (s.policy.waits 0 s.policy.maxRetries.toNat) ≤ s.retention.processingTimeout

/-- What is recorded of a batch after the first recorded attempt, when its next attempt is due at
an instant. Only a cleanup that comes too early makes it a failed one. -/
structure Pacing.Underway (s : Pacing) (due retry : Nat) (batch : Batch) : Prop where
  status : batch.status = .processing ∨
    ¬ s.IsAmple ∧ batch.status = .failed ∧ batch.error = some timeoutMessage
  recent : ∃ tried : Nat, batch.lastProcess = some (.ofMillis (s.epoch + tried)) ∧
    due ≤ tried + s.policy.waits 0 retry

def Untried (found : Option Batch) : Prop :=
  ∀ batch, found = some batch → batch.status = .pending

structure Pacing.Awaits (s : Pacing) (due retry : Nat) (found : Option Batch) : Prop where
  bound : retry ≤ s.policy.maxRetries.toNat
  record : ∀ batch, found = some batch → batch.status = .pending ∨ s.Underway due retry batch

inductive Eased (ample : Prop) : Option Batch → Option Batch → Prop where
  | kept (found : Option Batch) : Eased ample found found
  | gone (found : Option Batch) : Eased ample found none
  | timedOut {batch : Batch} (short : ¬ ample) (processing : batch.status = .processing) :
      Eased ample (some batch) (some batch.timedOut)

variable {s : Pacing} {due retry : Nat} {found left : Option Batch}

theorem Untried.eased {ample : Prop} (untried : Untried found) (eased : Eased ample found left) :
    Untried left := by
  cases eased with
  | kept => exact untried
  | gone =>
      intro batch recorded
      cases recorded
  | timedOut short processing => cases (untried _ rfl).symm.trans processing

theorem Untried.awaits (untried : Untried found) (s : Pacing) (due : Nat) : s.Awaits due 0 found :=
  ⟨Nat.zero_le _, fun batch recorded => .inl (untried batch recorded)⟩

namespace Pacing

theorem Awaits.eased (awaits : s.Awaits due retry found) (eased : Eased s.IsAmple found left) :
    s.Awaits due retry left := by
  cases eased with
  | kept => exact awaits
  | gone => exact ⟨awaits.bound, fun _ recorded => by cases recorded⟩
  | @timedOut batch short processing =>
      refine ⟨awaits.bound, ?_⟩
      rintro _ ⟨⟩
      rcases awaits.record batch rfl with pending | underway
      · cases pending.symm.trans processing
      · exact .inr ⟨.inr ⟨short, rfl, rfl⟩, underway.recent⟩

theorem Underway.recent_of_ample {batch : Batch} (underway : s.Underway due retry batch)
    (bound : retry ≤ s.policy.maxRetries.toNat)
    (inside : (Timestamp.ofMillis s.epoch).inRange = true) (ample : s.IsAmple) {clock : Nat}
    (before : clock ≤ due) :
    BatchStore.isBefore batch.lastProcess
      ((Timestamp.ofMillis (s.epoch + clock)).before s.retention.processingTimeout) = false := by
  obtain ⟨tried, shown, recent⟩ := underway.recent
  have all := s.policy.waits_mono bound
  rw [shown]
  exact decide_eq_false (Timestamp.not_lt_before inside (by omega) ample)

theorem Awaits.eased_leaves {batch : Batch} (awaits : s.Awaits due retry (some batch))
    (inside : (Timestamp.ofMillis s.epoch).inRange = true) {clock : Nat} (before : clock ≤ due) :
    Eased s.IsAmple (some batch)
      (s.retention.leaves (.ofMillis (s.epoch + clock)) batch) := by
  unfold RetentionPolicy.leaves
  split
  · exact .kept _
  · next processing =>
      split
      · next late =>
          refine .timedOut (fun ample => ?_) processing
          rcases awaits.record batch rfl with pending | underway
          · cases pending.symm.trans processing
          · rw [underway.recent_of_ample awaits.bound inside ample before] at late
            cases late
      · exact .kept _
  · split
    · exact .gone _
    · exact .kept _
  · split
    · exact .gone _
    · exact .kept _

theorem Awaits.tryOnce {b : Backend} {id : BatchId} {clock : Nat}
    (awaits : s.Awaits clock retry (b.batches.get? id)) (plain : b.Plain) {next : Nat}
    {span : Nanos} {after : Backend}
    (tried : LogPipeline.tryOnce s.policy (.ofMillis (s.epoch + clock)) id retry b =
      (.wait next span, after)) :
    s.Awaits (clock + span.waitMillis) next (after.batches.get? id) := by
  rw [Observed.tryOnce_shows] at tried
  have concluded := concluded_tryOnce plain s.policy (.ofMillis (s.epoch + clock)) id retry
  generalize Observed.tryOnce _ _ _ _ _ = shown at tried concluded
  cases concluded with
  | ended | unrecorded | failed => cases tried
  | retried attempted more found =>
      cases tried
      have longer := s.policy.waits_concat retry
      refine ⟨more, fun batch recorded => ?_⟩
      -- An attempt that was not recorded leaves the one before it on record.
      have unrecorded : ∀ batch, b.batches.get? id = some batch → batch.status = .pending ∨
          s.Underway (clock + (s.policy.backoff (retry + 1)).waitMillis) (retry + 1) batch := by
        intro batch before
        refine (awaits.record batch before).imp_right fun underway => ⟨underway.status, ?_⟩
        obtain ⟨tried, shown, recent⟩ := underway.recent
        exact ⟨tried, shown, by omega⟩
      cases attempted with
      | outage | unmarked => exact unrecorded batch recorded
      | refused due _ mark =>
          subst mark
          have marked := BatchStore.get?_put_apply due.found
            (startChange retry (.ofMillis (s.epoch + clock)))
          cases marked.symm.trans recorded
          exact .inr ⟨.inl rfl, clock, rfl, by omega⟩

end Pacing

/-! ## Pipelines -/

namespace Pipeline

variable {α : Type} {p q : Pipeline α}

def pacing (p : Pipeline α) : Pacing :=
  ⟨p.epoch, p.pool.policy, p.retention⟩

/-- No timer is overdue. Batches that wait for a seat have not been tried, and those that wait for
their next attempt have been tried recently. -/
structure Punctual (s : Pacing) (p : Pipeline α) : Prop where
  pacing : p.pacing = s
  ahead : ∀ timer ∈ p.timers, p.clock < timer.due
  queued : ∀ id ∈ p.pool.waiting, Untried (p.backend.batches.get? id)
  resuming : ∀ next ∈ p.resuming, s.Awaits p.clock next.2 (p.backend.batches.get? next.1)
  pausing : ∀ timer ∈ p.timers, ∀ next, timer.task.resumed? = some next →
    s.Awaits timer.due next.2 (p.backend.batches.get? next.1)

def engaged (p : Pipeline α) : List BatchId :=
  p.pool.waiting ++ (p.resuming ++ p.pausing).map Prod.fst

theorem Punctual.eased (punctual : Punctual s p) (clock : q.clock = p.clock)
    (pacing : q.pacing = p.pacing)
    (timers : ∀ timer ∈ q.timers,
      timer ∈ p.timers ∨ p.clock < timer.due ∧ timer.task.resumed? = none)
    (waiting : ∀ id ∈ q.pool.waiting, id ∈ p.pool.waiting)
    (resuming : ∀ next ∈ q.resuming, next ∈ p.resuming)
    (records : ∀ id ∈ q.engaged,
      Eased s.IsAmple (p.backend.batches.get? id) (q.backend.batches.get? id)) :
    Punctual s q where
  pacing := pacing.trans punctual.pacing
  ahead timer member := by
    rw [clock]
    rcases timers timer member with before | ⟨later, -⟩
    · exact punctual.ahead timer before
    · exact later
  queued id member :=
    (punctual.queued id (waiting id member)).eased (records id (List.mem_append_left _ member))
  resuming next member := by
    rw [clock]
    exact (punctual.resuming next (resuming next member)).eased
      (records _ (List.mem_append_right _ (List.mem_map_of_mem (List.mem_append_left _ member))))
  pausing timer member next resumes := by
    rcases timers timer member with before | ⟨-, none⟩
    · refine (punctual.pausing timer before next resumes).eased
        (records _ (List.mem_append_right _ (List.mem_map_of_mem (List.mem_append_right _ ?_))))
      exact List.mem_filterMap.mpr ⟨timer, member, resumes⟩
    · cases none.symm.trans resumes

theorem Punctual.of_same (punctual : Punctual s p) (clock : q.clock = p.clock)
    (pacing : q.pacing = p.pacing) (timers : q.timers = p.timers) (pool : q.pool = p.pool)
    (resuming : q.resuming = p.resuming) (batches : q.backend.batches = p.backend.batches) :
    Punctual s q :=
  punctual.eased clock pacing (fun timer member => .inl (timers ▸ member))
    (fun id member => pool ▸ member) (fun next member => resuming ▸ member)
    fun id _ => by rw [batches]; exact .kept _

theorem Punctual.withGateway (punctual : Punctual s p) (gateway : Gateway α) :
    Punctual s { p with gateway } :=
  punctual.of_same rfl rfl rfl rfl rfl rfl

theorem Punctual.setTimer (punctual : Punctual s p) {task : Task} (none : task.resumed? = none)
    (delay : Nat) : Punctual s (Pipeline.setTimer delay task p).2 := by
  rw [setTimer_apply]
  by_cases now : delay = 0
  · rw [if_pos now]
    refine punctual.of_same rfl rfl rfl rfl ?_ rfl
    simp [Pipeline.resuming, List.filterMap_append, none]
  · rw [if_neg now]
    refine punctual.eased rfl rfl ?_ (fun _ => id) (fun _ => id) fun _ _ => .kept _
    exact forall_mem_append_singleton (fun _ => .inl)
      (.inr ⟨Nat.lt_add_of_pos_right (Nat.pos_of_ne_zero now), none⟩)

theorem Punctual.moveTo (punctual : Punctual s p) {instant : Nat} (done : p.ready = [])
    (first : ∀ timer ∈ p.timers, instant ≤ timer.due) :
    Punctual s (Pipeline.moveTo instant p).2 := by
  rw [moveTo_apply]
  exact
    { pacing := punctual.pacing
      ahead := fun timer member => by
        simpa using (List.mem_filter.mp member).2
      queued := punctual.queued
      resuming := by
        intro next member
        simp only [Pipeline.resuming, done, List.nil_append] at member
        obtain ⟨task, among, resumes⟩ := List.mem_filterMap.mp member
        obtain ⟨timer, set, rfl⟩ := List.mem_map.mp among
        obtain ⟨old, reached⟩ := List.mem_filter.mp set
        have due : timer.due = instant :=
          Nat.le_antisymm (of_decide_eq_true reached) (first timer old)
        exact due ▸ punctual.pausing timer old next resumes
      pausing := fun timer member => punctual.pausing timer (List.mem_filter.mp member).1 }

theorem Punctual.scheduled (punctual : Punctual s p) {id : BatchId}
    (untried : Untried (p.backend.batches.get? id)) : Punctual s (p.scheduled id) := by
  unfold Pipeline.scheduled
  split
  · exact punctual
  · exact
      { pacing := punctual.pacing
        ahead := punctual.ahead
        queued := forall_mem_append_singleton punctual.queued untried
        resuming := by
          simpa [Pipeline.resuming, List.filterMap_append] using punctual.resuming
        pausing := punctual.pausing }

theorem Punctual.seatLeft (punctual : Punctual s p) (id : BatchId) :
    Punctual s (p.seatLeft id) := by
  refine punctual.eased rfl rfl (fun _ => .inl) (fun _ waits => waits) (fun next member => ?_)
    fun _ _ => .kept _
  rwa [resuming_seatLeft] at member

theorem Punctual.pause (punctual : Punctual s p) {id : BatchId} {due retry : Nat}
    (later : p.clock < due) (awaits : s.Awaits due retry (p.backend.batches.get? id)) :
    Punctual s { p with timers := p.timers ++ [⟨due, .resume id retry⟩] } where
  pacing := punctual.pacing
  ahead := forall_mem_append_singleton punctual.ahead later
  queued := punctual.queued
  resuming := punctual.resuming
  pausing := by
    refine forall_mem_append_singleton punctual.pausing fun next resumes => ?_
    cases resumes
    exact awaits

/-! ## Tasks -/

theorem Punctual.deliver (punctual : Punctual s p) (plain : p.backend.Plain)
    (interval : p.pool.policy.interval ≠ 0) (running : p.pool.shutDown = false) {id : BatchId}
    {retry : Nat} (awaits : s.Awaits p.clock retry (p.backend.batches.get? id))
    (apart : ∀ other ∈ p.engaged, other ≠ id) (n : Nat) :
    Punctual s (Pipeline.deliver id retry (n + 1) p).2 := by
  obtain ⟨-, same⟩ := concerns_tryOnce plain p.pool.policy p.now id retry
  have tries : s.policy = p.pool.policy ∧ s.epoch = p.epoch := by
    rw [← punctual.pacing]
    exact ⟨rfl, rfl⟩
  rw [deliver_succ]
  cases tried : tryOnce p.pool.policy p.now id retry p.backend with
  | mk next after =>
      rw [tried] at same
      have kept : Punctual s { p with backend := after } := by
        refine punctual.eased rfl rfl (fun _ => .inl) (fun _ waits => waits)
          (fun _ resumes => resumes) fun other member => ?_
        rw [same other (apart other member)]
        exact .kept _
      cases next with
      | done outcome => exact kept.seatLeft id
      | wait next span =>
          have some : span ≠ 0 := (eq_of_wait tried).2 ▸ RetryPolicy.backoff_ne_zero interval _
          have later : 0 < span.waitMillis := Nat.pos_of_ne_zero (Nanos.waitMillis_ne_zero some)
          rw [now, ← tries.1, ← tries.2] at tried
          simp only [running, Bool.false_eq_true, if_false, some, setTimer_apply,
            Nanos.waitMillis_ne_zero some]
          exact kept.pause (Nat.lt_add_of_pos_right later) (awaits.tryOnce plain tried)

theorem Punctual.take (punctual : Punctual s p) {task : Task} {rest : List Task}
    (among : p.ready.Perm (task :: rest)) : Punctual s { p with ready := rest } := by
  refine punctual.eased rfl rfl (fun _ => .inl) (fun _ waits => waits) (fun next member => ?_)
    fun _ _ => .kept _
  obtain ⟨other, inside, resumes⟩ := List.mem_filterMap.mp member
  exact List.mem_filterMap.mpr
    ⟨other, among.mem_iff.mpr (List.mem_cons_of_mem _ inside), resumes⟩

theorem Punctual.resume (punctual : Punctual s p) (runs : Runs p) {id : BatchId} {retry : Nat}
    {rest : List Task} (among : p.ready.Perm (.resume id retry :: rest)) (n : Nat) :
    Punctual s (Pipeline.deliver id retry (n + 1) { p with ready := rest }).2 := by
  have resumes : p.resuming.Perm ((id, retry) :: rest.filterMap Task.resumed?) :=
    among.filterMap Task.resumed?
  have seats : (p.pool.waiting ++ p.pool.seated).Perm
      (id :: ({ p with ready := rest } : Pipeline α).engaged) := by
    have seated := runs.orderly.seated.trans ((resumes.append_right p.pausing).map Prod.fst)
    exact (seated.append_left p.pool.waiting).trans List.perm_middle
  -- Each batch is engaged once, so no other delivery is concerned.
  have distinct := List.nodup_cons.mp (seats.nodup_iff.mp runs.orderly.distinct)
  refine (punctual.take among).deliver runs.orderly.plain runs.orderly.interval runs.running
    (punctual.resuming (id, retry) (resumes.mem_iff.mpr List.mem_cons_self)) ?_ n
  rintro other member rfl
  exact distinct.1 member

theorem Punctual.serve (punctual : Punctual s p) (runs : Runs p) {rest : List Task}
    (among : p.ready.Perm (.serve :: rest)) :
    Punctual s (Pipeline.serve { p with ready := rest }).2 := by
  have taken := punctual.take among
  rw [serve_apply]
  dsimp only
  cases waits : p.pool.waiting with
  | nil => exact taken
  | cons id others =>
      dsimp only
      by_cases full : p.pool.seats ≤ p.pool.seated.length
      · rw [if_pos full]
        exact taken
      · rw [if_neg full]
        have untried := punctual.queued id (waits ▸ List.mem_cons_self)
        have sat : Punctual s { p with
            ready := .resume id 0 :: rest
            pool := { p.pool with seated := p.pool.seated ++ [id], waiting := others } } :=
          { pacing := taken.pacing
            ahead := taken.ahead
            queued := fun other member =>
              taken.queued other (waits ▸ List.mem_cons_of_mem _ member)
            resuming := List.forall_mem_cons.mpr ⟨untried.awaits s _, taken.resuming⟩
            pausing := taken.pausing }
        exact sat.resume ⟨runs.orderly.sit among waits (Nat.lt_of_not_le full), runs.running⟩
          (.refl _) _

/-! ## Batches -/

theorem Orderly.spent_of_engaged (orderly : Orderly p) {id : BatchId} (member : id ∈ p.engaged) :
    p.backend.ids.Spent id := by
  refine orderly.known id ?_
  rcases List.mem_append.mp member with waits | sits
  · exact List.mem_append_left _ waits
  · exact List.mem_append_right _ (orderly.seated.mem_iff.mpr sits)

theorem Punctual.announce (punctual : Punctual s p) (delivers : p.handler = .deliver)
    (known : ∀ id ∈ p.engaged, p.backend.ids.Spent id) {backend : Backend} {batch : Batch}
    (named : batch.id = p.backend.ids.fresh) (pending : batch.status = .pending)
    (saved : backend.batches = p.backend.batches.put batch) :
    Punctual s (Pipeline.announce p.backend.ids.fresh { p with backend }).2 := by
  have put : ∀ id, backend.batches.get? id =
      if p.backend.ids.fresh = id then some batch else p.backend.batches.get? id := by
    intro id
    rw [saved, BatchStore.get?_put, named]
  rw [announce_of_deliver (p := { p with backend }) delivers]
  have kept : Punctual s { p with backend } := by
    refine punctual.eased rfl rfl (fun _ => .inl) (fun _ waits => waits) (fun _ resumes => resumes)
      fun id member => ?_
    rw [put, if_neg (known id member).ne_fresh.symm]
    exact .kept _
  refine kept.scheduled fun found shown => ?_
  rw [put, if_pos rfl] at shown
  cases shown
  exact pending

theorem Punctual.makeBatch (punctual : Punctual s p) (orderly : Orderly p) (key : Key)
    (logs : List RawLog) : Punctual s (Pipeline.makeBatch key logs p).2 := by
  have answer := on_saveBatch (b := { p.backend with ids := p.backend.ids.advance })
    ⟨orderly.plain.faults, orderly.plain.script⟩ (.new p.backend.ids.fresh key logs p.now)
  rw [makeBatch_apply, answer, BatchStore.save]
  dsimp only
  by_cases failing : p.backend.batches.failWrites = true
  · rw [if_pos failing]
    exact punctual.of_same rfl rfl rfl rfl rfl rfl
  · rw [if_neg failing]
    exact punctual.announce orderly.handler (fun _ => orderly.spent_of_engaged) rfl rfl rfl

theorem Punctual.makeBatches (punctual : Punctual s p) (runs : Runs p) (groups : List Group) :
    Punctual s (Pipeline.makeBatches groups p).2 := by
  induction groups generalizing p with
  | nil => exact punctual
  | cons group rest ih =>
      have made := (proceeds_makeBatch runs.orderly runs.running group.1 group.2).1
      rw [makeBatches_cons]
      exact ih (punctual.makeBatch runs.orderly group.1 group.2)
        ⟨made.orderly, made.shutDown.trans runs.running⟩

theorem Punctual.drainBuffers (punctual : Punctual s p) (runs : Runs p) :
    Punctual s (Pipeline.drainBuffers p).2 := by
  rw [drainBuffers_apply]
  split
  · exact punctual
  · have plain := runs.orderly.plain
    have cleared : Runs (showBuffered { p with buffers := p.buffers.cleared }).2 :=
      runs.of_same rfl rfl rfl rfl ⟨plain.faults, plain.script⟩ fun _ => id
    have still : Punctual s (showBuffered { p with buffers := p.buffers.cleared }).2 :=
      punctual.of_same rfl rfl rfl rfl rfl rfl
    exact still.makeBatches cleared p.buffers.groups

/-! ## Cleanups -/

theorem Punctual.awaits_of_engaged (punctual : Punctual s p) {id : BatchId}
    (member : id ∈ p.engaged) :
    ∃ due retry, p.clock ≤ due ∧ s.Awaits due retry (p.backend.batches.get? id) := by
  rcases List.mem_append.mp member with waits | sits
  · exact ⟨p.clock, 0, Nat.le_refl _, (punctual.queued id waits).awaits s p.clock⟩
  · obtain ⟨next, among, rfl⟩ := List.mem_map.mp sits
    rcases List.mem_append.mp among with resumes | pauses
    · exact ⟨p.clock, next.2, Nat.le_refl _, punctual.resuming next resumes⟩
    · obtain ⟨timer, set, resumes⟩ := List.mem_filterMap.mp pauses
      exact ⟨timer.due, next.2, Nat.le_of_lt (punctual.ahead timer set),
        punctual.pausing timer set next resumes⟩

theorem Punctual.eased_cleanUp (punctual : Punctual s p) (plain : p.backend.Plain)
    (inside : (Timestamp.ofMillis s.epoch).inRange = true) {id : BatchId}
    (member : id ∈ p.engaged) :
    Eased s.IsAmple (p.backend.batches.get? id)
      ((LogPipeline.cleanUp p.retention p.now p.backend).2.batches.get? id) := by
  obtain ⟨due, retry, before, awaits⟩ := punctual.awaits_of_engaged member
  obtain rfl := punctual.pacing
  rw [get?_cleanUp plain]
  cases found : p.backend.batches.get? id with
  | none => exact .kept none
  | some batch =>
      rw [found] at awaits
      rw [Option.bind_some]
      split
      · exact .kept _
      · exact awaits.eased_leaves inside before

variable [Quantity α]

theorem Punctual.cleanUp (punctual : Punctual s p) (plain : p.backend.Plain)
    (inside : (Timestamp.ofMillis s.epoch).inRange = true) :
    Punctual s (runJob .cleanUp p).2 :=
  punctual.eased rfl rfl (fun _ => .inl) (fun _ waits => waits) (fun _ resumes => resumes)
    fun _ member => punctual.eased_cleanUp plain inside member

theorem Punctual.runTask (punctual : Punctual s p) (runs : Runs p)
    (inside : (Timestamp.ofMillis s.epoch).inRange = true) {task : Task} {rest : List Task}
    (among : p.ready.Perm (task :: rest)) :
    Punctual s (Pipeline.runTask task { p with ready := rest }).2 := by
  have member : task ∈ p.ready := among.mem_iff.mpr List.mem_cons_self
  have taken := punctual.take among
  cases task with
  | flush key logs =>
      have fewer := proceeds_take runs.orderly among rfl (runs.orderly.served_take among rfl)
      exact taken.makeBatch fewer.orderly key logs
  | serve => exact punctual.serve runs among
  | resume id retry => exact punctual.resume runs among _
  | run job =>
      have again := proceeds_again runs.orderly among
      have timed : Punctual s (Pipeline.setTimer job.period (.run job) { p with ready := rest }).2 :=
        taken.setTimer rfl job.period
      obtain ⟨kind, period⟩ := job
      cases kind with
      | flushBuffers => exact timed.drainBuffers ⟨again.orderly, again.shutDown.trans runs.running⟩
      | refillLimiter | evictDecisions => exact timed.withGateway _
      | cleanUp => exact timed.cleanUp again.orderly.plain inside
  | change c => exact (runs.orderly.ready _ member).elim

structure Timely (s : Pacing) (p : Pipeline α) : Prop extends Runs p, Punctual s p

theorem keptInTime_timely (inside : (Timestamp.ofMillis s.epoch).inRange = true) :
    KeptInTime (Timely (α := α) s) where
  orderly _ timely := timely.orderly
  ahead _ timely := timely.ahead
  runTask _ _ _ among timely :=
    ⟨timely.toRuns.runTask among, timely.toPunctual.runTask timely.toRuns inside among⟩
  moveTo _ instant rests timely :=
    ⟨⟨timely.orderly.moveTo instant, timely.running⟩,
      timely.toPunctual.moveTo rests.done rests.first⟩

end Pipeline

end LogPipeline
