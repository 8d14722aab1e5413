import Mathlib.Algebra.Ring.Nat
import LogPipeline.Proofs.Backend.Ledger
import LogPipeline.Proofs.Pipeline.Buffers
import LogPipeline.Proofs.Pipeline.Steps

/-!
# An account of all logs

Every log that was taken in is in the buffer of its key, or in a group that was taken out of the
buffer and is to become a batch, or in a batch that was made. What a pipeline does while nothing
fails keeps this account, and brings it nearer to the state in which there are only batches.
-/

namespace LogPipeline

open Backend

abbrev Group := Key × List RawLog

def Made.group (made : Made) : Group := (made.key, made.logs)

inductive Entry where
  | log (key : Key) (log : RawLog)
  | batch (made : Made)

def singles (entries : List Entry) (key : Key) : List RawLog :=
  entries.filterMap fun
    | .log k log => if k = key then some log else none
    | .batch _ => none

def submitted (entries : List Entry) : List Made :=
  entries.filterMap fun
    | .log .. => none
    | .batch made => some made

theorem singles_append (one other : List Entry) (key : Key) :
    singles (one ++ other) key = singles one key ++ singles other key :=
  List.filterMap_append

theorem submitted_append (one other : List Entry) :
    submitted (one ++ other) = submitted one ++ submitted other :=
  List.filterMap_append

namespace Task

def group? : Task → Option Group
  | .flush key logs => some (key, logs)
  | _ => none

def IsRoutine : Task → Prop
  | .flush .. | .serve => True
  | .run job => 1 ≤ job.period
  | .resume .. | .change _ => False

end Task

namespace Pipeline

variable {α : Type}

structure Calm (p : Pipeline α) : Prop where
  seated : p.pool.seated = []
  seats : 1 ≤ p.pool.seats
  running : p.pool.shutDown = false
  handler : p.handler = .deliver
  ready : ∀ task ∈ p.ready, task.IsRoutine
  timers : ∀ timer ∈ p.timers, ∃ job, timer.task = .run job ∧ 1 ≤ job.period

/-- The logs that came in are in the buffers, in the groups that were taken out of them, some of
which are still in hand, and in the batches. -/
structure Balanced (preprocessor : Preprocessor) (entries : List Entry) (hand : List Group)
    (p : Pipeline α) : Prop where
  calm : Calm p
  reliable : Reliable preprocessor p.backend
  ledger : ∃ (taken : List Group) (flushed : List Made),
    (∀ key, singles entries key =
      (taken.filter fun g => g.1 = key).flatMap (·.2) ++ p.buffers.logsOf key) ∧
    taken.Perm (p.ready.filterMap Task.group? ++ hand ++ flushed.map Made.group) ∧
    Accounted preprocessor (submitted entries ++ flushed) p.pool.waiting p.backend

def Served (p : Pipeline α) : Prop :=
  p.pool.waiting ≠ [] → Task.serve ∈ p.ready

def Drained (p : Pipeline α) : Prop :=
  ∀ key, p.buffers.logsOf key = []

structure Worked (preprocessor : Preprocessor) (entries : List Entry) (hand : List Group)
    (more : Nat) (p q : Pipeline α) : Prop where
  balanced : Balanced preprocessor entries hand q
  served : Served p → Served q
  drained : Drained p → Drained q
  load : q.load ≤ p.load + more

variable {preprocessor : Preprocessor} {entries : List Entry} {hand : List Group}
  {p q : Pipeline α}

theorem Balanced.of_same (balanced : Balanced preprocessor entries hand p)
    (ready : q.ready = p.ready) (timers : q.timers = p.timers) (buffers : q.buffers = p.buffers)
    (pool : q.pool = p.pool) (handler : q.handler = p.handler)
    (reliable : Reliable preprocessor q.backend)
    (accounted : ∀ made waiting, Accounted preprocessor made waiting p.backend →
      Accounted preprocessor made waiting q.backend) : Balanced preprocessor entries hand q where
  calm := by
    obtain ⟨seated, seats, running, deliver, routine, jobs⟩ := balanced.calm
    exact ⟨by rw [pool]; exact seated, by rw [pool]; exact seats, by rw [pool]; exact running,
      handler.trans deliver, by rw [ready]; exact routine, by rw [timers]; exact jobs⟩
  reliable := reliable
  ledger := by
    obtain ⟨taken, flushed, logs, groups, batches⟩ := balanced.ledger
    refine ⟨taken, flushed, ?_, ?_, ?_⟩
    · rw [buffers]
      exact logs
    · rw [ready]
      exact groups
    · rw [pool]
      exact accounted _ _ batches

theorem Balanced.record (balanced : Balanced preprocessor entries hand p)
    (f : Telemetry → Telemetry) : Balanced preprocessor entries hand (record f p).2 :=
  balanced.of_same rfl rfl rfl rfl rfl (balanced.reliable.of_same rfl rfl rfl rfl rfl)
    fun _ _ accounted => accounted.of_same rfl rfl rfl

/-! ## Making batches -/

def withBatch (key : Key) (logs : List RawLog) (p : Pipeline α) : Pipeline α :=
  { p with
    backend := p.backend.withNew key logs p.now
    pool := { p.pool with waiting := p.pool.waiting ++ [p.backend.ids.fresh] }
    ready := p.ready ++ [.serve] }

theorem announce_calm (calm : Calm p) (id : BatchId) :
    (announce id p).2 = { p with
      pool := { p.pool with waiting := p.pool.waiting ++ [id] }
      ready := p.ready ++ [.serve] } := by
  rw [announce_of_deliver calm.handler]
  simp only [scheduled, calm.running, Bool.false_eq_true, if_false]

theorem makeBatch_reliable (calm : Calm p) (reliable : Reliable preprocessor p.backend) (key : Key)
    (logs : List RawLog) : (makeBatch key logs p).2 = p.withBatch key logs := by
  rw [makeBatch_apply, on_saveBatch_new reliable]
  exact announce_calm (p := { p with backend := p.backend.withNew key logs p.now })
    ⟨calm.seated, calm.seats, calm.running, calm.handler, calm.ready, calm.timers⟩ _

theorem served_withBatch (key : Key) (logs : List RawLog) (p : Pipeline α) :
    Served (p.withBatch key logs) :=
  fun _ => List.mem_append_right _ List.mem_cons_self

theorem Calm.withBatch (calm : Calm p) (key : Key) (logs : List RawLog) :
    Calm (p.withBatch key logs) where
  seated := calm.seated
  seats := calm.seats
  running := calm.running
  handler := calm.handler
  ready := forall_mem_append_singleton calm.ready trivial
  timers := calm.timers

theorem Balanced.withBatch {key : Key} {logs : List RawLog}
    (balanced : Balanced preprocessor entries ((key, logs) :: hand) p) :
    Balanced preprocessor entries hand (p.withBatch key logs) where
  calm := balanced.calm.withBatch key logs
  reliable := balanced.reliable.withNew key logs p.now
  ledger := by
    obtain ⟨taken, flushed, accounts, groups, batches⟩ := balanced.ledger
    refine ⟨taken, flushed ++ [⟨p.backend.ids.fresh, key, logs⟩], accounts, ?_, ?_⟩
    · refine groups.trans ?_
      rw [List.perm_iff_count]
      intro group
      simp only [Pipeline.withBatch, List.filterMap_append, List.map_append, List.count_append,
        List.count_cons, List.map_cons, List.map_nil, List.count_nil, List.filterMap_cons,
        List.filterMap_nil, Task.group?, Made.group]
      omega
    · rw [← List.append_assoc]
      exact batches.withNew key logs p.now

theorem Balanced.withSubmitted (balanced : Balanced preprocessor entries hand p) (key : Key)
    (logs : List RawLog) :
    Balanced preprocessor (entries ++ [.batch ⟨p.backend.ids.fresh, key, logs⟩]) hand
      (p.withBatch key logs) where
  calm := balanced.calm.withBatch key logs
  reliable := balanced.reliable.withNew key logs p.now
  ledger := by
    obtain ⟨taken, flushed, accounts, groups, batches⟩ := balanced.ledger
    refine ⟨taken, flushed, ?_, ?_, ?_⟩
    · intro other
      rw [singles_append]
      exact (List.append_nil _).trans (accounts other)
    · simpa [Pipeline.withBatch, Task.group?, List.filterMap_cons] using groups
    · rw [submitted_append]
      refine (batches.withNew key logs p.now).perm ?_
      rw [List.append_assoc, List.append_assoc]
      exact List.Perm.append_left _ List.perm_append_comm

/-! ## How much is still to be done -/

theorem load_eq (p : Pipeline α) :
    p.load = (p.ready.map taskLoad).sum + 2 * p.pool.waiting.length +
      4 * p.buffers.keysInUse.length := rfl

theorem load_withBatch (key : Key) (logs : List RawLog) (p : Pipeline α) :
    (p.withBatch key logs).load = p.load + 3 := by
  simp only [load_eq, withBatch, List.map_append, List.sum_append, List.length_append,
    List.map_cons, List.map_nil, List.sum_cons, List.sum_nil, List.length_cons, List.length_nil,
    taskLoad]
  omega

theorem taskLoad_pos (task : Task) : 1 ≤ taskLoad task := by
  cases task <;> simp [taskLoad]

theorem ready_of_load (p : Pipeline α) (done : p.load = 0) : p.ready = [] := by
  cases ready : p.ready with
  | nil => rfl
  | cons task rest =>
      have busy := taskLoad_pos task
      simp only [load_eq, ready, List.map_cons, List.sum_cons] at done
      omega

theorem ready_runTasks [Quantity α] (holds : Pipeline α → Prop)
    (step : ∀ p task rest, holds p → p.ready = task :: rest →
      holds (runNext p).2 ∧ (runNext p).2.load < p.load)
    (start : holds p) {n : Nat} (enough : p.load ≤ n) : (runTasks n p).2.ready = [] := by
  induction n generalizing p with
  | zero => exact ready_of_load p (by omega)
  | succ n ih =>
      rw [runTasks_succ]
      cases next : p.ready with
      | nil =>
          rw [List.isEmpty_nil, if_pos rfl]
          exact next
      | cons task rest =>
          obtain ⟨goesOn, less⟩ := step p task rest start next
          rw [List.isEmpty_cons, if_neg Bool.false_ne_true]
          exact ih goesOn (by omega)

/-! ## Emptying the buffers -/

theorem Worked.idle (balanced : Balanced preprocessor entries hand q)
    (ready : q.ready = p.ready) (pool : q.pool = p.pool) (buffers : q.buffers = p.buffers) :
    Worked preprocessor entries hand 0 p q where
  balanced := balanced
  served := by
    unfold Served
    rw [ready, pool]
    exact id
  drained := by
    unfold Drained
    rw [buffers]
    exact id
  load := by rw [load_eq, load_eq, ready, pool, buffers]; exact Nat.le_refl _

theorem worked_makeBatches (groups : List Group)
    (balanced : Balanced preprocessor entries (groups ++ hand) p) :
    Worked preprocessor entries hand (3 * groups.length) p (makeBatches groups p).2 := by
  induction groups generalizing p with
  | nil => exact .idle balanced rfl rfl rfl
  | cons group rest ih =>
      obtain ⟨key, logs⟩ := group
      have first : Balanced preprocessor entries (rest ++ hand) (p.withBatch key logs) :=
        balanced.withBatch
      have later := ih first
      have load := later.load
      rw [makeBatches_cons, makeBatch_reliable balanced.calm balanced.reliable]
      refine ⟨later.balanced, fun _ => later.served (served_withBatch key logs p), later.drained, ?_⟩
      rw [load_withBatch] at load
      rw [List.length_cons]
      omega

theorem Balanced.cleared (balanced : Balanced preprocessor entries hand p) :
    Balanced preprocessor entries (p.buffers.groups ++ hand)
      { p with buffers := p.buffers.cleared } where
  calm := by
    obtain ⟨seated, seats, running, deliver, routine, jobs⟩ := balanced.calm
    exact ⟨seated, seats, running, deliver, routine, jobs⟩
  reliable := balanced.reliable
  ledger := by
    obtain ⟨taken, flushed, logs, groups, batches⟩ := balanced.ledger
    refine ⟨taken ++ p.buffers.groups, flushed, ?_, ?_, batches⟩
    · intro key
      rw [logs, Buffers.logsOf_cleared, List.append_nil, List.filter_append, List.flatMap_append,
        Buffers.flatMap_groups]
    · refine (groups.append_right p.buffers.groups).trans ?_
      rw [List.perm_iff_count]
      intro group
      simp only [List.count_append]
      omega

theorem worked_drainBuffers (balanced : Balanced preprocessor entries hand p) :
    Worked preprocessor entries hand 0 p (drainBuffers p).2 ∧ Drained (drainBuffers p).2 := by
  rw [drainBuffers_apply]
  split
  · rename_i nothing
    refine ⟨.idle balanced rfl rfl rfl, fun key => ?_⟩
    rw [← Buffers.flatMap_groups, List.isEmpty_iff.mp nothing]
    rfl
  · -- Between the clearing and the making, all groups are in hand.
    have shown := balanced.cleared.record fun t => t.buffered p.buffers.cleared.count
    have made := worked_makeBatches p.buffers.groups shown
    have empty := made.drained fun key => Buffers.logsOf_cleared p.buffers key
    have load := made.load
    rw [showBuffered_apply]
    refine ⟨⟨made.balanced, fun before => made.served before, fun _ => empty, ?_⟩, empty⟩
    simp only [load_eq, record_apply, Buffers.keysInUse_cleared, List.length_nil,
      Buffers.length_groups] at load ⊢
    omega

/-! ## Delivering -/

theorem serve_of_done (calm : Calm p) {id : BatchId} {rest : List BatchId} {outcome : Outcome}
    {after : Backend} (waits : p.pool.waiting = id :: rest)
    (ended : LogPipeline.tryOnce p.pool.policy p.now id 0 p.backend = (.done outcome, after)) :
    (serve p).2 = { p with
      backend := after
      pool := { p.pool with seated := [], waiting := rest }
      ready := if rest.isEmpty then p.ready else p.ready ++ [.serve] } := by
  have free : ¬ p.pool.seats ≤ p.pool.seated.length := by
    have seats := calm.seats
    rw [calm.seated, List.length_nil]
    omega
  rw [serve_apply, waits]
  dsimp only
  rw [if_neg free, mostAttempts, calm.seated]
  generalize start : ({ p with
    pool := { p.pool with seated := [] ++ [id], waiting := rest } } : Pipeline α) = q
  have ended' : LogPipeline.tryOnce q.pool.policy q.now id 0 q.backend = (.done outcome, after) := by
    rw [← start]
    exact ended
  rw [deliver_succ, ended']
  rw [← start]
  simp only [seatLeft, List.nil_append, List.erase_cons_head]

theorem worked_serve (balanced : Balanced preprocessor entries hand p) :
    Worked preprocessor entries hand 0 p (serve p).2 ∧ Served (serve p).2 := by
  cases waits : p.pool.waiting with
  | nil =>
      have idle : (serve p).2 = p := by rw [serve_apply, waits]
      rw [idle]
      exact ⟨.idle balanced rfl rfl rfl, fun some => absurd waits some⟩
  | cons id rest =>
      obtain ⟨taken, flushed, logs, groups, batches⟩ := balanced.ledger
      rw [waits] at batches
      obtain ⟨outcome, after, ended, reliable, accounted⟩ :=
        batches.tryOnce balanced.reliable p.pool.policy p.now 0
      rw [serve_of_done balanced.calm waits ended]
      obtain ⟨seated, seats, running, deliver, routine, jobs⟩ := balanced.calm
      cases rest with
      | nil =>
          refine ⟨⟨⟨⟨rfl, seats, running, deliver, routine, jobs⟩, reliable, taken, flushed, logs,
            groups, accounted⟩, fun _ some => absurd rfl some, fun drained => drained, ?_⟩,
            fun some => absurd rfl some⟩
          simp only [load_eq, waits, List.isEmpty_nil, if_true, List.length_cons, List.length_nil]
          omega
      | cons next others =>
          have seen : Task.serve ∈ p.ready ++ [Task.serve] :=
            List.mem_append_right _ List.mem_cons_self
          refine ⟨⟨⟨⟨rfl, seats, running, deliver, ?_, jobs⟩, reliable, taken, flushed, logs, ?_,
            accounted⟩, fun _ _ => seen, fun drained => drained, ?_⟩, fun _ => seen⟩
          · exact forall_mem_append_singleton routine trivial
          · simpa [Task.group?, List.filterMap_cons] using groups
          · simp only [load_eq, waits, List.isEmpty_cons, Bool.false_eq_true, if_false,
              List.map_append, List.sum_append, List.map_cons, List.map_nil, List.sum_cons,
              List.sum_nil, List.length_cons, taskLoad]
            omega

/-! ## Tasks -/

theorem Balanced.take {task : Task} {rest : List Task}
    (balanced : Balanced preprocessor entries hand p) (among : p.ready.Perm (task :: rest)) :
    Balanced preprocessor entries (task.group?.toList ++ hand) { p with ready := rest } where
  calm := by
    obtain ⟨seated, seats, running, deliver, routine, jobs⟩ := balanced.calm
    exact ⟨seated, seats, running, deliver, fun other member =>
      routine other (among.mem_iff.mpr (List.mem_cons_of_mem _ member)), jobs⟩
  reliable := balanced.reliable
  ledger := by
    obtain ⟨taken, flushed, logs, groups, batches⟩ := balanced.ledger
    refine ⟨taken, flushed, logs, groups.trans ?_, batches⟩
    have same := among.filterMap Task.group?
    rw [List.perm_iff_count] at same ⊢
    intro group
    have counts := same group
    cases found : task.group? with
    | none =>
        simp only [found, List.filterMap_cons, List.count_append, Option.toList_none,
          List.nil_append] at counts ⊢
        omega
    | some own =>
        simp only [found, List.filterMap_cons, List.count_append, List.count_cons,
          Option.toList_some, List.count_nil] at counts ⊢
        omega

theorem setTimer_job {job : Job} (period : 1 ≤ job.period) (p : Pipeline α) :
    (setTimer job.period (.run job) p).2 =
      { p with timers := p.timers ++ [⟨p.clock + job.period, .run job⟩] } := by
  rw [setTimer_apply, if_neg (by omega)]

theorem Balanced.again (balanced : Balanced preprocessor entries hand p) {job : Job}
    (period : 1 ≤ job.period) :
    Balanced preprocessor entries hand
      { p with timers := p.timers ++ [⟨p.clock + job.period, .run job⟩] } := by
  obtain ⟨seated, seats, running, deliver, routine, jobs⟩ := balanced.calm
  exact ⟨⟨seated, seats, running, deliver, routine,
    forall_mem_append_singleton jobs ⟨job, rfl, period⟩⟩, balanced.reliable, balanced.ledger⟩

structure Steady (preprocessor : Preprocessor) (entries : List Entry) (p : Pipeline α) : Prop where
  balanced : Balanced preprocessor entries [] p
  served : Served p

theorem Steady.of_tasks (steady : Steady preprocessor entries p) {ready : List Task}
    {timers : List Timer} (routine : ∀ task ∈ ready, task.IsRoutine)
    (jobs : ∀ timer ∈ timers, ∃ job, timer.task = .run job ∧ 1 ≤ job.period)
    (same : ready.filterMap Task.group? = p.ready.filterMap Task.group?)
    (serves : Task.serve ∈ p.ready → Task.serve ∈ ready) (clock : Nat) :
    Steady preprocessor entries { p with ready, timers, clock } := by
  obtain ⟨seated, seats, running, deliver, -, -⟩ := steady.balanced.calm
  obtain ⟨taken, flushed, logs, groups, batches⟩ := steady.balanced.ledger
  rw [← same] at groups
  exact ⟨⟨⟨seated, seats, running, deliver, routine, jobs⟩, steady.balanced.reliable, taken,
    flushed, logs, groups, batches⟩, fun waits => serves (steady.served waits)⟩

theorem Steady.moveTo (steady : Steady preprocessor entries p) (instant : Nat) :
    Steady preprocessor entries (moveTo instant p).2 := by
  have calm := steady.balanced.calm
  have due : ∀ task ∈ (p.timers.filter fun t => t.due ≤ instant).map (·.task),
      ∃ job, task = .run job ∧ 1 ≤ job.period := by
    intro task member
    obtain ⟨timer, among, rfl⟩ := List.mem_map.mp member
    exact calm.timers timer (List.mem_filter.mp among).1
  have noGroup : ((p.timers.filter fun t => t.due ≤ instant).map (·.task)).filterMap
      Task.group? = [] := by
    rw [List.filterMap_eq_nil_iff]
    intro task member
    obtain ⟨job, rfl, -⟩ := due task member
    rfl
  rw [moveTo_apply]
  refine steady.of_tasks ?_ ?_ ?_ (List.mem_append_left _) instant
  · refine List.forall_mem_append.mpr ⟨calm.ready, fun task member => ?_⟩
    obtain ⟨job, rfl, period⟩ := due task member
    exact period
  · exact fun timer member => calm.timers timer (List.mem_filter.mp member).1
  · rw [List.filterMap_append, noGroup, List.append_nil]

variable [Quantity α]

theorem worked_runJob (balanced : Balanced preprocessor entries hand p) (kind : JobKind) :
    Worked preprocessor entries hand 0 p (runJob kind p).2 := by
  cases kind with
  | flushBuffers => exact (worked_drainBuffers balanced).1
  | refillLimiter =>
      exact .idle (balanced.of_same rfl rfl rfl rfl rfl balanced.reliable
        fun _ _ same => same) rfl rfl rfl
  | evictDecisions =>
      exact .idle (balanced.of_same rfl rfl rfl rfl rfl balanced.reliable
        fun _ _ same => same) rfl rfl rfl
  | cleanUp =>
      obtain ⟨taken, flushed, _, _, batches⟩ := balanced.ledger
      have reliable := (batches.cleanUp balanced.reliable p.retention p.now).1
      exact .idle (balanced.of_same rfl rfl rfl rfl rfl reliable
        fun made waiting accounted =>
          (accounted.cleanUp balanced.reliable p.retention p.now).2) rfl rfl rfl

theorem worked_runTask {task : Task}
    (balanced : Balanced preprocessor entries (task.group?.toList ++ hand) p)
    (routine : task.IsRoutine) :
    Worked preprocessor entries hand (taskLoad task - 1) p (runTask task p).2 ∧
      (task = .serve → Served (runTask task p).2) := by
  cases task with
  | flush key logs =>
      have made : (runTask (.flush key logs) p).2 = p.withBatch key logs :=
        makeBatch_reliable balanced.calm balanced.reliable key logs
      rw [made]
      exact ⟨⟨balanced.withBatch, fun _ => served_withBatch key logs p, fun drained => drained,
        Nat.le_of_eq (load_withBatch key logs p)⟩, nofun⟩
  | serve =>
      have served := worked_serve balanced
      exact ⟨served.1, fun _ => served.2⟩
  | run job =>
      have done := worked_runJob (balanced.again routine) job.kind
      have ran : (runTask (.run job) p).2 =
          (runJob job.kind { p with timers := p.timers ++ [⟨p.clock + job.period, .run job⟩] }).2 := by
        rw [← setTimer_job routine]
        rfl
      rw [ran]
      exact ⟨⟨done.balanced, done.served, done.drained, done.load⟩, nofun⟩
  | resume => exact routine.elim
  | change => exact routine.elim

theorem Steady.runTask {task : Task} {rest : List Task} (steady : Steady preprocessor entries p)
    (among : p.ready.Perm (task :: rest)) :
    Steady preprocessor entries (runTask task { p with ready := rest }).2 ∧
      (Drained p → Drained (Pipeline.runTask task { p with ready := rest }).2) ∧
      (Pipeline.runTask task { p with ready := rest }).2.load < p.load := by
  have routine := steady.balanced.calm.ready task (among.mem_iff.mpr List.mem_cons_self)
  obtain ⟨worked, own⟩ := worked_runTask (steady.balanced.take among) routine
  have load := worked.load
  have some := taskLoad_pos task
  have less : ({ p with ready := rest } : Pipeline α).load + taskLoad task = p.load := by
    have total := (among.map taskLoad).sum_nat
    simp only [load_eq, List.map_cons, List.sum_cons] at total ⊢
    omega
  refine ⟨⟨worked.balanced, ?_⟩, worked.drained, by omega⟩
  -- Taking out a serve task may leave a batch unseen to; its own run makes up for that.
  by_cases serves : task = .serve
  · exact own serves
  · refine worked.served fun waits => ?_
    have seen := among.mem_iff.mp (steady.served waits)
    exact (List.mem_cons.mp seen).resolve_left fun same => serves same.symm

theorem Steady.runNext (steady : Steady preprocessor entries p) :
    Steady preprocessor entries (runNext p).2 := by
  cases next : p.ready with
  | nil =>
      rw [runNext_nil next]
      exact steady
  | cons task rest =>
      rw [runNext_cons next]
      exact (steady.runTask (.of_eq next)).1

theorem keptByTime_steady (preprocessor : Preprocessor) (entries : List Entry) :
    KeptByTime (Steady (α := α) preprocessor entries) where
  runNext _ steady := steady.runNext
  moveTo _ instant steady := steady.moveTo instant

theorem Steady.ready_settle (steady : Steady preprocessor entries p) :
    (settle p).2.ready = [] := by
  refine ready_runTasks (Steady preprocessor entries) (fun q task rest steady next => ?_) steady
    (Nat.le_refl _)
  rw [runNext_cons next]
  obtain ⟨still, -, less⟩ := steady.runTask (.of_eq next)
  exact ⟨still, less⟩

end Pipeline

end LogPipeline
