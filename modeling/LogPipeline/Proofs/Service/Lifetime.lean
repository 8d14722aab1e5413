import Mathlib.Data.List.Perm.Basic
import LogPipeline.Proofs.Pipeline.Intake
import LogPipeline.Service

namespace LogPipeline

open Backend

def Backend.opened (ids : IdSource) (preprocessor : Preprocessor) (apps : Catalogue App.id)
    (endpoints : Catalogue Endpoint.id) : Backend :=
  { Backend.empty ids preprocessor with apps, endpoints }

inductive Registration where
  | putApp (app : App)
  | removeApp (id : AppId)
  | putEndpoint (endpoint : Endpoint)
  | removeEndpoint (id : EndpointId)

def Registration.change : Registration → Change
  | .putApp app => .putApp app
  | .removeApp id => .removeApp id
  | .putEndpoint endpoint => .putEndpoint endpoint
  | .removeEndpoint id => .removeEndpoint id

inductive Action where
  | receiveLog (key : Key) (log : RawLog)
  | receiveLogs (key : Key) (logs : List RawLog)
  | register (registration : Registration)
  | advance (millis : Nat)
  | turn (place : Nat)

/-- The storage has every log that came in and that the preprocessor validates exactly once, and
nothing else: each submitted batch by itself, and the single logs of a key in batches that follow
each other in the order in which the logs came in. -/
structure StoredExactly (preprocessor : Preprocessor) (entries : List Entry)
    (flushed : List Made) (b : Backend) : Prop where
  distinct : ((submitted entries ++ flushed).map Made.id).Nodup
  blocks : ∀ key, (flushed.filter fun made => made.key = key).flatMap (·.logs) =
    singles entries key
  delivered : ∀ made ∈ submitted entries ++ flushed, Delivered preprocessor b made
  others : ∀ id, b.storage.held.contains id = true →
    ∃ made ∈ submitted entries ++ flushed, made.id = id

namespace Pipeline

variable {α : Type} {preprocessor : Preprocessor} {entries : List Entry} {p : Pipeline α}

theorem Steady.register (steady : Steady preprocessor entries p) (registration : Registration) :
    Steady preprocessor entries (change registration.change p).2 := by
  have served := steady.served
  rw [change_apply]
  cases registration <;>
    exact ⟨steady.balanced.of_same rfl rfl rfl rfl rfl
      (steady.balanced.reliable.of_same rfl rfl rfl rfl rfl)
      fun _ _ accounted => accounted.of_same rfl rfl rfl, served⟩

theorem Steady.setTimer (steady : Steady preprocessor entries p) {job : Job}
    (period : 1 ≤ job.period) (delay : Nat) :
    Steady preprocessor entries (setTimer delay (.run job) p).2 := by
  have calm := steady.balanced.calm
  have routine : Task.IsRoutine (.run job) := period
  rw [setTimer_apply]
  by_cases now : delay = 0
  · rw [if_pos now]
    refine steady.of_tasks (forall_mem_append_singleton calm.ready routine) calm.timers ?_
      (List.mem_append_left _) p.clock
    rw [List.filterMap_append]
    exact List.append_nil _
  · rw [if_neg now]
    exact steady.of_tasks calm.ready (forall_mem_append_singleton calm.timers ⟨job, rfl, period⟩)
      rfl id p.clock

theorem setTimers_keeps {holds : Pipeline α → Prop}
    (each : ∀ p job delay, 1 ≤ job.period → holds p → holds (setTimer delay (.run job) p).2)
    {jobs : List (Nat × Job)} (periods : ∀ entry ∈ jobs, 1 ≤ entry.2.period) (start : holds p) :
    holds (jobs.forM (fun (delay, job) => Pipeline.setTimer delay (.run job)) p).2 := by
  induction jobs generalizing p with
  | nil => exact start
  | cons entry rest ih =>
      obtain ⟨period, others⟩ := List.forall_mem_cons.mp periods
      exact ih others (each p entry.2 entry.1 period start)

theorem Drained.groups (drained : Drained p) : p.buffers.groups = [] := by
  rw [List.eq_nil_iff_forall_not_mem]
  intro group among
  obtain ⟨row, inUse, rfl⟩ := List.mem_map.mp among
  have nothing : ∀ g ∈ p.buffers.groups.filter (fun g => g.1 = row.1), g.2 = [] := by
    rw [← List.flatMap_eq_nil_iff, Buffers.flatMap_groups]
    exact drained row.1
  have empty : row.2.logs = [] := nothing _ (List.mem_filter.mpr ⟨among, decide_eq_true rfl⟩)
  have used := (List.mem_filter.mp inUse).2
  rw [empty] at used
  cases used

theorem Drained.drainBuffers (drained : Drained p) : (drainBuffers p).2 = p := by
  rw [drainBuffers_apply, drained.groups, List.isEmpty_nil, if_pos rfl]

theorem Steady.waiting (steady : Steady preprocessor entries p) (done : p.ready = []) :
    p.pool.waiting = [] := by
  cases waits : p.pool.waiting with
  | nil => rfl
  | cons id rest =>
      have seen := steady.served (by rw [waits]; exact List.cons_ne_nil id rest)
      rw [done] at seen
      cases seen

variable [Quantity α]

theorem Steady.turn (steady : Steady preprocessor entries p) (place : Nat) :
    Steady preprocessor entries (turn place p).2 := by
  cases found : p.ready[place]? with
  | none =>
      rw [turn_none found]
      exact steady
  | some task =>
      rw [turn_some found]
      obtain ⟨within, rfl⟩ := List.getElem?_eq_some_iff.mp found
      exact (steady.runTask (List.getElem_cons_eraseIdx_perm within).symm).1

theorem Steady.advance (steady : Steady preprocessor entries p) (millis : Nat) :
    Steady preprocessor entries (advance millis p).2 := by
  have passed := (keptByTime_steady preprocessor entries).passUntil steady (p.clock + millis)
  simp only [Pipeline.advance, ne_eq, ite_apply, get_bind_apply, pure_apply]
  split
  · exact passed
  · exact steady

/-! ## Emptying a pipeline -/

theorem keptByTime_drained (preprocessor : Preprocessor) (entries : List Entry) :
    KeptByTime fun p : Pipeline α => Steady preprocessor entries p ∧ Drained p where
  runNext p holds := by
    refine ⟨holds.1.runNext, ?_⟩
    cases next : p.ready with
    | nil =>
        rw [runNext_nil next]
        exact holds.2
    | cons task rest =>
        rw [runNext_cons next]
        exact (holds.1.runTask (.of_eq next)).2.1 holds.2
  moveTo p instant holds := ⟨holds.1.moveTo instant, holds.2⟩

theorem Steady.flushAll (steady : Steady preprocessor entries p) :
    Steady preprocessor entries (flushAll p).2 ∧ Drained (Pipeline.flushAll p).2 := by
  obtain ⟨worked, drained⟩ := worked_drainBuffers steady.balanced
  have emptied : Steady preprocessor entries (drainBuffers p).2 ∧ Drained (drainBuffers p).2 :=
    ⟨⟨worked.balanced, worked.served steady.served⟩, drained⟩
  rw [flushAll_apply, waitForFlushes_apply]
  split
  · exact (keptByTime_drained preprocessor entries).settle emptied
  · exact emptied

theorem Drained.flushAll (drained : Drained p) (done : p.ready = []) :
    (flushAll p).2 = p := by
  rw [flushAll_apply, drained.drainBuffers, waitForFlushes_apply, done, List.any_nil, if_neg Bool.false_ne_true]

theorem Steady.shutDown (steady : Steady preprocessor entries p) (done : p.ready = []) :
    (shutDown p).2.backend = p.backend := by
  have calm := steady.balanced.calm
  have waits : (p.timers.filter fun t => t.task.isResume) = [] := by
    rw [List.filter_eq_nil_iff]
    intro timer member
    obtain ⟨job, runs, -⟩ := calm.timers timer member
    rw [runs]
    exact Bool.false_ne_true
  have interrupted : (interruptWaits p).2 = { p with
      timers := p.timers.filter fun t => ! t.task.isResume
      pool := { p.pool with shutDown := true } } := by
    simp only [interruptWaits, get_bind_apply, List.partition_eq_filter_filter, waits]
    rfl
  simp only [Pipeline.shutDown]
  rw [bind_apply, interrupted]
  simp only [get_bind_apply, Pool.inFlight, steady.waiting done, calm.seated, List.length_nil,
    Nat.add_zero]
  rfl

/-! ## What is stored in the end -/

omit [Quantity α] in
theorem Steady.storedExactly (steady : Steady preprocessor entries p) (drained : Drained p)
    (done : p.ready = []) : ∃ flushed, StoredExactly preprocessor entries flushed p.backend := by
  obtain ⟨taken, flushed, logs, groups, batches⟩ := steady.balanced.ledger
  rw [steady.waiting done] at batches
  rw [done] at groups
  -- The batches are put in the order in which their groups were taken out of the buffers.
  obtain ⟨ordered, rfl, same⟩ : ∃ ordered : List Made,
      taken = ordered.map Made.group ∧ ordered.Perm flushed :=
    (congrFun (congrFun (List.eq_map_comp_perm Made.group) taken) flushed).mpr groups
  have batches := batches.perm (same.symm.append_left (submitted entries))
  refine ⟨ordered, batches.distinct, fun key => ?_, fun made member => ?_, batches.known⟩
  · rw [logs key, drained key, List.append_nil, List.filter_map, List.flatMap_map]
    rfl
  · exact (batches.settled made member).resolve_left List.not_mem_nil

end Pipeline

namespace Service

open Pipeline

variable {α : Type} {preprocessor : Preprocessor} {entries : List Entry} {s : Service α}

/-! ## The start -/

structure Alive (preprocessor : Preprocessor) (entries : List Entry) (s : Service α) : Prop where
  running : s.state = .running
  steady : Steady preprocessor entries s.pipeline

theorem eq_of_build {c : PipelineConfig} {processors : Nat} {backend : Backend} {epoch : Int}
    (built : build c processors backend epoch = .ok s) :
    s = ⟨c, .initialized, c.pipeline processors backend epoch⟩ := by
  rw [build] at built
  cases valid : c.validate with
  | error failure =>
      rw [valid] at built
      cases built
  | ok =>
      rw [valid] at built
      cases built
      rfl

theorem period_of_mem_jobs (c : PipelineConfig) : ∀ entry ∈ c.jobs, 1 ≤ entry.2.period := by
  intro entry member
  simp only [PipelineConfig.jobs] at member
  split at member <;> simp only [List.mem_append, List.mem_cons, List.not_mem_nil, or_false] at member
  · rcases member with (rfl | rfl | rfl) | rfl <;> exact Nat.le_max_right _ _
  · rcases member with rfl | rfl | rfl <;> exact Nat.le_max_right _ _

theorem start_of_initialized (unused : s.state = .initialized) :
    start s = (.ok (), { s with
      state := .running
      pipeline := (s.config.jobs.forM
        (fun (delay, job) => setTimer delay (.run job)) s.pipeline).2 }) := by
  obtain ⟨config, state, pipeline⟩ := s
  cases unused
  rfl

section New

variable (ids : IdSource) (preprocessor : Preprocessor) (apps : Catalogue App.id)
  (endpoints : Catalogue Endpoint.id)

theorem accounted_opened :
    Accounted preprocessor [] [] (opened ids preprocessor apps endpoints) where
  distinct := .nil
  issued := nofun
  once := .nil
  pending := nofun
  settled := nofun
  known id held := by
    have nothing : Storage.empty.held.contains id = false := rfl
    exact absurd held (ne_true_of_eq_false nothing)
  statuses id batch found := by
    have nothing : BatchStore.empty.get? id = none := rfl
    cases nothing.symm.trans found

theorem steady_new (c : PipelineConfig) (processors : Nat) (epoch : Int) :
    Steady preprocessor []
      (c.pipeline processors (opened ids preprocessor apps endpoints) epoch : Pipeline α) where
  balanced :=
    { calm := ⟨rfl, Nat.le_max_right _ _, rfl, rfl, List.forall_mem_nil _, List.forall_mem_nil _⟩
      reliable := ⟨⟨rfl, rfl⟩, rfl, rfl, rfl, rfl⟩
      ledger := ⟨[], [], fun _ => rfl, .refl _, accounted_opened ids preprocessor apps endpoints⟩ }
  served waits := absurd rfl waits

end New

theorem alive_start (fresh : s.state = .initialized)
    (steady : Steady preprocessor entries s.pipeline) :
    ∃ opened, start s = (.ok (), opened) ∧ Alive preprocessor entries opened := by
  refine ⟨_, start_of_initialized fresh, rfl, ?_⟩
  exact setTimers_keeps (fun _ _ delay period steady => steady.setTimer period delay)
    (period_of_mem_jobs s.config) steady

theorem steady_endJobs {p : Pipeline α} (steady : Steady preprocessor entries p) :
    Steady preprocessor entries (endJobs p).2 := by
  have calm := steady.balanced.calm
  refine steady.of_tasks ?_ ?_ ?_ (fun serves => List.mem_filter.mpr ⟨serves, rfl⟩) p.clock
  · exact fun task member => calm.ready task (List.mem_filter.mp member).1
  · exact fun timer member => calm.timers timer (List.mem_filter.mp member).1
  · rw [List.filterMap_filter]
    congr 1
    funext task
    cases task <;> rfl

/-! ## Actions -/

variable [Quantity α]

def perform : Action → StateM (Service α) (List Entry)
  | .receiveLog key log => do
    let answer ← receive ⟨key, [log], .single⟩
    return Admission.logTaken key log answer
  | .receiveLogs key logs => do
    let known := (← get).pipeline.backend
    let answer ← receive ⟨key, logs, .batch⟩
    return Admission.batchTaken key (Admission.fitting known key logs) answer
  | .register registration => do
    onPipeline (change registration.change)
    return []
  | .advance millis => do
    onPipeline (advance millis)
    return []
  | .turn place => do
    onPipeline (turn place)
    return []

def performAll : List Action → StateM (Service α) (List Entry)
  | [] => return []
  | action :: rest => do
    let first ← perform action
    let later ← performAll rest
    return first ++ later

def lifetime (actions : List Action) : ExceptT ServiceError (StateM (Service α)) (List Entry) := do
  ExceptT.mk start
  let entries ← ExceptT.lift (performAll actions)
  ExceptT.mk stop
  return entries

theorem receive_of_running (running : s.state = .running) (submission : Submission) :
    receive submission s =
      ((Admission.submit submission s.pipeline).1,
        { s with pipeline := (Admission.submit submission s.pipeline).2 }) := by
  obtain ⟨config, state, pipeline⟩ := s
  cases running
  rfl

theorem receive_of_idle (idle : s.state ≠ .running) (submission : Submission) :
    receive submission s = (.rejected .notRunning, s) := by
  obtain ⟨config, state, pipeline⟩ := s
  cases state with
  | running => exact absurd rfl idle
  | initialized | stopped => rfl

theorem stop_of_idle (idle : s.state ≠ .running) :
    stop s = (.error (.lifecycle .notRunning), s) := by
  obtain ⟨config, state, pipeline⟩ := s
  cases state with
  | running => exact absurd rfl idle
  | initialized | stopped => rfl

theorem Alive.perform (alive : Alive preprocessor entries s) (action : Action) :
    Alive preprocessor (entries ++ (perform action s).1) (perform action s).2 := by
  obtain ⟨running, steady⟩ := alive
  cases action with
  | receiveLog key log =>
      have taken : Service.perform (.receiveLog key log) s =
          (Admission.logTaken key log (receive ⟨key, [log], .single⟩ s).1,
            (receive ⟨key, [log], .single⟩ s).2) := rfl
      rw [taken, receive_of_running running]
      exact ⟨running, Admission.steady_submit_log steady key log⟩
  | receiveLogs key logs =>
      have taken : Service.perform (.receiveLogs key logs) s =
          (Admission.batchTaken key (Admission.fitting s.pipeline.backend key logs)
            (receive ⟨key, logs, .batch⟩ s).1, (receive ⟨key, logs, .batch⟩ s).2) := rfl
      rw [taken, receive_of_running running]
      exact ⟨running, Admission.steady_submit_batch steady key logs⟩
  | register registration =>
      exact ⟨running, (List.append_nil entries).symm ▸ steady.register registration⟩
  | advance millis =>
      exact ⟨running, (List.append_nil entries).symm ▸ steady.advance millis⟩
  | turn place =>
      exact ⟨running, (List.append_nil entries).symm ▸ steady.turn place⟩

theorem Alive.performAll (alive : Alive preprocessor entries s) (actions : List Action) :
    Alive preprocessor (entries ++ (performAll actions s).1) (performAll actions s).2 := by
  induction actions generalizing entries s with
  | nil => exact (List.append_nil entries).symm ▸ alive
  | cons action rest ih =>
      have later := ih (alive.perform action)
      rw [List.append_assoc] at later
      exact later

/-! ## The stop -/

theorem stop_of_running (running : s.state = .running) :
    stop s = (.ok (), { s with
      state := .stopped
      pipeline := (shutDown (flushAll
        (settle (endJobs (flushAll s.pipeline).2).2).2).2).2 }) := by
  obtain ⟨config, state, pipeline⟩ := s
  cases running
  -- The steps are left closed: the equation holds for any of them.
  simp only [stop]
  generalize (flushAll : Step α Nat) = flush
  generalize (settle : Step α Unit) = finish
  generalize (shutDown : Step α Unit) = close
  rfl

theorem Alive.stop (alive : Alive preprocessor entries s) :
    ∃ closed flushed, stop s = (.ok (), closed) ∧ closed.state = .stopped ∧
      StoredExactly preprocessor entries flushed closed.pipeline.backend := by
  obtain ⟨steady, drained⟩ := alive.steady.flushAll
  have ended := steady_endJobs steady
  obtain ⟨settled, empty⟩ :=
    (keptByTime_drained preprocessor entries).settle ⟨ended, drained⟩
  have done := ended.ready_settle
  obtain ⟨flushed, exactly⟩ := settled.storedExactly empty done
  refine ⟨_, flushed, stop_of_running alive.running, rfl, ?_⟩
  dsimp only
  rw [empty.flushAll done, settled.shutDown done]
  exact exactly

omit [Quantity α] in
theorem run_mk_bind {β γ : Type} {step : StateM (Service α) (Except ServiceError β)}
    {next : β → ExceptT ServiceError (StateM (Service α)) γ} {b : β} {after : Service α}
    (went : step s = (.ok b, after)) : (ExceptT.mk step >>= next).run s = (next b).run after := by
  have goesOn : ∀ rest : Except ServiceError β → StateM (Service α) (Except ServiceError γ),
      (step >>= rest) s = rest (.ok b) after := by
    intro rest
    change rest (step s).1 (step s).2 = _
    rw [went]
  rw [ExceptT.run_bind, ExceptT.run_mk]
  exact goesOn _

theorem run_lifetime {actions : List Action} {opened closed : Service α}
    (begun : start s = (.ok (), opened))
    (ended : stop (performAll actions opened).2 = (.ok (), closed)) :
    (lifetime actions).run s = (.ok (performAll actions opened).1, closed) := by
  rw [lifetime, run_mk_bind begun]
  have used : (ExceptT.mk stop >>= fun _ => pure (performAll actions opened).1).run
      (performAll actions opened).2 = (.ok (performAll actions opened).1, closed) :=
    run_mk_bind ended
  exact used

/-- From start to stop, nothing that was taken in is lost or stored twice. -/
theorem stored_exactly_once {c : PipelineConfig} {processors : Nat} {ids : IdSource}
    {preprocessor : Preprocessor} {apps : Catalogue App.id} {endpoints : Catalogue Endpoint.id}
    {epoch : Int} {s : Service α}
    (built : build c processors (opened ids preprocessor apps endpoints) epoch = .ok s)
    (actions : List Action) :
    ∃ entries stopped flushed, (lifetime actions).run s = (.ok entries, stopped) ∧
      stopped.state = .stopped ∧
      StoredExactly preprocessor entries flushed stopped.pipeline.backend := by
  obtain ⟨fresh, steady⟩ : s.state = .initialized ∧ Steady preprocessor [] s.pipeline := by
    rw [eq_of_build built]
    exact ⟨rfl, steady_new ids preprocessor apps endpoints c processors epoch⟩
  obtain ⟨opened, begun, alive⟩ := alive_start fresh steady
  obtain ⟨closed, flushed, ended, stopped, exactly⟩ := (alive.performAll actions).stop
  exact ⟨_, closed, flushed, run_lifetime begun ended, stopped, exactly⟩

/-- A single log that the job flushes, two logs together, and a single log that is still in its
buffer when the service is stopped. -/
theorem stored_exactly_once_in_three :
    let key : Key := ⟨⟨"app"⟩, ⟨"endpoint"⟩⟩
    let log : RawLog := .new "text" .custom ⟨0, 0⟩
    let known := opened ⟨"", 1⟩ .defaults (.put .empty (.new key.app "key" "secret"))
      (.put .empty (.new key.endpoint .custom))
    let actions : List Action :=
      [.receiveLog key log, .advance 5001, .receiveLogs key [log, log], .receiveLog key log]
    ∃ s : Service Rat, build .defaults 1 known 0 = .ok s ∧
      ((lifetime actions).run s).2.pipeline.backend.storage.held.values.map List.length =
        [1, 2, 1] ∧
      ∃ entries stopped flushed, (lifetime actions).run s = (.ok entries, stopped) ∧
        stopped.state = .stopped ∧
        StoredExactly .defaults entries flushed stopped.pipeline.backend := by
  intro key log known actions
  have built : build .defaults 1 known 0 =
      .ok (⟨.defaults, .initialized, PipelineConfig.defaults.pipeline 1 known 0⟩ : Service Rat) :=
    rfl
  exact ⟨_, built, by decide +kernel, stored_exactly_once built actions⟩

end Service

end LogPipeline
