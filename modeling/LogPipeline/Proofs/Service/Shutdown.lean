import LogPipeline.Proofs.Admission.LastStage
import LogPipeline.Proofs.Backend.History
import LogPipeline.Proofs.Checks
import LogPipeline.Proofs.Service.Stopping

namespace LogPipeline

open Backend

/-! ## Whatever happens, the order is kept -/

namespace Pipeline

variable {α : Type} {p q : Pipeline α}

structure Runs (p : Pipeline α) : Prop where
  orderly : Orderly p
  running : p.pool.shutDown = false

theorem Runs.of_same (runs : Runs p) (handler : q.handler = p.handler) (pool : q.pool = p.pool)
    (ready : q.ready = p.ready) (timers : q.timers = p.timers) (plain : q.backend.Plain)
    (spent : ∀ id, p.backend.ids.Spent id → q.backend.ids.Spent id) : Runs q :=
  ⟨runs.orderly.of_same handler pool ready timers plain spent, pool ▸ runs.running⟩

theorem Runs.onlyGateway (runs : Runs p) (only : OnlyGateway p q) : Runs q := by
  have plain := only.plain runs.orderly.plain
  obtain ⟨_, _, rfl⟩ := only
  exact runs.of_same rfl rfl rfl rfl plain fun _ => id

theorem Runs.buffered (runs : Runs p) {key : Key} {logs : List RawLog}
    (joined : Buffered key logs p q) : Runs q := by
  obtain ⟨⟨buffers, ready, telemetry, rfl⟩, ⟨groups, more, -⟩, -⟩ := joined
  have plain := runs.orderly.plain
  have appended := runs.orderly.append runs.running (groups.map (.flush key))
    (List.forall_mem_map.mpr fun _ _ => ⟨trivial, rfl⟩)
  have readied : ready = p.ready ++ groups.map (.flush key) := more
  rw [readied]
  exact ⟨appended.of_same rfl rfl rfl rfl ⟨plain.faults, plain.script⟩ fun _ => id, runs.running⟩

theorem Runs.announce (runs : Runs p) {backend : Backend} (plain : backend.Plain)
    (ids : backend.ids = p.backend.ids.advance) :
    Runs (Pipeline.announce p.backend.ids.fresh { p with backend }).2 := by
  rw [announce_of_deliver (p := { p with backend }) runs.orderly.handler]
  refine ⟨runs.orderly.scheduled runs.running plain ids, ?_⟩
  simp only [scheduled]
  split <;> exact runs.running

theorem Runs.setTimer (runs : Runs p) {job : Job} (period : 1 ≤ job.period) (delay : Nat) :
    Runs (Pipeline.setTimer delay (.run job) p).2 := by
  refine ⟨runs.orderly.setTimer runs.running period delay, ?_⟩
  rw [setTimer_apply]
  split <;> exact runs.running

theorem Runs.aside (runs : Runs p) {backend : Backend} (gateway : Gateway α)
    (plain : backend.Plain) (ids : backend.ids = p.backend.ids) :
    Runs { p with backend, gateway } :=
  runs.of_same rfl rfl rfl rfl plain fun _ spent => ids ▸ spent

theorem Runs.change (runs : Runs p) {c : Change} (spares : c.IsPlain) :
    Runs (Pipeline.change c p).2 := by
  rw [change_apply]
  exact runs.aside p.gateway (plain_change spares runs.orderly.plain p.now) (ids_change c p.now _)

section Submissions

open Admission

theorem Runs.reject (runs : Runs p) (reason : Rejection) : Runs (reject reason p).2 := by
  have plain := runs.orderly.plain
  unfold Admission.reject
  cases reason.label? with
  | none => exact runs
  | some label =>
      exact runs.of_same rfl rfl rfl rfl ⟨plain.faults, plain.script⟩ fun _ => id

theorem Runs.lastStage (runs : Runs p) (s : Submission) (found : Found) :
    ∃ answer after, Admission.lastStage s found p = (.halt answer, after) ∧ Runs after := by
  have plain := runs.orderly.plain
  unfold Admission.lastStage
  cases s.kind with
  | single =>
      obtain ⟨after, halts, joined, -⟩ := buffered_intoBuffer s found p
      exact ⟨_, after, halts, runs.buffered joined⟩
  | batch =>
      obtain ⟨faults, spared, ⟨-, halts⟩ | ⟨-, halts⟩⟩ := intoBatch_cases s found p
      · exact ⟨_, _, halts, runs.announce ⟨spared plain.faults, plain.script⟩ rfl⟩
      · rw [reject_apply] at halts
        have spent : Runs { p with
            backend := { p.backend with faults, ids := p.backend.ids.advance } } :=
          runs.of_same rfl rfl rfl rfl ⟨spared plain.faults, plain.script⟩ fun _ => .advance
        exact ⟨_, _, halts, spent.reject _⟩

theorem Runs.submit [Quantity α] (runs : Runs p) (s : Submission) : Runs (submit s p).2 := by
  obtain ⟨q, only, ⟨reason, rejected⟩ | ⟨_, found, -, -, -, taken⟩⟩ :=
    submit_cases runs.orderly.plain s
  · rw [rejected]
    exact runs.onlyGateway only
  · obtain ⟨answer, after, halts, kept⟩ := (runs.onlyGateway only).lastStage s found
    rw [taken _ _ halts]
    exact kept

end Submissions

variable [Quantity α]

theorem Runs.runTask (runs : Runs p) {task : Task} {rest : List Task}
    (among : p.ready.Perm (task :: rest)) :
    Runs (Pipeline.runTask task { p with ready := rest }).2 :=
  have done := (proceeds_runTask runs.orderly among).1
  ⟨done.orderly, done.shutDown.trans runs.running⟩

structure KeptByWork (holds : Pipeline α → Prop) : Prop where
  runTask : ∀ p task rest, p.ready.Perm (task :: rest) → holds p →
    holds (Pipeline.runTask task { p with ready := rest }).2
  moveTo : ∀ p instant, holds p → holds (Pipeline.moveTo instant p).2

namespace KeptByWork

variable {holds : Pipeline α → Prop}

theorem keptByTime (kept : KeptByWork holds) : KeptByTime holds where
  runNext p start := by
    cases next : p.ready with
    | nil =>
        rw [runNext_nil next]
        exact start
    | cons task rest =>
        rw [runNext_cons next]
        exact kept.runTask p task rest (.of_eq next) start
  moveTo := kept.moveTo

theorem turn (kept : KeptByWork holds) (start : holds p) (place : Nat) :
    holds (Pipeline.turn place p).2 := by
  cases found : p.ready[place]? with
  | none =>
      rw [turn_none found]
      exact start
  | some task =>
      rw [turn_some found]
      obtain ⟨within, rfl⟩ := List.getElem?_eq_some_iff.mp found
      exact kept.runTask p _ _ (List.getElem_cons_eraseIdx_perm within).symm start

theorem advance (kept : KeptByWork holds) (start : holds p) (millis : Nat) :
    holds (Pipeline.advance millis p).2 :=
  kept.keptByTime.advance start millis

end KeptByWork

end Pipeline

/-! ## Configurations -/

theorem PipelineConfig.ne_zero_of_validate {c : PipelineConfig} (valid : c.validate = .ok ()) :
    ∀ entry ∈ c.positive, entry.2 ≠ 0 := by
  simp only [validate, check_eq_ok_iff, bind_eq_ok_iff, forM_eq_ok_iff,
    lastCheck_eq_ok_iff] at valid
  obtain ⟨-, -, -, _, positive, -⟩ := valid
  exact positive

theorem PipelineConfig.runs {α : Type} {c : PipelineConfig} (valid : c.validate = .ok ())
    (processors : Nat) {backend : Backend} (plain : backend.Plain) (epoch : Int) :
    (c.pipeline processors backend epoch : Pipeline α).Runs := by
  have some : c.retryIntervalMs ≠ 0 :=
    ne_zero_of_validate valid ("retry_interval_ms", _) (by simp [positive])
  have interval : Nanos.ofMillis c.retryIntervalMs.toNat ≠ 0 := by
    refine Nat.mul_ne_zero (fun zero => some ?_) (by decide)
    exact UInt64.toNat_inj.mp zero
  exact ⟨⟨plain, rfl, interval, Nat.le_max_right _ _, List.forall_mem_nil _, List.forall_mem_nil _,
    .refl _, Nat.zero_le _, .nil, List.forall_mem_nil _, nofun⟩, rfl⟩

/-! ## Whatever happens to a service -/

inductive Event where
  | start
  | stop
  | receive (submission : Submission)
  | change (change : Change)
  | advance (millis : Nat)
  | turn (place : Nat)

def Event.IsPlain : Event → Prop
  | .change c => c.IsPlain
  | _ => True

def Event.outside {α : Type} (p : Pipeline α) : Event → Pipeline α
  | .change c => (Pipeline.change c p).2
  | .advance millis => { p with clock := p.clock + millis }
  | _ => p

namespace Service

open Pipeline

variable {α : Type} [Quantity α] {s : Service α}

def react (s : Service α) : Event → Service α
  | .start => (start s).2
  | .stop => (stop s).2
  | .receive submission => (receive submission s).2
  | .change c => (onPipeline (change c) s).2
  | .advance millis => (onPipeline (advance millis) s).2
  | .turn place => (onPipeline (turn place) s).2

def after (s : Service α) (events : List Event) : Service α :=
  events.foldl react s

structure Refuses (s : Service α) : Prop where
  start : ∃ e, start s = (.error e, s)
  stop : ∃ e, stop s = (.error e, s)
  receive : ∀ submission, receive submission s = (.rejected .notRunning, s)

theorem refuses_of_stopped (stopped : s.state = .stopped) : Refuses s := by
  have idle : s.state ≠ .running := by
    rw [stopped]
    decide
  refine ⟨?_, ⟨_, stop_of_idle idle⟩, receive_of_idle idle⟩
  obtain ⟨config, state, pipeline⟩ := s
  cases stopped
  exact ⟨_, rfl⟩

structure KeptByEvents (holds : Pipeline α → Prop) (spared : Event → Prop) : Prop extends
    KeptByWork holds where
  setTimer : ∀ p job delay, 1 ≤ job.period → holds p → holds (setTimer delay (.run job) p).2
  submit : ∀ p submission, holds p → holds (Admission.submit submission p).2
  change : ∀ p c, spared (.change c) → holds p → holds (change c p).2

namespace KeptByEvents

variable {holds : Pipeline α → Prop} {spared : Event → Prop}

theorem react (kept : KeptByEvents holds spared) (start : s.state = .stopped ∨ holds s.pipeline)
    {event : Event} (spares : spared event) :
    (s.react event).state = .stopped ∨ holds (s.react event).pipeline := by
  rcases start with stopped | start
  · have refuses := refuses_of_stopped stopped
    cases event with
    | start =>
        obtain ⟨_, same⟩ := refuses.start
        exact .inl (by rw [Service.react, same]; exact stopped)
    | stop =>
        obtain ⟨_, same⟩ := refuses.stop
        exact .inl (by rw [Service.react, same]; exact stopped)
    | receive submission =>
        exact .inl (by rw [Service.react, refuses.receive submission]; exact stopped)
    | change | advance | turn => exact .inl stopped
  · cases event with
    | start =>
        obtain ⟨config, state, pipeline⟩ := s
        cases state with
        | initialized => exact .inr (setTimers_keeps kept.setTimer (period_of_mem_jobs config) start)
        | running | stopped => exact .inr start
    | stop =>
        by_cases running : s.state = .running
        · exact .inl (by rw [Service.react, stop_of_running running])
        · exact .inr (by rw [Service.react, stop_of_idle running]; exact start)
    | receive submission =>
        by_cases running : s.state = .running
        · refine .inr ?_
          rw [Service.react, receive_of_running running]
          exact kept.submit _ submission start
        · exact .inr (by rw [Service.react, receive_of_idle running]; exact start)
    | change c => exact .inr (kept.change _ c spares start)
    | advance millis => exact .inr (kept.advance start millis)
    | turn place => exact .inr (kept.turn start place)

theorem after (kept : KeptByEvents holds spared) (start : s.state = .stopped ∨ holds s.pipeline)
    {events : List Event} (spares : ∀ event ∈ events, spared event) :
    (s.after events).state = .stopped ∨ holds (s.after events).pipeline := by
  induction events generalizing s with
  | nil => exact start
  | cons event rest ih =>
      obtain ⟨first, others⟩ := List.forall_mem_cons.mp spares
      exact ih (kept.react start first) others

end KeptByEvents

theorem keptByEvents_runs : KeptByEvents (Runs (α := α)) Event.IsPlain where
  runTask _ _ _ among runs := runs.runTask among
  moveTo _ instant runs := ⟨runs.orderly.moveTo instant, runs.running⟩
  setTimer _ _ delay period runs := runs.setTimer period delay
  submit _ submission runs := runs.submit submission
  change _ _ spares runs := runs.change spares

def Ordered (s : Service α) : Prop :=
  s.state = .stopped ∨ s.pipeline.Runs

theorem Ordered.after (ordered : Ordered s) {events : List Event}
    (plain : ∀ event ∈ events, event.IsPlain) : Ordered (s.after events) :=
  keptByEvents_runs.after ordered plain

omit [Quantity α] in
theorem valid_of_build {c : PipelineConfig} {processors : Nat} {backend : Backend} {epoch : Int}
    (built : build c processors backend epoch = .ok s) : c.validate = .ok () := by
  cases checked : c.validate with
  | ok => rfl
  | error e =>
      rw [build, checked] at built
      cases built

omit [Quantity α] in
theorem ordered_of_build {c : PipelineConfig} {processors : Nat} {backend : Backend} {epoch : Int}
    (built : build c processors backend epoch = .ok s) (plain : backend.Plain) : Ordered s := by
  rw [eq_of_build built]
  exact .inr (PipelineConfig.runs (valid_of_build built) processors plain epoch)

omit [Quantity α] in
theorem runs_of_build {c : PipelineConfig} {processors : Nat} {backend : Backend} {epoch : Int}
    {fresh : Service α} (built : build c processors backend epoch = .ok fresh)
    (plain : backend.Plain) : fresh.pipeline.Runs := by
  refine (ordered_of_build built plain).resolve_left ?_
  rw [eq_of_build built]
  nofun

/-! ## After the stop -/

structure Rests (s : Service α) : Prop where
  stopped : s.state = .stopped
  ready : s.pipeline.ready = []
  timers : s.pipeline.timers = []

theorem Rests.react (rests : Rests s) (event : Event) :
    (s.react event).pipeline = event.outside s.pipeline ∧ Rests (s.react event) := by
  have refuses := refuses_of_stopped rests.stopped
  cases event with
  | start =>
      obtain ⟨_, same⟩ := refuses.start
      rw [Service.react, same]
      exact ⟨rfl, rests⟩
  | stop =>
      obtain ⟨_, same⟩ := refuses.stop
      rw [Service.react, same]
      exact ⟨rfl, rests⟩
  | receive submission =>
      rw [Service.react, refuses.receive submission]
      exact ⟨rfl, rests⟩
  | change c => exact ⟨rfl, rests.stopped, rests.ready, rests.timers⟩
  | advance millis =>
      have passed : (s.react (.advance millis)).pipeline =
          { s.pipeline with clock := s.pipeline.clock + millis } :=
        advance_of_idle rests.ready rests.timers millis
      refine ⟨passed, rests.stopped, ?_, ?_⟩ <;> rw [passed]
      · exact rests.ready
      · exact rests.timers
  | turn place =>
      have absent : (turn place s.pipeline).2 = s.pipeline := turn_none (by rw [rests.ready]; rfl)
      have same : (s.react (.turn place)).pipeline = s.pipeline := absent
      refine ⟨same, rests.stopped, ?_, ?_⟩ <;> rw [same]
      · exact rests.ready
      · exact rests.timers

theorem Rests.after (rests : Rests s) (events : List Event) :
    (s.after events).pipeline = events.foldl Event.outside s.pipeline ∧ Rests (s.after events) := by
  induction events generalizing s with
  | nil => exact ⟨rfl, rests⟩
  | cons event rest ih =>
      obtain ⟨same, still⟩ := rests.react event
      have later := ih still
      rw [same] at later
      exact later

theorem drains_of_running (running : s.state = .running) (runs : s.pipeline.Runs) :
    (stop s).1 = .ok () ∧ (stop s).2.state = .stopped ∧
      Drains s.pipeline (stopDeeds s.pipeline) (stop s).2.pipeline := by
  have drains := drains_stop runs.orderly runs.running
  have done := stop_of_running running
  generalize (shutDown (α := α) _).2 = shut at done drains
  rw [done]
  exact ⟨rfl, rfl, drains⟩

/-- A running service can be stopped whatever has happened to it, and no time passes meanwhile. Then
all attempts that were due have been made, and nothing is left but what others do. -/
theorem stop_drains {c : PipelineConfig} {processors : Nat} {backend : Backend} {epoch : Int}
    {fresh : Service α} (built : build c processors backend epoch = .ok fresh)
    (plain : backend.Plain) (events : List Event) (spared : ∀ event ∈ events, event.IsPlain)
    (running : (fresh.after events).state = .running) (later : List Event) :
    let before := fresh.after events
    let stopped := (stop before).2
    (stop before).1 = .ok () ∧ stopped.state = .stopped ∧
      Drains before.pipeline (stopDeeds before.pipeline) stopped.pipeline ∧
      (stopped.after later).pipeline = later.foldl Event.outside stopped.pipeline ∧
      Refuses (stopped.after later) := by
  intro before stopped
  -- A service that runs has not been stopped, so what happened has kept its order.
  have runs : before.pipeline.Runs :=
    ((ordered_of_build built plain).after spared).resolve_left (by rw [running]; decide)
  obtain ⟨answer, state, drains⟩ := drains_of_running running runs
  have rests : Rests stopped := ⟨state, drains.ready, drains.timers⟩
  obtain ⟨outside, still⟩ := rests.after later
  exact ⟨answer, state, drains, outside, refuses_of_stopped still.stopped⟩

/-- One worker, whose batch waits for its next attempt. A second batch waits for the worker, and a
third is made of what is buffered. -/
theorem stop_drains_queue :
    let key : Key := ⟨⟨"app"⟩, ⟨"endpoint"⟩⟩
    let log : RawLog := .new "text" .custom ⟨0, 0⟩
    let known := opened ⟨"", 1⟩ .defaults (.put .empty (.new key.app "key" "secret"))
      (.put .empty (.new key.endpoint .custom))
    let events : List Event :=
      [.start, .change (.refuseNext 1), .receive ⟨key, [log], .batch⟩, .turn 0,
        .receive ⟨key, [log, log], .batch⟩, .receive ⟨key, [log], .single⟩]
    let later : List Event := [.advance 1000000, .receive ⟨key, [log], .batch⟩]
    let second := known.ids.advance
    ∃ fresh : Service Rat, build .defaults 1 known 0 = .ok fresh ∧
      let before := fresh.after events
      let stopped := (stop before).2
      before.pipeline.pausing = [(known.ids.fresh, 1)] ∧
        before.pipeline.pool.waiting = [second.fresh] ∧
        attemptsIn (stopDeeds before.pipeline) = [(second.fresh, 0), (second.advance.fresh, 0)] ∧
        ((stop before).1 = .ok () ∧ stopped.state = .stopped ∧
          Drains before.pipeline (stopDeeds before.pipeline) stopped.pipeline ∧
          (stopped.after later).pipeline = later.foldl Event.outside stopped.pipeline ∧
          Refuses (stopped.after later)) := by
  intro key log known events later second
  have built : build .defaults 1 known 0 =
      .ok (⟨.defaults, .initialized, PipelineConfig.defaults.pipeline 1 known 0⟩ : Service Rat) :=
    rfl
  have spared : ∀ event ∈ events, event.IsPlain := by
    simp [events, Event.IsPlain, Change.IsPlain]
  exact ⟨_, built, by decide +kernel, by decide +kernel, by decide +kernel,
    stop_drains built ⟨rfl, rfl⟩ events spared (by decide +kernel) later⟩

/-- A cleanup that is due at the instant of the stop has not come by yet when that begins. It gives
up a batch that waits for its next attempt. -/
theorem stop_times_out :
    let key : Key := ⟨⟨"app"⟩, ⟨"endpoint"⟩⟩
    let log : RawLog := .new "text" .custom ⟨0, 0⟩
    let known := opened ⟨"", 1⟩ .defaults (.put .empty (.new key.app "key" "secret"))
      (.put .empty (.new key.endpoint .custom))
    let c : PipelineConfig :=
      { PipelineConfig.defaults with
        bufferThreshold := 1, flushIntervalMs := 1000000, retryIntervalMs := 600000
        cacheTtlSecs := 100000, refillIntervalMs := 1000000
        processingTimeoutMinutes := 1, cleanupDelayMinutes := 5 }
    let events : List Event :=
      [.start, .change (.refuseNext 1), .receive ⟨key, [log], .batch⟩, .turn 0, .advance 300000,
        .receive ⟨key, [log], .single⟩]
    let id := known.ids.fresh
    ∃ fresh : Service Rat, build c 1 known 0 = .ok fresh ∧
      let before := fresh.after events
      let stopped := (stop before).2
      before.state = .running ∧ id ∈ before.pipeline.pausing.map Prod.fst ∧
        (before.pipeline.backend.batches.get? id).map (fun b => (b.status, b.error)) =
          some (.processing, none) ∧
        (stop before).1 = .ok () ∧
        (stopped.pipeline.backend.batches.get? id).map (fun b => (b.status, b.error)) =
          some (.failed, some timeoutMessage) := by
  intro key log known c events id
  have built : build c 1 known 0 =
      .ok (⟨c, .initialized, c.pipeline 1 known 0⟩ : Service Rat) :=
    rfl
  exact ⟨_, built, by decide +kernel⟩

end Service

end LogPipeline
