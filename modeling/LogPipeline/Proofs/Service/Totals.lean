import LogPipeline.Proofs.Admission.Rejection
import LogPipeline.Proofs.Pipeline.Totals
import LogPipeline.Proofs.Service.Use

namespace LogPipeline

open Backend LogEvent

def Change.BringsNoBatch : Change → Prop
  | .putBatch _ | .markStored _ => False
  | c => c.IsPlain

theorem Change.BringsNoBatch.isPlain {c : Change} (spared : c.BringsNoBatch) : c.IsPlain := by
  cases c with
  | putBatch | markStored => exact spared.elim
  | _ => exact spared

namespace LogEvent

theorem total_buffered {count : LogEvent → Nat} {key : Key} {n : Nat}
    (each : ∀ log, count (.buffered key log) = n) (logs : List RawLog) :
    total count (logs.map (.buffered key)) = logs.length * n := by
  simp [total, Function.comp_def, each]

end LogEvent

theorem logsIn_flushes (key other : Key) (groups : List (List RawLog)) :
    logsIn other ((groups.map (Task.flush key)).filterMap Task.group?) =
      if key = other then groups.flatten.length else 0 := by
  induction groups with
  | nil => simp
  | cons logs rest ih =>
      rw [List.map_cons, List.filterMap_cons, Task.group?]
      dsimp only
      rw [logsIn_cons, ih]
      split <;> simp

namespace Pipeline

variable {α : Type} {events : List LogEvent} {hand : List Group} {p q : Pipeline α}

/-! ## Submissions and changes -/

theorem Totalled.change (totalled : Totalled events hand p) {c : Change}
    (spared : c.BringsNoBatch) : Totalled events hand (change c p).2 := by
  have plain := plain_change spared.isPlain totalled.plain p.now
  refine totalled.of_same plain ?_ rfl rfl rfl
  cases c with
  | putBatch | markStored => exact spared.elim
  | dropBatch gone =>
      refine totalled.booked.of_same rfl (fun id kept found => ?_) rfl rfl fun _ => rfl
      have found : (p.backend.batches.erase gone).get? id = some kept := found
      rw [BatchStore.get?_erase] at found
      split at found
      · cases found
      · exact ⟨kept, found, rfl⟩
  | _ =>
      exact totalled.booked.of_same rfl (fun _ kept found => ⟨kept, found, rfl⟩) rfl rfl
        fun _ => rfl

theorem Totalled.buffered (totalled : Totalled events hand p) {key : Key} {logs : List RawLog}
    (joined : Buffered key logs p q)
    (counted : q.backend.telemetry.perKey =
      (p.backend.telemetry.logsReceived key (.ofNat logs.length)).perKey) :
    Totalled (events ++ logs.map (.buffered key)) hand q := by
  obtain ⟨⟨buffers, ready, telemetry, rfl⟩, ⟨groups, more, joined⟩, others⟩ := joined
  have readied : ready = p.ready ++ groups.map (.flush key) := more
  have counters := Telemetry.counters_of_perKey counted
  have received : ∀ other, total (receivedLogs other) (logs.map (.buffered key)) =
      logs.length * if key = other then 1 else 0 :=
    fun _ => total_buffered (fun _ => rfl) logs
  exact
    { plain := ⟨totalled.plain.faults, totalled.plain.script⟩
      ready := by
        rw [readied]
        exact List.forall_mem_append.mpr
          ⟨totalled.ready, List.forall_mem_map.mpr fun _ _ => trivial⟩
      timers := totalled.timers
      booked := by
        refine totalled.booked.append (List.forall_mem_map.mpr fun _ _ => rfl) (fun _ => id)
          (.of_same rfl) rfl rfl fun other => ?_
        have batches : total (receivedBatches other) (logs.map (.buffered key)) = 0 :=
          (total_buffered (fun _ => rfl) logs).trans (Nat.mul_zero _)
        rw [Receives, counters, Telemetry.counters_logsReceived, batches, received]
        by_cases same : key = other
        · subst same
          simp [Counters.totals]
        · simp [Counters.totals, same]
      located := fun other => by
        have located := totalled.located other
        have saved : total (savedLogs other) (logs.map (.buffered key)) = 0 :=
          (total_buffered (fun _ => rfl) logs).trans (Nat.mul_zero _)
        have dropped : total (droppedLogs other) (logs.map (.buffered key)) = 0 :=
          (total_buffered (fun _ => rfl) logs).trans (Nat.mul_zero _)
        simp only [Located, readied, List.filterMap_append, logsIn_append, logsIn_flushes,
          total_append, received, saved, dropped] at located ⊢
        by_cases same : key = other
        · subst same
          have lengths := congrArg List.length joined
          simp only [List.length_append, if_pos] at lengths ⊢
          omega
        · rw [others other (Ne.symm same)]
          simp only [if_neg same]
          omega }

theorem Totalled.accepted (totalled : Totalled events hand p) (key : Key) (logs : List RawLog)
    {faults : FaultPlan} (calm : faults = .empty) :
    Totalled (events ++ [.accepted ⟨p.backend.ids.fresh, key, logs⟩]) hand
      (Admission.accepted key logs faults p) := by
  have saved : Totalled (events ++ [.accepted ⟨p.backend.ids.fresh, key, logs⟩]) hand { p with
      backend := { p.backend with
        faults
        ids := p.backend.ids.advance
        batches := p.backend.batches.put (.new p.backend.ids.fresh key logs p.now)
        telemetry :=
          (p.backend.telemetry.batchReceived key).logsReceived key (.ofNat logs.length) } } :=
    { plain := ⟨calm, totalled.plain.script⟩
      ready := totalled.ready
      timers := totalled.timers
      booked := totalled.booked.save rfl rfl rfl rfl rfl rfl rfl rfl fun other => by
        dsimp only
        rw [Receives, Telemetry.counters_logsReceived, Telemetry.counters_batchReceived,
          Telemetry.counters_batchReceived, if_pos rfl]
        by_cases same : key = other
        · subst same
          simp [Counters.totals, receivedBatches, receivedLogs, Made.logsOf]
        · simp [Counters.totals, receivedBatches, receivedLogs, Made.logsOf, same]
      located := fun other => by
        have located := totalled.located other
        simp only [Located, total_append, total_singleton, receivedLogs, savedLogs,
          droppedLogs] at located ⊢
        omega }
  exact saved.announce _

theorem Totalled.turnedAway (totalled : Totalled events hand p) (reason : Rejection) :
    Totalled events hand (Admission.turnedAway reason p).2 := by
  rw [Admission.turnedAway_apply]
  exact totalled.of_same ⟨totalled.plain.faults, totalled.plain.script⟩
    (totalled.counted (Admission.perKey_rejectionCounted reason _)) rfl rfl rfl

theorem Totalled.asked (totalled : Totalled events hand p) {faults : FaultPlan}
    (calm : faults = .empty) (cache : DecisionCache) (limiter : Limiter α) :
    Totalled events hand (Admission.asked faults cache limiter p) :=
  totalled.of_same ⟨calm, totalled.plain.script⟩
    (totalled.booked.of_same rfl (.of_same rfl) rfl rfl fun _ => rfl) rfl rfl rfl

theorem Totalled.unsaved (totalled : Totalled events hand p) {faults : FaultPlan}
    (calm : faults = .empty) : Totalled events hand
      { p with backend := { p.backend with faults, ids := p.backend.ids.advance } } := by
  have booked : Booked (events ++ [])
      { p.backend with faults, ids := p.backend.ids.advance } :=
    totalled.booked.append (List.forall_mem_nil _) (fun _ => .advance) (.of_same rfl) rfl rfl
      fun _ => by simp [Receives]; rfl
  rw [List.append_nil] at booked
  exact totalled.of_same ⟨calm, totalled.plain.script⟩ booked rfl rfl rfl

theorem Totalled.submit [Quantity α] (totalled : Totalled events hand p) (s : Submission) :
    Totalled (events ++ ofAnswer p.backend s (Admission.submit s p).1) hand
      (Admission.submit s p).2 := by
  have calm := totalled.plain.faults
  have ended := Admission.ended_submit s p
  generalize Admission.submit s p = run at ended ⊢
  cases ended with
  | rejected asked _ spares =>
      obtain ⟨_, cache, limiter, _, _, rfl⟩ := asked
      rw [Admission.turnedAway, ofAnswer, List.append_nil]
      exact (totalled.asked (spares calm) cache limiter).turnedAway _
  | buffered asked _ _ joined counted spares =>
      obtain ⟨_, cache, limiter, _, _, rfl⟩ := asked
      exact (totalled.asked (spares calm) cache limiter).buffered joined counted
  | accepted asked _ _ _ spares =>
      obtain ⟨_, cache, limiter, _, _, rfl⟩ := asked
      exact (totalled.asked rfl cache limiter).accepted _ _ (spares calm)
  | unsaved asked _ _ _ spares =>
      obtain ⟨_, cache, limiter, _, _, rfl⟩ := asked
      rw [Admission.turnedAway, ofAnswer, List.append_nil]
      exact (totalled.asked rfl cache limiter).unsaved (spares calm) |>.turnedAway _

/-! ## Work -/

theorem Totalled.endJobs (totalled : Totalled events hand p) :
    Totalled events hand (Service.endJobs p).2 := by
  refine totalled.of_tasks totalled.plain totalled.booked ?_ ?_ rfl ?_
  · exact fun task member => totalled.ready task (List.mem_filter.mp member).1
  · exact fun timer member => totalled.timers timer (List.mem_filter.mp member).1
  · change (p.ready.filter fun task => ! task.isJob).filterMap Task.group? = _
    rw [List.filterMap_filter]
    congr 1
    funext task
    cases task <;> rfl

theorem Totalled.leaveAll (totalled : Totalled events hand p) (waits : List (BatchId × Nat)) :
    Totalled events hand (p.leaveAll waits) := by
  induction waits generalizing p with
  | nil => exact totalled
  | cons wait rest ih => exact ih (totalled.seatLeft wait.1)

theorem Totalled.interruptWaits (totalled : Totalled events hand p) :
    Totalled events hand (interruptWaits p).2 := by
  have cut : Totalled events hand { p with
      timers := p.timers.filter fun timer => ! timer.task.isResume
      pool := { p.pool with shutDown := true } } :=
    totalled.of_tasks totalled.plain totalled.booked totalled.ready
      (fun timer member => totalled.timers timer (List.mem_filter.mp member).1) rfl rfl
  rw [interruptWaits_apply]
  exact cut.leaveAll _

variable [Quantity α]

theorem keptByTurns_totalled :
    KeptByTurns (α := α) False ofTurn fun events => Totalled events [] where
  orderly := False.elim
  ahead := False.elim
  runTask _ _ _ _ among totalled := totalled.runTask among
  moveTo _ _ instant _ totalled := totalled.moveTo instant

end Pipeline

namespace LogEvent

open Pipeline

variable {α : Type} [Quantity α]

def ofFlushAll (p : Pipeline α) : List LogEvent :=
  ofDrain p ++ (flushAllTurns p).flatMap ofTurn

def ofStop (p : Pipeline α) : List LogEvent :=
  let ended := (Service.endJobs (flushAll p).2).2
  let settled := (settle ended).2
  ofFlushAll p ++ (settleTurns ended).flatMap ofTurn ++ ofFlushAll settled ++
    (shutDownTurns (flushAll settled).2).flatMap ofTurn

end LogEvent

namespace Pipeline

variable {α : Type} [Quantity α] {events : List LogEvent} {p : Pipeline α}

theorem Totalled.flushAll (totalled : Totalled events [] p) :
    Totalled (events ++ ofFlushAll p) [] (flushAll p).2 := by
  have flushed := keptByTurns_totalled.waitForFlushes totalled.drainBuffers
  rw [List.append_assoc] at flushed
  exact flushed

theorem Totalled.shutDown (totalled : Totalled events [] p) :
    Totalled (events ++ (shutDownTurns p).flatMap ofTurn) [] (shutDown p).2 := by
  rw [shutDown_apply, shutDownTurns]
  split
  · exact keptByTurns_totalled.settle totalled.interruptWaits
  · exact totalled.interruptWaits.nothing

theorem Totalled.stop (totalled : Totalled events [] p) :
    Totalled (events ++ ofStop p) []
      (Pipeline.shutDown (Pipeline.flushAll
        (settle (Service.endJobs (Pipeline.flushAll p).2).2).2).2).2 := by
  have settled := keptByTurns_totalled.settle totalled.flushAll.endJobs
  have closed := settled.flushAll.shutDown
  simp only [List.append_assoc] at closed
  simp only [ofStop, List.append_assoc]
  exact closed

end Pipeline

/-! ## Whatever happens to a service -/

def Happening.BringsNoBatch {α : Type} : Happening α → Prop
  | .occurrence (.event (.change c)) => c.BringsNoBatch
  | _ => True

namespace Service

open Pipeline

variable {α : Type} [Quantity α] {events : List LogEvent} {s : Service α}

def eventLogs (s : Service α) : Event → List LogEvent
  | .receive submission =>
    ofAnswer s.pipeline.backend submission (receive submission s).1
  | .stop => if s.isRunning then ofStop s.pipeline else []
  | .advance millis => (advanceTurns millis s.pipeline).flatMap ofTurn
  | .turn place => (placeTurns place s.pipeline).flatMap ofTurn
  | .start | .change _ => []

def logEvents (s : Service α) : Happening α → List LogEvent
  | .occurrence (.event e) => s.eventLogs e
  | .waitIdle => (waitIdleTurns s.pipeline).flatMap ofTurn
  | .flushAll => ofFlushAll s.pipeline
  | .process id => (processTurns id 0 s.pipeline.mostAttempts s.pipeline).flatMap ofTurn
  | .occurrence .cleanUp | .asked _ => []

def logEventsOf (s : Service α) : List (Happening α) → List LogEvent
  | [] => []
  | happening :: rest => s.logEvents happening ++ logEventsOf (s.happen happening) rest

theorem totalled_react (totalled : Totalled events [] s.pipeline) {event : Event}
    (spared : ∀ c, event = .change c → c.BringsNoBatch) :
    Totalled (events ++ s.eventLogs event) [] (s.react event).pipeline := by
  cases event with
  | start =>
      rw [eventLogs, List.append_nil]
      obtain ⟨config, state, pipeline⟩ := s
      cases state with
      | running | stopped => exact totalled
      | initialized =>
          exact setTimers_keeps (fun p job delay period (totalled : Totalled events [] p) =>
            totalled.setTimer (show (Task.run job).IsTimed from period) delay)
            (period_of_mem_jobs config) totalled
  | stop =>
      rw [eventLogs]
      by_cases running : s.state = .running
      · have stopped := totalled.stop
        have done := stop_of_running running
        generalize (shutDown (α := α) _).2 = shut at done stopped
        rw [isRunning, decide_eq_true running, if_pos rfl, Service.react, done]
        exact stopped
      · rw [isRunning, decide_eq_false running, Service.react, stop_of_idle running]
        exact totalled.nothing
  | receive submission =>
      rw [eventLogs]
      by_cases running : s.state = .running
      · rw [Service.react, receive_of_running running]
        exact totalled.submit submission
      · rw [Service.react, receive_of_idle running]
        exact totalled.nothing
  | change c => exact (totalled.change (spared c rfl)).nothing
  | advance millis => exact keptByTurns_totalled.advance totalled millis
  | turn place => exact keptByTurns_totalled.turn totalled place

theorem totalled_happen (totalled : Totalled events [] s.pipeline) {happening : Happening α}
    (spared : happening.BringsNoBatch) :
    Totalled (events ++ s.logEvents happening) [] (s.happen happening).pipeline := by
  cases happening with
  | occurrence occurrence =>
      cases occurrence with
      | event event =>
          refine totalled_react totalled fun c same => ?_
          subst same
          exact spared
      | cleanUp => exact totalled.cleanUp.nothing
  | waitIdle => exact keptByTurns_totalled.waitIdle totalled
  | flushAll => exact totalled.flushAll
  | process id =>
      refine keptByTurns_totalled.processFrom (fun events p id retry totalled => ?_) totalled id 0 _
      exact totalled.of_same (plain_tryOnce totalled.plain _ _ _ _)
        (totalled.booked.tryOnce totalled.plain _ _ _ _) rfl rfl rfl
  | asked gateway => exact (totalled.withGateway gateway).nothing

theorem totalled_afterAll (totalled : Totalled events [] s.pipeline)
    {happenings : List (Happening α)}
    (spared : ∀ happening ∈ happenings, happening.BringsNoBatch) :
    Totalled (events ++ s.logEventsOf happenings) [] (s.afterAll happenings).pipeline := by
  induction happenings generalizing events s with
  | nil => exact totalled.nothing
  | cons happening rest ih =>
      obtain ⟨first, others⟩ := List.forall_mem_cons.mp spared
      have later := ih (totalled_happen totalled first) others
      rw [List.append_assoc] at later
      exact later

end Service

/-! ## What the metrics say -/

namespace Pipeline

variable {α : Type} {events : List LogEvent} {p : Pipeline α}

/-- What the metrics count for a key. A log that came in is in its buffer, in a group that is ready
to become a batch, in a batch that was saved, or in one that could not be. -/
structure Metered (events : List LogEvent) (p : Pipeline α) (key : Key) : Prop where
  receivedBatches : (p.backend.telemetry.counters key).receivedBatches =
    .ofNat (total (receivedBatches key) events)
  receivedLogs : (p.backend.telemetry.counters key).receivedLogs =
    .ofNat (total (receivedLogs key) events)
  located : total (LogEvent.receivedLogs key) events =
    (p.buffers.logsOf key).length + logsIn key (p.ready.filterMap Task.group?) +
      total (savedLogs key) events + total (droppedLogs key) events
  settled : p.ready = [] → total (LogEvent.receivedLogs key) events =
    (p.buffers.logsOf key).length + total (savedLogs key) events + total (droppedLogs key) events
  successLogs : (p.backend.telemetry.counters key).successLogs =
    .ofNat ((p.backend.heldOf events key).map fun row => row.2.length).sum
  timeCount : (p.backend.telemetry.counters key).timeCount =
    .ofNat (p.backend.heldOf events key).length
  failures : (p.backend.telemetry.counters key).failures =
    .ofNat (p.backend.noticesOf events key).length

theorem Totalled.metered (totalled : Totalled events [] p) (key : Key) : Metered events p key := by
  have counted := totalled.booked.counted key
  have located := totalled.located key
  rw [Located, List.append_nil] at located
  exact
    { receivedBatches := congrArg Totals.receivedBatches counted
      receivedLogs := congrArg Totals.receivedLogs counted
      located
      settled := fun done => by rwa [done] at located
      successLogs := congrArg Totals.successLogs counted
      timeCount := congrArg Totals.timeCount counted
      failures := congrArg Totals.failures counted }

end Pipeline

namespace Service

open Pipeline

variable {α : Type} [Quantity α]

section New

variable (ids : IdSource) (preprocessor : Preprocessor) (apps : Catalogue App.id)
  (endpoints : Catalogue Endpoint.id)

theorem booked_opened : Booked [] (opened ids preprocessor apps endpoints) where
  distinct := .nil
  spent := nofun
  recorded _ _ found := by cases found
  held := nofun
  told := nofun
  counted _ := rfl

omit [Quantity α] in
theorem totalled_new (c : PipelineConfig) (processors : Nat) (epoch : Int) :
    Totalled [] []
      (c.pipeline processors (opened ids preprocessor apps endpoints) epoch : Pipeline α) where
  plain := ⟨rfl, rfl⟩
  ready := nofun
  timers := nofun
  booked := booked_opened ids preprocessor apps endpoints
  located _ := rfl

end New

/-- Whatever happens to a service, its metrics count what came in and what has come of it. Each
batch that is stored, or of which notice was given, is one that was saved. -/
theorem metrics_count {c : PipelineConfig} {processors : Nat} {ids : IdSource}
    {preprocessor : Preprocessor} {apps : Catalogue App.id} {endpoints : Catalogue Endpoint.id}
    {epoch : Int} {fresh : Service α}
    (built : build c processors (opened ids preprocessor apps endpoints) epoch = .ok fresh)
    (happenings : List (Happening α))
    (spared : ∀ happening ∈ happenings, happening.BringsNoBatch) :
    let p := (fresh.afterAll happenings).pipeline
    let events := fresh.logEventsOf happenings
    (∀ key, Metered events p key) ∧ ((events.filterMap saved?).map Made.id).Nodup ∧
      (∀ row ∈ p.backend.storage.held.rows, (keyOf events row.1).isSome) ∧
      ∀ notice ∈ p.backend.notices, (keyOf events notice.1).isSome := by
  intro p events
  have start : Totalled [] [] fresh.pipeline := by
    rw [eq_of_build built]
    exact totalled_new ids preprocessor apps endpoints c processors epoch
  have totalled : Totalled events [] p := totalled_afterAll start spared
  exact ⟨totalled.metered, totalled.booked.distinct, totalled.booked.held, totalled.booked.told⟩

/-- Two logs together are stored, one in another batch is refused twice, one is dropped while no
batch can be saved, one is flushed and stored, and one stays in its buffer. -/
theorem metrics_count_through_failures :
    let key : Key := ⟨⟨"app"⟩, ⟨"endpoint"⟩⟩
    let log : RawLog := .new "text" .custom ⟨0, 0⟩
    let apps := .put .empty (.new key.app "key" "secret")
    let endpoints := .put .empty (.new key.endpoint .custom)
    let c : PipelineConfig :=
      { PipelineConfig.defaults with
        flushIntervalMs := 1000000, maxRetries := 1, retryIntervalMs := 10 }
    let on (events : List Event) : List (Happening Rat) :=
      events.map fun event => .occurrence (.event event)
    let single : Event := .receive ⟨key, [log], .single⟩
    let happenings :=
      on [.start, .receive ⟨key, [log, log], .batch⟩, .turn 0, .change (.refuseNext 2),
        .receive ⟨key, [log], .batch⟩, .advance 11, .change (.failWrites true), single] ++
      [.flushAll] ++ on [.change (.failWrites false), single] ++
      [.flushAll, .waitIdle, .occurrence .cleanUp] ++ on [single]
    ∃ fresh : Service Rat, build c 1 (opened ⟨"", 1⟩ .defaults apps endpoints) 0 = .ok fresh ∧
      let p := (fresh.afterAll happenings).pipeline
      let events := fresh.logEventsOf happenings
      let counted := p.backend.telemetry.counters key
      (counted.receivedBatches, counted.receivedLogs, counted.successLogs, counted.timeCount,
          counted.failures) = (2, 6, 3, 2, 1) ∧
        p.ready.isEmpty = true ∧
        ((p.buffers.logsOf key).length, total (savedLogs key) events,
          total (droppedLogs key) events) = (1, 4, 1) ∧
        ((∀ key, Metered events p key) ∧ ((events.filterMap saved?).map Made.id).Nodup ∧
          (∀ row ∈ p.backend.storage.held.rows, (keyOf events row.1).isSome) ∧
          ∀ notice ∈ p.backend.notices, (keyOf events notice.1).isSome) := by
  intro key log apps endpoints c on single happenings
  have built : build c 1 (opened ⟨"", 1⟩ .defaults apps endpoints) 0 =
      .ok (⟨c, .initialized, c.pipeline 1 (opened ⟨"", 1⟩ .defaults apps endpoints) 0⟩ :
        Service Rat) :=
    rfl
  have spared : ∀ happening ∈ happenings, happening.BringsNoBatch := by
    simp [happenings, on, single, Happening.BringsNoBatch, Change.BringsNoBatch, Change.IsPlain]
  exact ⟨_, built, by decide +kernel, by decide +kernel, by decide +kernel,
    metrics_count built happenings spared⟩

end Service

end LogPipeline
