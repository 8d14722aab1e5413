import LogPipeline.Proofs.Service.Punctual

namespace LogPipeline

open Backend

def Change.WritesNoBatch : Change → Prop
  | .putBatch _ => False
  | c => c.IsPlain

theorem Change.WritesNoBatch.isPlain {c : Change} (spared : c.WritesNoBatch) : c.IsPlain := by
  cases c with
  | putBatch => exact spared.elim
  | _ => exact spared

def Event.WritesNoBatch : Event → Prop
  | .change c => c.WritesNoBatch
  | _ => True

/-! ## Submissions and changes -/

namespace Pipeline

variable {α : Type} {s : Pacing} {p q : Pipeline α}

theorem Punctual.change (punctual : Punctual s p) {c : Change} (spared : c.WritesNoBatch) :
    Punctual s (Pipeline.change c p).2 := by
  cases c with
  | putBatch made => exact spared.elim
  | dropBatch gone =>
      refine punctual.eased rfl rfl (fun _ => .inl) (fun _ waits => waits)
        (fun _ resumes => resumes) fun id _ => ?_
      change Eased _ _ ((p.backend.batches.erase gone).get? id)
      rw [BatchStore.get?_erase]
      split
      · exact .gone _
      · exact .kept _
  | failWrites on =>
      exact punctual.eased rfl rfl (fun _ => .inl) (fun _ waits => waits)
        (fun _ resumes => resumes) fun _ _ => .kept _
  | _ => exact punctual.of_same rfl rfl rfl rfl rfl rfl

theorem Punctual.buffered (punctual : Punctual s p) {key : Key} {logs : List RawLog}
    (joined : Buffered key logs p q) : Punctual s q := by
  obtain ⟨⟨buffers, ready, telemetry, rfl⟩, ⟨groups, more, -⟩, -⟩ := joined
  refine punctual.eased rfl rfl (fun _ => .inl) (fun _ waits => waits) (fun next member => ?_)
    fun _ _ => .kept _
  have readied : ready = p.ready ++ groups.map (.flush key) := more
  have none : (groups.map (Task.flush key)).filterMap Task.resumed? = [] := by simp
  simp only [Pipeline.resuming, readied, List.filterMap_append, none, List.append_nil] at member
  exact member

variable [Quantity α]

theorem Punctual.submit (punctual : Punctual s p) (runs : Runs p) (submission : Submission) :
    Punctual s (Admission.submit submission p).2 := by
  have ended := Admission.ended_submit submission p
  generalize Admission.submit submission p = run at ended ⊢
  have turnedAway : ∀ (reason : Rejection) (q : Pipeline α), Punctual s q →
      Punctual s (Admission.turnedAway reason q).2 := by
    intro reason q still
    rw [Admission.turnedAway_apply]
    exact still.of_same rfl rfl rfl rfl rfl rfl
  cases ended with
  | rejected asked =>
      obtain ⟨_, _, _, _, _, rfl⟩ := asked
      exact turnedAway _ _ (punctual.of_same rfl rfl rfl rfl rfl rfl)
  | buffered asked _ _ joined =>
      obtain ⟨faults, cache, limiter, _, _, rfl⟩ := asked
      have still : Punctual s (Admission.asked faults cache limiter p) :=
        punctual.of_same rfl rfl rfl rfl rfl rfl
      exact still.buffered joined
  | accepted asked =>
      obtain ⟨faults, cache, limiter, _, _, rfl⟩ := asked
      have still : Punctual s (Admission.asked faults cache limiter p) :=
        punctual.of_same rfl rfl rfl rfl rfl rfl
      exact still.announce runs.orderly.handler (fun _ => runs.orderly.spent_of_engaged) rfl rfl rfl
  | unsaved asked =>
      obtain ⟨_, _, _, _, _, rfl⟩ := asked
      exact turnedAway _ _ (punctual.of_same rfl rfl rfl rfl rfl rfl)

theorem Timely.cleanUp (timely : Timely s p)
    (inside : (Timestamp.ofMillis s.epoch).inRange = true) : Timely s (runJob .cleanUp p).2 := by
  have plain := timely.orderly.plain
  obtain ⟨still, ids⟩ := plain_cleanUp plain p.retention p.now
  refine ⟨timely.toRuns.of_same rfl rfl rfl rfl still fun id spent => ?_,
    timely.toPunctual.cleanUp plain inside⟩
  exact ids ▸ spent

end Pipeline

/-! ## What a cleanup makes of a batch -/

/-- What a cleanup may leave of a batch whose delivery has begun. A batch is recorded as failed
only since an earlier cleanup gave it up. -/
structure Pacing.Judges (s : Pacing) (now : Timestamp) (writes : Bool) (batch : Batch)
    (left : Option Batch) : Prop where
  unprocessed : batch.status ≠ .processed
  pending : batch.status = .pending → left = some batch
  processing : batch.status = .processing → left = some
    (if writes && BatchStore.isBefore batch.lastProcess (now.before s.retention.processingTimeout)
      then batch.timedOut else batch)
  failed : batch.status = .failed → batch.error = some timeoutMessage ∧ left =
    if writes && BatchStore.isBefore batch.lastProcess (now.before s.retention.failedRetention)
      then none else some batch
  ample : s.IsAmple → left = some batch

theorem Pacing.Awaits.judges {s : Pacing} {due retry clock : Nat} {batch : Batch}
    (awaits : s.Awaits due retry (some batch))
    (inside : (Timestamp.ofMillis s.epoch).inRange = true) (before : clock ≤ due) (failing : Bool) :
    s.Judges (.ofMillis (s.epoch + clock)) (!failing) batch
      (if failing then some batch else s.retention.leaves (.ofMillis (s.epoch + clock)) batch) := by
  have recorded : batch.status = .pending ∨ s.Underway due retry batch := awaits.record batch rfl
  constructor
  · intro processed
    rcases recorded with pending | ⟨processing | ⟨-, failed, -⟩, -⟩
    · cases pending.symm.trans processed
    · cases processing.symm.trans processed
    · cases failed.symm.trans processed
  · intro pending
    cases failing <;> simp [RetentionPolicy.leaves, pending]
  · intro processing
    cases failing with
    | true => rfl
    | false =>
        simp only [RetentionPolicy.leaves, processing, Bool.not_false, Bool.true_and, if_false,
          Bool.false_eq_true]
        split <;> rfl
  · intro failed
    refine ⟨?_, by cases failing <;> simp [RetentionPolicy.leaves, failed]⟩
    rcases recorded with pending | ⟨processing | ⟨-, -, error⟩, -⟩
    · cases pending.symm.trans failed
    · cases processing.symm.trans failed
    · exact error
  · intro ample
    cases failing with
    | true => rfl
    | false =>
        rcases recorded with pending | underway
        · simp [RetentionPolicy.leaves, pending]
        · have recent := underway.recent_of_ample awaits.bound inside ample before
          rcases underway.status with processing | ⟨short, -⟩
          · simp [RetentionPolicy.leaves, processing, recent]
          · exact absurd ample short

namespace Pipeline

variable {α : Type} [Quantity α] {s : Pacing} {p : Pipeline α}

theorem get?_runJob_cleanUp (plain : p.backend.Plain) (id : BatchId) :
    (runJob .cleanUp p).2.backend.batches.get? id = (p.backend.batches.get? id).bind fun batch =>
      if p.backend.batches.failWrites then some batch else p.retention.leaves p.now batch :=
  get?_cleanUp plain p.retention p.now id

theorem Timely.judges (timely : Timely s p) (inside : (Timestamp.ofMillis s.epoch).inRange = true)
    {id : BatchId} (sits : id ∈ p.pool.seated) {batch : Batch}
    (found : p.backend.batches.get? id = some batch) :
    s.Judges p.now (!p.backend.batches.failWrites) batch
      ((runJob .cleanUp p).2.backend.batches.get? id) := by
  have engaged : id ∈ p.engaged :=
    List.mem_append_right _ (timely.orderly.seated.mem_iff.mp sits)
  obtain ⟨due, retry, before, awaits⟩ := timely.toPunctual.awaits_of_engaged engaged
  rw [get?_runJob_cleanUp timely.orderly.plain, found]
  obtain rfl := timely.pacing
  rw [found] at awaits
  exact awaits.judges inside before _

end Pipeline

/-! ## All cleanups of a run -/

def Occurrence.WritesNoBatch : Occurrence → Prop
  | .event e => e.WritesNoBatch
  | .cleanUp => True

def PipelineConfig.pacing (c : PipelineConfig) (epoch : Int) : Pacing :=
  ⟨epoch, c.retryPolicy, c.retention⟩

namespace Service

open Pipeline

variable {α : Type} [Quantity α] {s : Service α} {pacing : Pacing}

def foundByCleanup? : Task × Pipeline α → Option (Pipeline α)
  | (.run ⟨.cleanUp, _⟩, p) => some p
  | _ => none

def passes (s : Service α) : Occurrence → List (Pipeline α)
  | .event e => (s.turns e).filterMap foundByCleanup?
  | .cleanUp => [s.pipeline]

def passesOf (s : Service α) : List Occurrence → List (Pipeline α)
  | [] => []
  | occurrence :: rest => s.passes occurrence ++ passesOf (s.occur occurrence) rest

def InTime (pacing : Pacing) (s : Service α) : Prop :=
  Timely pacing s.pipeline ∨ Rests s ∧ s.pipeline.pool.seated = []

theorem Rests.passes (rests : Rests s) (occurrence : Occurrence) :
    ∀ p ∈ s.passes occurrence, p = s.pipeline := by
  cases occurrence with
  | cleanUp => exact List.forall_mem_singleton.mpr rfl
  | event event =>
      have idle : s.turns event = [] := by
        cases event with
        | start | receive | change => rfl
        | stop => rw [turns, isRunning, rests.stopped]; rfl
        | advance millis => exact advanceTurns_of_idle rests.ready rests.timers millis
        | turn place => exact placeTurns_of_idle rests.ready place
      rw [Service.passes, idle]
      exact List.forall_mem_nil _

omit [Quantity α] in
theorem pool_outside (event : Event) (p : Pipeline α) : (event.outside p).pool = p.pool := by
  cases event <;> rfl

theorem Rests.occur (rests : Rests s) (occurrence : Occurrence) :
    Rests (s.occur occurrence) ∧ (s.occur occurrence).pipeline.pool = s.pipeline.pool := by
  cases occurrence with
  | cleanUp => exact ⟨⟨rests.stopped, rests.ready, rests.timers⟩, rfl⟩
  | event event =>
      obtain ⟨same, still⟩ := rests.react event
      refine ⟨still, ?_⟩
      change (s.react event).pipeline.pool = _
      rw [same, pool_outside]

omit [Quantity α] in
theorem mem_of_foundByCleanup? {turns : List (Task × Pipeline α)} {p : Pipeline α}
    (member : p ∈ turns.filterMap foundByCleanup?) :
    ∃ task, (task, p) ∈ turns ∧ task.isJob = true := by
  obtain ⟨⟨task, q⟩, among, found⟩ := List.mem_filterMap.mp member
  unfold foundByCleanup? at found
  split at found
  · next same =>
      cases same
      cases found
      exact ⟨_, among, rfl⟩
  · cases found

theorem Timely.react (timely : Timely pacing s.pipeline)
    (inside : (Timestamp.ofMillis pacing.epoch).inRange = true) {event : Event}
    (spared : event.WritesNoBatch) :
    InTime pacing (s.react event) ∧
      ∀ turn ∈ s.turns event, turn.1.isJob = true → Timely pacing turn.2 := by
  have kept := keptInTime_timely (α := α) inside
  have runs := timely.toRuns
  cases event with
  | start =>
      refine ⟨.inl ?_, List.forall_mem_nil _⟩
      obtain ⟨config, state, pipeline⟩ := s
      cases state with
      | running | stopped => exact timely
      | initialized =>
          exact setTimers_keeps (fun p job delay period (timely : Timely pacing p) =>
            (⟨timely.toRuns.setTimer period delay, timely.toPunctual.setTimer rfl delay⟩ :
              Timely pacing _)) (period_of_mem_jobs config) timely
  | stop =>
      by_cases running : s.state = .running
      · obtain ⟨-, stopped, drains⟩ := drains_of_running running runs
        refine ⟨.inr ⟨⟨stopped, drains.ready, drains.timers⟩, ?_⟩, ?_⟩
        · exact List.length_eq_zero_iff.mp (Nat.eq_zero_of_add_eq_zero_left drains.inFlight)
        · rw [turns, isRunning, running]
          have drained := (proceeds_drainBuffers runs.orderly runs.running).1
          have flushes := kept.flushAll (p := s.pipeline)
            ⟨⟨drained.orderly, drained.shutDown.trans runs.running⟩,
              timely.toPunctual.drainBuffers runs⟩
          obtain ⟨rest, split, others⟩ := stopTurns_split runs.orderly runs.running
          rw [if_pos (by decide), split]
          refine List.forall_mem_append.mpr ⟨fun turn member _ => flushes turn member, ?_⟩
          intro turn member job
          rw [others turn member] at job
          cases job
      · rw [turns, isRunning, decide_eq_false running, Service.react, stop_of_idle running]
        exact ⟨.inl timely, List.forall_mem_nil _⟩
  | receive submission =>
      refine ⟨.inl ?_, List.forall_mem_nil _⟩
      by_cases running : s.state = .running
      · rw [Service.react, receive_of_running running]
        exact ⟨runs.submit submission, timely.toPunctual.submit runs submission⟩
      · rw [Service.react, receive_of_idle running]
        exact timely
  | change c =>
      exact ⟨.inl ⟨runs.change spared.isPlain, timely.toPunctual.change spared⟩,
        List.forall_mem_nil _⟩
  | advance millis =>
      obtain ⟨later, turns⟩ := kept.advance timely millis
      exact ⟨.inl later, fun turn member _ => turns turn member⟩
  | turn place =>
      obtain ⟨later, turns⟩ := kept.turn timely place
      exact ⟨.inl later, fun turn member _ => turns turn member⟩

theorem InTime.occur (inTime : InTime pacing s)
    (inside : (Timestamp.ofMillis pacing.epoch).inRange = true) {occurrence : Occurrence}
    (spared : occurrence.WritesNoBatch) :
    InTime pacing (s.occur occurrence) ∧
      ∀ p ∈ s.passes occurrence, p.pool.seated = [] ∨ Timely pacing p := by
  rcases inTime with timely | ⟨rests, empty⟩
  · cases occurrence with
    | cleanUp =>
        exact ⟨.inl (timely.cleanUp inside), List.forall_mem_singleton.mpr (.inr timely)⟩
    | event event =>
        obtain ⟨later, turns⟩ := Timely.react timely inside spared
        refine ⟨later, fun p member => ?_⟩
        obtain ⟨task, among, job⟩ := mem_of_foundByCleanup? member
        exact .inr (turns _ among job)
  · obtain ⟨still, same⟩ := rests.occur occurrence
    refine ⟨.inr ⟨still, same ▸ empty⟩, fun p member => .inl ?_⟩
    rw [rests.passes occurrence p member, empty]

theorem InTime.passesOf (inTime : InTime pacing s)
    (inside : (Timestamp.ofMillis pacing.epoch).inRange = true) {occurrences : List Occurrence}
    (spared : ∀ occurrence ∈ occurrences, occurrence.WritesNoBatch) :
    ∀ p ∈ s.passesOf occurrences, p.pool.seated = [] ∨ Timely pacing p := by
  induction occurrences generalizing s with
  | nil => exact List.forall_mem_nil _
  | cons occurrence rest ih =>
      obtain ⟨first, others⟩ := List.forall_mem_cons.mp spared
      obtain ⟨later, now⟩ := inTime.occur inside first
      exact List.forall_mem_append.mpr ⟨now, ih later others⟩

omit [Quantity α] in
theorem inTime_of_build {c : PipelineConfig} {processors : Nat} {backend : Backend} {epoch : Int}
    (built : build c processors backend epoch = .ok s) (plain : backend.Plain) :
    InTime (c.pacing epoch) s := by
  obtain rfl := eq_of_build built
  refine .inl ⟨runs_of_build built plain, ?_⟩
  exact ⟨rfl, List.forall_mem_nil _, List.forall_mem_nil _, List.forall_mem_nil _,
    List.forall_mem_nil _⟩

/-- A cleanup judges a batch whose delivery has begun by what is recorded of it. It leaves the batch
alone if the processing timeout is no shorter than all waits of a delivery together. -/
theorem passes_judge {c : PipelineConfig} {processors : Nat} {backend : Backend} {epoch : Int}
    {fresh : Service α} (built : build c processors backend epoch = .ok fresh)
    (plain : backend.Plain) (inside : (Timestamp.ofMillis epoch).inRange = true)
    (occurrences : List Occurrence)
    (spared : ∀ occurrence ∈ occurrences, occurrence.WritesNoBatch) :
    ∀ p ∈ fresh.passesOf occurrences, ∀ id ∈ p.pool.seated,
      let left := (runJob .cleanUp p).2.backend.batches.get? id
      (p.backend.batches.get? id = none → left = none) ∧
        ∀ batch, p.backend.batches.get? id = some batch →
          (c.pacing epoch).Judges p.now (!p.backend.batches.failWrites) batch left := by
  intro p member id sits left
  rcases (inTime_of_build built plain).passesOf inside spared p member with empty | timely
  · rw [empty] at sits
    cases sits
  · refine ⟨fun absent => ?_, fun batch found => timely.judges inside sits found⟩
    exact (get?_runJob_cleanUp timely.orderly.plain id).trans (by rw [absent, Option.bind_none])

example : (PipelineConfig.defaults.pacing 0).IsAmple := by
  unfold Pacing.IsAmple
  decide +kernel

def impatient : PipelineConfig :=
  { PipelineConfig.defaults with
    bufferThreshold := 1, flushIntervalMs := 1000000, retryIntervalMs := 10800000
    cacheTtlSecs := 100000, refillIntervalMs := 1000000
    failedRetentionHours := 1, processingTimeoutMinutes := 1, cleanupDelayMinutes := 5 }

def oneApp : Backend :=
  opened ⟨"", 1⟩ .defaults (.put .empty (.new ⟨"app"⟩ "key" "secret"))
    (.put .empty (.new ⟨"endpoint"⟩ .custom))

def refusedOnce : List Occurrence :=
  [.event .start, .event (.change (.refuseNext 1)),
    .event (.receive ⟨⟨⟨"app"⟩, ⟨"endpoint"⟩⟩, [.new "text" .custom ⟨0, 0⟩], .batch⟩),
    .event (.turn 0), .event (.advance 3900001), .cleanUp]

theorem build_impatient : build impatient 1 oneApp 0 =
    .ok (⟨impatient, .initialized, impatient.pipeline 1 oneApp 0⟩ : Service Rat) :=
  rfl

theorem writesNoBatch_refusedOnce : ∀ occurrence ∈ refusedOnce, occurrence.WritesNoBatch := by
  simp [refusedOnce, Occurrence.WritesNoBatch, Event.WritesNoBatch, Change.WritesNoBatch,
    Change.IsPlain]

/-- The batch is given up, then deleted, then gone. -/
theorem passes_judge_impatient :
    let id := oneApp.ids.fresh
    ∃ fresh : Service Rat, build impatient 1 oneApp 0 = .ok fresh ∧
      (fresh.passesOf refusedOnce).map (fun p =>
          (p.pool.seated, (p.backend.batches.get? id).map (·.status))) =
        [([id], some .processing), ([id], some .failed), ([id], none)] ∧
      ∀ p ∈ fresh.passesOf refusedOnce, ∀ id ∈ p.pool.seated,
        let left := (runJob .cleanUp p).2.backend.batches.get? id
        (p.backend.batches.get? id = none → left = none) ∧
          ∀ batch, p.backend.batches.get? id = some batch →
            (impatient.pacing 0).Judges p.now (!p.backend.batches.failWrites) batch left :=
  ⟨_, build_impatient, by decide +kernel,
    passes_judge build_impatient ⟨rfl, rfl⟩ (by decide +kernel) refusedOnce
      writesNoBatch_refusedOnce⟩

/-- Not every batch whose delivery has begun is left alone. -/
theorem passes_touch_seated :
    ¬ ∀ (c : PipelineConfig) (processors : Nat) (backend : Backend) (epoch : Int)
      (fresh : Service Rat), build c processors backend epoch = .ok fresh → backend.Plain →
        (Timestamp.ofMillis epoch).inRange = true → ∀ occurrences : List Occurrence,
          (∀ occurrence ∈ occurrences, occurrence.WritesNoBatch) →
            ∀ p ∈ fresh.passesOf occurrences, ∀ id ∈ p.pool.seated,
              (runJob .cleanUp p).2.backend.batches.get? id = p.backend.batches.get? id := by
  intro untouched
  have same := untouched impatient 1 oneApp 0 _ build_impatient ⟨rfl, rfl⟩ (by decide +kernel)
    refusedOnce writesNoBatch_refusedOnce
  have touched : ∃ p ∈ (⟨impatient, .initialized, impatient.pipeline 1 oneApp 0⟩ :
      Service Rat).passesOf refusedOnce, ∃ id ∈ p.pool.seated,
        ((runJob .cleanUp p).2.backend.batches.get? id).map (·.status) ≠
          (p.backend.batches.get? id).map (·.status) := by
    decide +kernel
  obtain ⟨p, member, id, sits, differs⟩ := touched
  exact differs (by rw [same p member id sits])

end Service

end LogPipeline
