import LogPipeline.Proofs.Backend.History
import LogPipeline.Proofs.Pipeline.Steps

namespace LogPipeline

open Backend

def Task.IsPlain : Task → Prop
  | .change c => c.IsPlain
  | _ => True

namespace Pipeline

variable {α : Type}

structure PlainTasks (p : Pipeline α) : Prop where
  ready : ∀ task ∈ p.ready, task.IsPlain
  timers : ∀ timer ∈ p.timers, timer.task.IsPlain

structure Evolved (p : Pipeline α) (records : List Record) (q : Pipeline α) : Prop where
  tasks : q.PlainTasks
  policy : q.pool.policy = p.pool.policy
  history : History p.backend records q.backend

variable {p q r : Pipeline α} {records first rest : List Record}

theorem Evolved.refl (tasks : p.PlainTasks) : Evolved p [] p :=
  ⟨tasks, rfl, .still _⟩

theorem Evolved.trans (one : Evolved p first q) (other : Evolved q rest r) :
    Evolved p (first ++ rest) r :=
  ⟨other.tasks, other.policy.trans one.policy, one.history.trans other.history⟩

theorem Evolved.plain (evolved : Evolved p records q) (plain : p.backend.Plain) :
    q.backend.Plain :=
  evolved.history.plain plain

theorem Evolved.of_move (tasks : p.PlainTasks) (ready : q.ready = p.ready)
    (timers : q.timers = p.timers) (policy : q.pool.policy = p.pool.policy)
    (move : Move p.backend records q.backend) : Evolved p records q :=
  ⟨⟨by rw [ready]; exact tasks.ready, by rw [timers]; exact tasks.timers⟩, policy, move.history⟩

theorem evolved_setTimer (tasks : p.PlainTasks) (wait : Nat) {task : Task} (plain : task.IsPlain) :
    Evolved p [] (setTimer wait task p).2 := by
  rw [setTimer_apply]
  by_cases now : wait = 0
  · simp only [now, if_true]
    exact ⟨⟨forall_mem_append_singleton tasks.ready plain, tasks.timers⟩, rfl, .still _⟩
  · simp only [now, if_false]
    exact ⟨⟨tasks.ready, forall_mem_append_singleton tasks.timers plain⟩, rfl, .still _⟩

/-! ## The worker pool -/

theorem evolved_scheduled (tasks : p.PlainTasks) (id : BatchId) : Evolved p [] (p.scheduled id) := by
  unfold scheduled
  split
  · exact .refl tasks
  · exact ⟨⟨forall_mem_append_singleton tasks.ready trivial, tasks.timers⟩, rfl, .still _⟩

theorem evolved_announce (tasks : p.PlainTasks) (id : BatchId) :
    Evolved p [] (announce id p).2 := by
  rw [announce_apply]
  cases p.handler with
  | announce => exact ⟨⟨tasks.ready, tasks.timers⟩, rfl, .still _⟩
  | deliver => exact evolved_scheduled tasks id

theorem evolved_seatLeft (tasks : p.PlainTasks) (id : BatchId) : Evolved p [] (p.seatLeft id) := by
  unfold seatLeft
  cases p.pool.waiting.isEmpty with
  | true => exact ⟨⟨tasks.ready, tasks.timers⟩, rfl, .still _⟩
  | false =>
      exact ⟨⟨forall_mem_append_singleton tasks.ready trivial, tasks.timers⟩, rfl, .still _⟩

def attemptRecords (id : BatchId) (retry : Nat) (p : Pipeline α) : List Record :=
  (Observed.tryOnce p.pool.policy p.now id retry p.backend).requests.map
    fun request => (p.now, request)

def deliverRecords (id : BatchId) (retry : Nat) : Nat → Pipeline α → List Record
  | 0, _ => []
  | attempts + 1, p =>
    attemptRecords id retry p ++
      match tryOnce p.pool.policy p.now id retry p.backend with
      | (.done _, _) => []
      | (.wait retry span, backend) =>
        if p.pool.shutDown then []
        else if span = 0 then deliverRecords id retry attempts { p with backend }
        else []

def serveRecords (p : Pipeline α) : List Record :=
  match p.pool.waiting with
  | [] => []
  | id :: waiting =>
    if p.pool.seats ≤ p.pool.seated.length then []
    else deliverRecords id 0 p.mostAttempts
      { p with pool := { p.pool with seated := p.pool.seated ++ [id], waiting } }

def taskRecords : Task → Pipeline α → List Record
  | .serve, p => serveRecords p
  | .resume id retry, p => deliverRecords id retry p.mostAttempts p
  | _, _ => []

theorem evolved_tryOnce (tasks : p.PlainTasks) (id : BatchId) (retry : Nat) :
    Evolved p (attemptRecords id retry p)
      { p with backend := (Observed.tryOnce p.pool.policy p.now id retry p.backend).after } :=
  .of_move tasks rfl rfl rfl (.attempt p.pool.policy p.now id retry p.backend)

theorem evolved_deliver (tasks : p.PlainTasks) (id : BatchId) (retry attempts : Nat) :
    Evolved p (deliverRecords id retry attempts p) (deliver id retry attempts p).2 := by
  induction attempts generalizing p retry with
  | zero =>
      rw [deliver_zero]
      exact evolved_seatLeft tasks id
  | succ attempts ih =>
      have tried := evolved_tryOnce tasks id retry
      rw [deliver_succ, deliverRecords, Observed.tryOnce_shows]
      generalize (Observed.tryOnce p.pool.policy p.now id retry p.backend).after = backend at tried ⊢
      cases (Observed.tryOnce p.pool.policy p.now id retry p.backend).next with
      | done outcome => exact tried.trans (evolved_seatLeft tried.tasks id)
      | wait retry span =>
          dsimp only
          split
          · exact tried.trans (evolved_seatLeft tried.tasks id)
          · split
            · exact tried.trans (ih tried.tasks retry)
            · exact tried.trans (evolved_setTimer tried.tasks _ trivial)

theorem evolved_serve (tasks : p.PlainTasks) : Evolved p (serveRecords p) (serve p).2 := by
  rw [serve_apply, serveRecords]
  cases p.pool.waiting with
  | nil => exact .refl tasks
  | cons id waiting =>
      dsimp only
      split
      · exact .refl tasks
      · have seated : Evolved p []
            { p with pool := { p.pool with seated := p.pool.seated ++ [id], waiting } } :=
          ⟨⟨tasks.ready, tasks.timers⟩, rfl, .still _⟩
        exact seated.trans (evolved_deliver seated.tasks id 0 p.mostAttempts)

/-! ## Buffers -/

theorem evolved_showBuffered (tasks : p.PlainTasks) : Evolved p [] (showBuffered p).2 :=
  .of_move tasks rfl rfl rfl (.count _ _)

theorem evolved_makeBatch (tasks : p.PlainTasks) (key : Key) (logs : List RawLog) :
    Evolved p [] (makeBatch key logs p).2 := by
  have made : Evolved p [] { p with backend :=
      ((saveBatch (.new p.backend.ids.fresh key logs p.now)).on
        { p.backend with ids := p.backend.ids.advance }).2 } :=
    .of_move tasks rfl rfl rfl (.make key logs p.now p.backend)
  rw [makeBatch_apply]
  generalize (saveBatch (.new p.backend.ids.fresh key logs p.now)).on
    { p.backend with ids := p.backend.ids.advance } = saved at made ⊢
  obtain ⟨answer, backend⟩ := saved
  cases answer with
  | error e => exact made
  | ok _ => exact made.trans (evolved_announce made.tasks _)

theorem evolved_makeBatches (tasks : p.PlainTasks) (groups : List (Key × List RawLog)) :
    Evolved p [] (makeBatches groups p).2 := by
  induction groups generalizing p with
  | nil => exact .refl tasks
  | cons group rest ih =>
      have first := evolved_makeBatch tasks group.1 group.2
      rw [makeBatches_cons]
      exact first.trans (ih first.tasks)

theorem evolved_drainBuffers (tasks : p.PlainTasks) : Evolved p [] (drainBuffers p).2 := by
  rw [drainBuffers_apply]
  split
  · exact .refl tasks
  · have cleared : Evolved p [] { p with buffers := p.buffers.cleared } :=
      ⟨⟨tasks.ready, tasks.timers⟩, rfl, .still _⟩
    have shown := cleared.trans (evolved_showBuffered cleared.tasks)
    exact shown.trans (evolved_makeBatches shown.tasks _)

/-! ## Time and tasks -/

theorem evolved_moveTo (tasks : p.PlainTasks) (instant : Nat) :
    Evolved p [] (moveTo instant p).2 := by
  rw [moveTo_apply]
  refine ⟨⟨?_, ?_⟩, rfl, .still _⟩
  · intro task member
    rcases List.mem_append.mp member with early | due
    · exact tasks.ready task early
    · obtain ⟨timer, among, rfl⟩ := List.mem_map.mp due
      exact tasks.timers timer (List.mem_filter.mp among).1
  · intro timer member
    exact tasks.timers timer (List.mem_filter.mp member).1

variable [Quantity α]

theorem evolved_runJob (tasks : p.PlainTasks) (kind : JobKind) : Evolved p [] (runJob kind p).2 := by
  cases kind with
  | flushBuffers => exact evolved_drainBuffers tasks
  | refillLimiter => exact ⟨⟨tasks.ready, tasks.timers⟩, rfl, .still _⟩
  | evictDecisions => exact ⟨⟨tasks.ready, tasks.timers⟩, rfl, .still _⟩
  | cleanUp => exact .of_move tasks rfl rfl rfl (.cleanUp p.retention p.now p.backend)

theorem evolved_runTask (tasks : p.PlainTasks) {task : Task} (plain : task.IsPlain) :
    Evolved p (taskRecords task p) (runTask task p).2 := by
  cases task with
  | flush key logs => exact evolved_makeBatch tasks key logs
  | serve => exact evolved_serve tasks
  | resume id retry => exact evolved_deliver tasks id retry _
  | run job =>
      have again := evolved_setTimer tasks job.period (show Task.IsPlain (.run job) from trivial)
      exact again.trans (evolved_runJob again.tasks job.kind)
  | change c => exact .of_move tasks rfl rfl rfl (.change plain p.now p.backend)

theorem evolved_take {task : Task} {ready : List Task} (tasks : p.PlainTasks)
    (among : p.ready.Perm (task :: ready)) :
    Evolved p (taskRecords task { p with ready }) (runTask task { p with ready }).2 := by
  have plain : task.IsPlain := tasks.ready task (among.mem_iff.mpr List.mem_cons_self)
  have taken : Evolved p [] { p with ready } :=
    ⟨⟨fun other member => tasks.ready other (among.mem_iff.mpr (List.mem_cons_of_mem _ member)),
      tasks.timers⟩, rfl, .still _⟩
  exact taken.trans (evolved_runTask taken.tasks plain)

theorem evolved_runNext (tasks : p.PlainTasks) :
    ∃ records, Evolved p records (runNext p).2 := by
  cases next : p.ready with
  | nil =>
      rw [runNext_nil next]
      exact ⟨_, .refl tasks⟩
  | cons task ready =>
      rw [runNext_cons next]
      exact ⟨_, evolved_take tasks (.of_eq next)⟩

theorem keptByTime_evolved (p : Pipeline α) : KeptByTime fun q => ∃ records, Evolved p records q where
  runNext q reached := by
    obtain ⟨_, evolved⟩ := reached
    obtain ⟨_, next⟩ := evolved_runNext evolved.tasks
    exact ⟨_, evolved.trans next⟩
  moveTo q instant reached := by
    obtain ⟨_, evolved⟩ := reached
    exact ⟨_, evolved.trans (evolved_moveTo evolved.tasks instant)⟩

theorem evolved_passUntil (tasks : p.PlainTasks) (deadline : Nat) :
    ∃ records, Evolved p records (passUntil deadline p).2 :=
  (keptByTime_evolved p).passUntil ⟨_, .refl tasks⟩ deadline

end Pipeline

end LogPipeline
