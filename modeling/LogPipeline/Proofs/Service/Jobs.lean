import LogPipeline.Proofs.Pipeline.Frames
import LogPipeline.Proofs.Schedule
import LogPipeline.Proofs.Service.Use

/-!
# The jobs of a service follow a schedule

A job that runs sets the timer for its next run. So at any moment the runs that have been and those
that the ready jobs and the timers still lead to are the runs of a schedule: one to which the same
jobs are added when the service is started, and which is stopped when the service is.
-/

namespace LogPipeline

open Backend

/-! ## A job that waits for its next run -/

namespace Schedule.Registration

variable {name : String} {due period instant : Nat}

theorem runs_of_early (early : instant < due) : runs instant ⟨name, due, 0, period⟩ = [] := by
  simp only [runs, Nat.add_zero, if_pos early, List.range_zero, List.map_nil]

theorem runs_of_due (positive : 1 ≤ period) (reached : due ≤ instant) :
    runs instant ⟨name, due, 0, period⟩ =
      ⟨name, due⟩ :: runs instant ⟨name, due + period, 0, period⟩ := by
  have once := ScheduledJob.ticks_succ positive reached
  simp only [ScheduledJob.ticks] at once
  simp only [runs, Nat.add_zero, Nat.max_eq_left positive]
  rw [once, List.range_succ_eq_map, List.map_cons, List.map_map, Nat.zero_mul, Nat.add_zero]
  refine congrArg (_ :: ·) (List.map_congr_left fun k _ => ?_)
  rw [Function.comp_apply, Nat.succ_mul, Nat.add_right_comm, Nat.add_assoc]

theorem runs_self (positive : 1 ≤ period) : runs due ⟨name, due, 0, period⟩ = [⟨name, due⟩] := by
  rw [runs_of_due positive (Nat.le_refl due), runs_of_early (Nat.lt_add_of_pos_right positive)]

end Schedule.Registration

def CutShort (scheduled runs : List JobRun) : Prop :=
  ∃ missed, (runs ++ missed).Perm scheduled ∧
    ∀ run ∈ missed, ∀ other ∈ scheduled, other.instant ≤ run.instant

def Task.run? (instant : Nat) : Task → Option JobRun
  | .run job => some ⟨job.kind.name, instant⟩
  | _ => none

/-- A job with the instant of its next run, as if it were registered for it. -/
def Task.registration? (due : Nat) : Task → Option Schedule.Registration
  | .run job => some ⟨job.kind.name, due, 0, job.period⟩
  | _ => none

theorem Task.registration?_of_other {task : Task} (other : task.isJob = false) (due : Nat) :
    task.registration? due = none := by
  cases task with
  | run => cases other
  | _ => rfl

namespace Pipeline

variable {α : Type} {p q r : Pipeline α}

def dueRuns (p : Pipeline α) : List JobRun :=
  p.ready.filterMap (Task.run? p.clock)

def upcoming (p : Pipeline α) : List Schedule.Registration :=
  p.ready.filterMap (Task.registration? p.clock) ++
    p.timers.filterMap fun timer => timer.task.registration? timer.due

theorem flatMap_runs_ready {tasks : List Task} (own : ∀ task ∈ tasks, task.IsOwn) (clock : Nat) :
    (tasks.filterMap (Task.registration? clock)).flatMap (Schedule.Registration.runs clock) =
      tasks.filterMap (Task.run? clock) := by
  induction tasks with
  | nil => rfl
  | cons task rest ih =>
      obtain ⟨here, others⟩ := List.forall_mem_cons.mp own
      cases task with
      | run job =>
          have now : Schedule.Registration.runs clock ⟨job.kind.name, clock, 0, job.period⟩ =
              [⟨job.kind.name, clock⟩] :=
            Schedule.Registration.runs_self here
          simp only [List.filterMap_cons, Task.registration?, Task.run?, List.flatMap_cons, now,
            ih others]
          rfl
      | _ => exact ih others

theorem flatMap_runs_upcoming (own : ∀ task ∈ p.ready, task.IsOwn)
    (ahead : ∀ timer ∈ p.timers, p.clock < timer.due) :
    p.upcoming.flatMap (Schedule.Registration.runs p.clock) = p.dueRuns := by
  have later : (p.timers.filterMap fun timer => timer.task.registration? timer.due).flatMap
      (Schedule.Registration.runs p.clock) = [] := by
    refine List.flatMap_eq_nil_iff.mpr fun registration member => ?_
    obtain ⟨⟨due, task⟩, set, registered⟩ := List.mem_filterMap.mp member
    cases task with
    | run job =>
        cases registered
        exact Schedule.Registration.runs_of_early (ahead _ set)
    | _ => cases registered
  rw [upcoming, List.flatMap_append, later, List.append_nil, flatMap_runs_ready own]
  rfl

/-! ## What does not concern jobs -/

structure SameJobs (p q : Pipeline α) : Prop where
  clock : q.clock = p.clock
  upcoming : q.upcoming = p.upcoming
  later : ∀ timer ∈ q.timers, timer ∈ p.timers ∨ p.clock < timer.due

theorem SameJobs.of_same (clock : q.clock = p.clock) (ready : q.ready = p.ready)
    (timers : q.timers = p.timers) : SameJobs p q where
  clock
  upcoming := by rw [Pipeline.upcoming, Pipeline.upcoming, clock, ready, timers]
  later _ member := .inl (timers ▸ member)

theorem SameJobs.trans (one : SameJobs p q) (other : SameJobs q r) : SameJobs p r where
  clock := other.clock.trans one.clock
  upcoming := other.upcoming.trans one.upcoming
  later timer member := by
    rcases other.later timer member with before | later
    · exact one.later timer before
    · exact .inr (one.clock ▸ later)

theorem sameJobs_ready (p : Pipeline α) (pool : Pool) (announced : List BatchId) {more : List Task}
    (others : ∀ task ∈ more, task.isJob = false) :
    SameJobs p { p with announced, pool, ready := p.ready ++ more } where
  clock := rfl
  upcoming := by
    have none : more.filterMap (Task.registration? p.clock) = [] :=
      List.filterMap_eq_nil_iff.mpr fun task member =>
        Task.registration?_of_other (others task member) p.clock
    simp only [upcoming, List.filterMap_append, none, List.append_nil]
  later _ := .inl

theorem frame_sameJobs : Frame (SameJobs (α := α)) where
  refl _ := .of_same rfl rfl rfl
  trans := SameJobs.trans
  backend _ _ := .of_same rfl rfl rfl
  tasks p announced pool _ others := sameJobs_ready p pool announced others
  timer p due task other later :=
    { clock := rfl
      upcoming := by
        have none : [(⟨due, task⟩ : Timer)].filterMap
            (fun timer => timer.task.registration? timer.due) = [] :=
          List.filterMap_eq_nil_iff.mpr (List.forall_mem_singleton.mpr
            (Task.registration?_of_other other due))
        simp only [upcoming, List.filterMap_append, none, List.append_nil]
      later := forall_mem_append_singleton (fun _ => .inl) (.inr later) }

theorem sameJobs_drainBuffers (p : Pipeline α) : SameJobs p (drainBuffers p).2 :=
  frame_sameJobs.drainBuffers (fun _ => .of_same rfl rfl rfl) p

theorem SameJobs.buffered (same : SameJobs p q) {key : Key} {logs : List RawLog}
    (joined : Buffered key logs q r) : SameJobs p r := by
  obtain ⟨⟨buffers, ready, telemetry, rfl⟩, ⟨groups, more, -⟩, -⟩ := joined
  have readied : ready = q.ready ++ groups.map (.flush key) := more
  have others : ∀ task ∈ groups.map (Task.flush key), task.isJob = false :=
    List.forall_mem_map.mpr fun _ _ => rfl
  have flushes := sameJobs_ready q q.pool q.announced others
  rw [readied]
  exact same.trans (flushes.trans (.of_same rfl rfl rfl))

theorem sameJobs_submit [Quantity α] (s : Submission) (p : Pipeline α) :
    SameJobs p (Admission.submit s p).2 := by
  rcases frame_sameJobs.submit s p (fun _ _ _ => .of_same rfl rfl rfl) with
    ⟨_, same, -, joined⟩ | ⟨-, same⟩
  · exact same.buffered joined
  · exact same

/-! ## What has run and what is still to run -/

/-- What has run and what is still to run until an instant is what the registered jobs run. -/
structure OnSchedule (jobs : List Schedule.Registration) (runs : List JobRun) (p : Pipeline α) :
    Prop where
  ahead : ∀ timer ∈ p.timers, p.clock < timer.due
  whole : ∀ instant, p.clock ≤ instant →
    (runs ++ p.upcoming.flatMap (Schedule.Registration.runs instant)).Perm
      (jobs.flatMap (Schedule.Registration.runs instant))
  sorted : runs.Pairwise fun a b => a.instant ≤ b.instant
  past : ∀ run ∈ runs, run.instant ≤ p.clock

variable {jobs : List Schedule.Registration} {runs : List JobRun}

theorem OnSchedule.rearrange (onSchedule : OnSchedule jobs runs p) (onward : p.clock ≤ q.clock)
    (upcoming : q.upcoming.Perm p.upcoming) (ahead : ∀ timer ∈ q.timers, q.clock < timer.due) :
    OnSchedule jobs runs q where
  ahead
  whole instant later :=
    ((upcoming.flatMap_right _).append_left runs).trans
      (onSchedule.whole instant (Nat.le_trans onward later))
  sorted := onSchedule.sorted
  past run member := Nat.le_trans (onSchedule.past run member) onward

theorem OnSchedule.same (onSchedule : OnSchedule jobs runs p) (same : SameJobs p q) :
    OnSchedule jobs runs q := by
  refine onSchedule.rearrange (Nat.le_of_eq same.clock.symm) (.of_eq same.upcoming) ?_
  intro timer member
  rw [same.clock]
  rcases same.later timer member with before | later
  · exact onSchedule.ahead timer before
  · exact later

theorem upcoming_setTimer (delay : Nat) (job : Job) (p : Pipeline α) :
    (setTimer delay (.run job) p).2.upcoming.Perm
      (⟨job.kind.name, p.clock + delay, 0, job.period⟩ :: p.upcoming) := by
  rw [setTimer_apply]
  split
  · rename_i now
    simp only [upcoming, List.filterMap_append, List.filterMap_cons, List.filterMap_nil,
      Task.registration?, now, Nat.add_zero, List.append_assoc]
    exact List.perm_middle
  · simp only [upcoming, List.filterMap_append, List.filterMap_cons, List.filterMap_nil,
      Task.registration?, ← List.append_assoc]
    exact List.perm_append_singleton _ _

theorem ahead_setTimer (ahead : ∀ timer ∈ p.timers, p.clock < timer.due) (delay : Nat)
    (task : Task) : ∀ timer ∈ (setTimer delay task p).2.timers,
      (setTimer delay task p).2.clock < timer.due := by
  rw [setTimer_apply]
  split
  · exact ahead
  · rename_i later
    exact forall_mem_append_singleton ahead (Nat.lt_add_of_pos_right (Nat.pos_of_ne_zero later))

theorem clock_setTimer (delay : Nat) (task : Task) (p : Pipeline α) :
    (setTimer delay task p).2.clock = p.clock := by
  rw [setTimer_apply]
  split <;> rfl

theorem OnSchedule.setTimer (onSchedule : OnSchedule jobs runs p) (delay : Nat) (job : Job) :
    OnSchedule (jobs ++ [⟨job.kind.name, p.clock, delay, job.period⟩]) runs
      (setTimer delay (.run job) p).2 where
  ahead := ahead_setTimer onSchedule.ahead delay _
  whole instant later := by
    rw [clock_setTimer] at later
    have whole := onSchedule.whole instant later
    have added := (upcoming_setTimer delay job p).flatMap_right (Schedule.Registration.runs instant)
    rw [List.flatMap_append, List.flatMap_singleton]
    refine (added.append_left runs).trans ?_
    rw [List.flatMap_cons]
    refine .trans ?_ (whole.append_right _)
    rw [List.append_assoc]
    exact List.perm_append_comm.append_left runs
  sorted := onSchedule.sorted
  past := by
    rw [clock_setTimer]
    exact onSchedule.past

theorem OnSchedule.runJob (onSchedule : OnSchedule jobs runs p) {job : Job} {rest : List Task}
    (among : p.ready.Perm (.run job :: rest)) (period : 1 ≤ job.period) :
    OnSchedule jobs (runs ++ [⟨job.kind.name, p.clock⟩])
      (Pipeline.setTimer job.period (.run job) { p with ready := rest }).2 where
  ahead := ahead_setTimer (p := { p with ready := rest }) onSchedule.ahead job.period _
  whole instant later := by
    rw [clock_setTimer] at later
    have again := (upcoming_setTimer job.period job { p with ready := rest }).flatMap_right
      (Schedule.Registration.runs instant)
    have taken : p.upcoming.Perm (⟨job.kind.name, p.clock, 0, job.period⟩ ::
        ({ p with ready := rest } : Pipeline α).upcoming) :=
      (among.filterMap (Task.registration? p.clock)).append_right _
    refine .trans ?_ (onSchedule.whole instant later)
    refine .trans ?_ ((taken.flatMap_right _).append_left runs).symm
    rw [List.flatMap_cons, Schedule.Registration.runs_of_due period later, List.append_assoc]
    exact (again.cons _).append_left runs
  sorted := by
    rw [List.pairwise_append]
    refine ⟨onSchedule.sorted, List.pairwise_singleton _ _, fun run member other among => ?_⟩
    rw [List.mem_singleton.mp among]
    exact onSchedule.past run member
  past := by
    rw [clock_setTimer]
    exact forall_mem_append_singleton onSchedule.past (Nat.le_refl _)

theorem upcoming_moveTo {instant : Nat} (rests : RestsUntil p instant) :
    (moveTo instant p).2.upcoming.Perm p.upcoming := by
  have now : (p.timers.filter fun timer => timer.due ≤ instant).filterMap
        (fun timer => timer.task.registration? instant) =
      (p.timers.filter fun timer => timer.due ≤ instant).filterMap
        fun timer => timer.task.registration? timer.due := by
    refine List.filterMap_congr fun timer member => ?_
    obtain ⟨set, reached⟩ := List.mem_filter.mp member
    rw [Nat.le_antisymm (of_decide_eq_true reached) (rests.first timer set)]
  have split := (List.filter_append_perm (fun timer : Timer => timer.due ≤ instant)
    p.timers).filterMap fun timer => timer.task.registration? timer.due
  rw [moveTo_apply]
  simp only [upcoming, rests.done, List.nil_append, List.filterMap_map, List.filterMap_nil]
  rw [List.filterMap_append] at split
  exact (List.Perm.of_eq (congrArg (· ++ _) now)).trans split

theorem OnSchedule.moveTo (onSchedule : OnSchedule jobs runs p) {instant : Nat}
    (rests : RestsUntil p instant) : OnSchedule jobs runs (moveTo instant p).2 := by
  refine onSchedule.rearrange rests.onward (upcoming_moveTo rests) fun timer member => ?_
  rw [moveTo_apply] at member
  show instant < timer.due
  simpa using (List.mem_filter.mp member).2

theorem OnSchedule.take (onSchedule : OnSchedule jobs runs p) {task : Task} {rest : List Task}
    (among : p.ready.Perm (task :: rest)) (other : task.isJob = false) :
    OnSchedule jobs runs { p with ready := rest } := by
  have same := among.filterMap (Task.registration? p.clock)
  rw [List.filterMap_cons, Task.registration?_of_other other] at same
  exact onSchedule.rearrange (Nat.le_refl _) (same.symm.append_right _) onSchedule.ahead

structure Scheduled (jobs : List Schedule.Registration) (runs : List JobRun) (p : Pipeline α) :
    Prop extends Runs p, OnSchedule jobs runs p

theorem Scheduled.perm (scheduled : Scheduled jobs runs p) :
    (runs ++ p.dueRuns).Perm (jobs.flatMap (Schedule.Registration.runs p.clock)) := by
  rw [← flatMap_runs_upcoming scheduled.orderly.ready scheduled.ahead]
  exact scheduled.whole p.clock (Nat.le_refl _)

theorem instant_of_mem_dueRuns : ∀ run ∈ p.dueRuns, run.instant = p.clock := by
  intro run due
  obtain ⟨task, _, runs⟩ := List.mem_filterMap.mp due
  cases task with
  | run job => cases runs; rfl
  | _ => cases runs

theorem Scheduled.cutShort (scheduled : Scheduled jobs runs p) {all : List JobRun}
    (registered : all.Perm (jobs.flatMap (Schedule.Registration.runs p.clock))) :
    CutShort all runs := by
  have whole := scheduled.perm.trans registered.symm
  refine ⟨p.dueRuns, whole, fun run missed other member => ?_⟩
  rw [instant_of_mem_dueRuns run missed]
  rcases List.mem_append.mp (whole.mem_iff.mpr member) with done | due
  · exact scheduled.past other done
  · exact Nat.le_of_eq (instant_of_mem_dueRuns other due)

def runOf (turn : Task × Pipeline α) : List JobRun :=
  (turn.1.run? turn.2.clock).toList

theorem flatMap_runOf_of_others {turns : List (Task × Pipeline α)}
    (others : ∀ turn ∈ turns, turn.1.isJob = false) : turns.flatMap runOf = [] := by
  refine List.flatMap_eq_nil_iff.mpr fun turn member => ?_
  obtain ⟨task, q⟩ := turn
  cases task with
  | run => cases others _ member
  | _ => rfl

variable [Quantity α]

theorem OnSchedule.runTask (onSchedule : OnSchedule jobs runs p)
    (own : ∀ task ∈ p.ready, task.IsOwn) {task : Task} {rest : List Task}
    (among : p.ready.Perm (task :: rest)) :
    OnSchedule jobs (runs ++ runOf (task, p)) (runTask task { p with ready := rest }).2 := by
  have frame := frame_sameJobs (α := α)
  cases task with
  | run job =>
      have member : Task.run job ∈ p.ready := among.mem_iff.mpr List.mem_cons_self
      refine (onSchedule.runJob among (own _ member)).same ?_
      obtain ⟨kind, period⟩ := job
      cases kind with
      | flushBuffers => exact sameJobs_drainBuffers _
      | refillLimiter | evictDecisions | cleanUp => exact .of_same rfl rfl rfl
  | flush key logs =>
      exact (List.append_nil runs).symm ▸
        (onSchedule.take among rfl).same (frame.makeBatch key logs _)
  | serve =>
      exact (List.append_nil runs).symm ▸ (onSchedule.take among rfl).same (frame.serve _)
  | resume id retry =>
      exact (List.append_nil runs).symm ▸
        (onSchedule.take among rfl).same (frame.deliver id retry _ _)
  | change c =>
      exact (List.append_nil runs).symm ▸ (onSchedule.take among rfl).same (.of_same rfl rfl rfl)

omit [Quantity α] in
theorem Scheduled.drainBuffers (scheduled : Scheduled jobs runs p) :
    Scheduled jobs runs (drainBuffers p).2 := by
  have drained := (proceeds_drainBuffers scheduled.orderly scheduled.running).1
  exact ⟨⟨drained.orderly, drained.shutDown.trans scheduled.running⟩,
    scheduled.toOnSchedule.same (sameJobs_drainBuffers p)⟩

theorem keptByUse_scheduled (jobs : List Schedule.Registration) (since : Nat) :
    KeptByUse (α := α) True runOf fun runs p => Scheduled jobs runs p ∧ since ≤ p.clock where
  orderly _ _ _ now := now.1.orderly
  ahead _ _ _ now := now.1.ahead
  runTask _ p task rest among now := by
    have done := (proceeds_runTask now.1.orderly among).1
    refine ⟨⟨now.1.toRuns.runTask among,
      now.1.toOnSchedule.runTask now.1.orderly.ready among⟩, ?_⟩
    rw [done.setting.2.2.1]
    exact now.2
  moveTo _ p instant rests now :=
    ⟨⟨⟨now.1.orderly.moveTo instant, now.1.running⟩, now.1.toOnSchedule.moveTo (rests trivial)⟩,
      Nat.le_trans now.2 (rests trivial).onward⟩
  plain _ _ now := now.1.orderly.plain
  drainBuffers _ p now := by
    refine ⟨now.1.drainBuffers, ?_⟩
    rw [(sameJobs_drainBuffers p).clock]
    exact now.2
  aside _ _ _ gateway plain ids now :=
    ⟨⟨now.1.toRuns.aside gateway plain ids, now.1.toOnSchedule.same (.of_same rfl rfl rfl)⟩, now.2⟩

theorem Scheduled.flushAll (scheduled : Scheduled jobs runs p) :
    Scheduled jobs (runs ++ (flushAllTurns p).flatMap runOf) (flushAll p).2 ∧
      (flushAll p).2.clock = p.clock := by
  have kept := keptByUse_scheduled (α := α) jobs p.clock
  have drained := kept.drainBuffers runs p ⟨scheduled, Nat.le_refl _⟩
  exact ⟨(kept.toKeptByTurns.flushAll drained).1,
    (proceeds_flushAll scheduled.orderly scheduled.running).1.setting.2.2.1⟩

structure Closed (p : Pipeline α) : Prop where
  plain : p.backend.Plain
  ready : p.ready = []
  timers : p.timers = []
  empty : Drained p

theorem keptByUse_closed (runs : List JobRun) :
    KeptByUse (α := α) False runOf fun written p => written = runs ∧ Closed p where
  orderly := False.elim
  ahead := False.elim
  runTask _ _ _ _ among now := by
    rw [now.2.ready] at among
    cases among.length_eq
  moveTo _ p instant _ now := by
    obtain ⟨same, plain, ready, timers, empty⟩ := now
    rw [moveTo_of_untimed timers]
    exact ⟨same, plain, ready, timers, empty⟩
  plain _ _ now := now.2.plain
  drainBuffers _ _ now := now.2.empty.drainBuffers.symm ▸ now
  aside _ _ _ _ plain _ now := ⟨now.1, plain, now.2.ready, now.2.timers, now.2.empty⟩

omit [Quantity α] in
theorem Scheduled.setTimers (scheduled : Scheduled jobs runs p) {entries : List (Nat × Job)}
    (periods : ∀ entry ∈ entries, 1 ≤ entry.2.period) :
    let started := (entries.forM (fun (delay, job) => Pipeline.setTimer delay (.run job)) p).2
    started.clock = p.clock ∧ Scheduled
      (jobs ++ entries.map fun entry => ⟨entry.2.kind.name, p.clock, entry.1, entry.2.period⟩) runs
      started := by
  induction entries generalizing jobs p with
  | nil => exact ⟨rfl, (List.append_nil jobs).symm ▸ scheduled⟩
  | cons entry rest ih =>
      obtain ⟨period, others⟩ := List.forall_mem_cons.mp periods
      have first : Scheduled (jobs ++ [⟨entry.2.kind.name, p.clock, entry.1, entry.2.period⟩]) runs
          (Pipeline.setTimer entry.1 (.run entry.2) p).2 :=
        ⟨scheduled.toRuns.setTimer period entry.1,
          scheduled.toOnSchedule.setTimer entry.1 entry.2⟩
      obtain ⟨clock, later⟩ := ih first others
      rw [clock_setTimer] at clock later
      rw [List.append_assoc] at later
      exact ⟨clock, later⟩

end Pipeline

/-! ## Whatever happens to a service -/

namespace Service

open Pipeline Schedule

variable {α : Type} [Quantity α] {s : Service α}

def jobRuns (s : Service α) (happening : Happening α) : List JobRun :=
  (s.happenTurns happening).flatMap runOf

def jobRunsOf (s : Service α) : List (Happening α) → List JobRun
  | [] => []
  | happening :: rest => s.jobRuns happening ++ jobRunsOf (s.happen happening) rest

/-- What is done meanwhile with a schedule. It gets the jobs when the service is started, the same
time passes, and it is stopped when the service is. -/
def occasions (s : Service α) : Happening α → List Occasion
  | .occurrence (.event .start) =>
    if s.state = .initialized then
      s.config.jobs.map fun entry => .every entry.2.kind.name entry.1 entry.2.period 0
    else []
  | .occurrence (.event .stop) => if s.isRunning then [.advance 0, .stop] else []
  | happening => [.advance ((s.happen happening).pipeline.clock - s.pipeline.clock)]

def occasionsOf (s : Service α) : List (Happening α) → List Occasion
  | [] => []
  | happening :: rest => s.occasions happening ++ occasionsOf (s.happen happening) rest

/-- Jobs run as a schedule says, in the order of time. What is due may not have run yet, and what
was due when the service was stopped may never run. -/
structure FollowsSchedule (scheduled runs : List JobRun) (s : Service α) : Prop where
  sorted : runs.Pairwise fun a b => a.instant ≤ b.instant
  active : s.state ≠ .stopped → (runs ++ s.pipeline.dueRuns).Perm scheduled
  stopped : s.state = .stopped → CutShort scheduled runs

inductive Following (occasions : List Occasion) (runs : List JobRun) (s : Service α) : Prop where
  | active (state : s.state ≠ .stopped) (brief : ∀ o ∈ occasions, o.IsBrief)
      (clock : elapsed occasions = s.pipeline.clock)
      (scheduled : Scheduled (registrations 0 occasions) runs s.pipeline)
  | stopped (state : s.state = .stopped) (closed : Closed s.pipeline)
      (still : (empty.undergoAll occasions).2.stopped = true)
      (sorted : runs.Pairwise fun a b => a.instant ≤ b.instant)
      (cut : CutShort (empty.undergoAll occasions).1 runs)

variable {before : List Occasion} {runs more : List JobRun} {happening : Happening α}

omit [Quantity α] in
theorem following_of_scheduled {t : Service α} (brief : ∀ o ∈ before, o.IsBrief)
    (clock : elapsed before = s.pipeline.clock) (state : t.state ≠ .stopped)
    (later : Scheduled (registrations 0 before) more t.pipeline ∧
      s.pipeline.clock ≤ t.pipeline.clock) :
    Following (before ++ [.advance (t.pipeline.clock - s.pipeline.clock)]) more t := by
  refine .active state (forall_mem_append_singleton brief trivial) ?_ ?_
  · rw [elapsed_append, clock]
    exact Nat.add_sub_cancel' later.2
  · rw [registrations_append]
    exact (List.append_nil (registrations 0 before)).symm ▸ later.1

omit [Quantity α] in
theorem following_of_closed {t : Service α} (state : t.state = .stopped)
    (closed : Closed t.pipeline) (still : (empty.undergoAll before).2.stopped = true)
    (sorted : runs.Pairwise fun a b => a.instant ≤ b.instant)
    (cut : CutShort (empty.undergoAll before).1 runs) (later : List Occasion) :
    Following (before ++ later) runs t := by
  refine .stopped state closed ?_ sorted ?_
  · rw [undergoAll_append]
    exact stopped_undergoAll still later
  · rw [undergoAll_append, undergoAll_of_stopped still, List.append_nil]
    exact cut

theorem Following.use (following : Following before runs s) (plain : happening.IsPlain)
    (use : happening.IsUse) :
    Following (before ++ s.occasions happening) (runs ++ s.jobRuns happening)
      (s.happen happening) := by
  obtain ⟨-, same⟩ := happen_use (s := s) use
  have passes : s.occasions happening =
      [.advance ((s.happen happening).pipeline.clock - s.pipeline.clock)] := by
    cases happening with
    | occurrence occurrence =>
        cases occurrence with
        | event event =>
            cases event with
            | start | stop | receive => exact use.elim
            | change | advance | turn => rfl
        | cleanUp => rfl
    | waitIdle | flushAll | process | asked => rfl
  rw [passes, jobRuns]
  cases following with
  | active state brief clock scheduled =>
      exact following_of_scheduled brief clock (same ▸ state)
        ((keptByUse_scheduled _ s.pipeline.clock).happen runs ⟨scheduled, Nat.le_refl _⟩ plain use)
  | stopped state closed still sorted cut =>
      obtain ⟨none, closed⟩ := (keptByUse_closed runs).happen runs ⟨rfl, closed⟩ plain use
      rw [none]
      exact following_of_closed (same.trans state) closed still sorted cut _

theorem Following.receive (following : Following before runs s) (submission : Submission) :
    Following (before ++ s.occasions (.occurrence (.event (.receive submission)))) runs
      (s.react (.receive submission)) := by
  cases following with
  | active state brief clock scheduled =>
      have taken : (s.react (.receive submission)).state ≠ .stopped ∧
          Scheduled (registrations 0 before) runs (s.react (.receive submission)).pipeline ∧
            s.pipeline.clock ≤ (s.react (.receive submission)).pipeline.clock := by
        by_cases running : s.state = .running
        · have same := sameJobs_submit submission s.pipeline
          rw [Service.react, receive_of_running running]
          exact ⟨state, ⟨scheduled.toRuns.submit submission, scheduled.toOnSchedule.same same⟩,
            Nat.le_of_eq same.clock.symm⟩
        · rw [Service.react, receive_of_idle running]
          exact ⟨state, scheduled, Nat.le_refl _⟩
      exact following_of_scheduled brief clock taken.1 taken.2
  | stopped state closed still sorted cut =>
      rw [Service.react, (refuses_of_stopped state).receive submission]
      exact following_of_closed state closed still sorted cut _

omit [Quantity α] in
theorem registrations_jobs (clock : Nat) (entries : List (Nat × Job)) :
    let occasions : List Occasion :=
      entries.map fun entry => .every entry.2.kind.name entry.1 entry.2.period 0
    registrations clock occasions =
        entries.map (fun entry => ⟨entry.2.kind.name, clock, entry.1, entry.2.period⟩) ∧
      elapsed occasions = 0 := by
  induction entries with
  | nil => exact ⟨rfl, rfl⟩
  | cons entry rest ih => exact ⟨congrArg (_ :: ·) ih.1, ih.2⟩

theorem Following.start (following : Following before runs s) :
    Following (before ++ s.occasions (.occurrence (.event .start))) runs (s.react .start) := by
  rw [occasions]
  cases following with
  | active state brief clock scheduled =>
      cases begun : s.state with
      | initialized =>
          obtain ⟨added, brought⟩ := registrations_jobs s.pipeline.clock s.config.jobs
          obtain ⟨same, set⟩ := scheduled.setTimers (period_of_mem_jobs s.config)
          rw [if_pos rfl, Service.react, start_of_initialized begun]
          refine .active (fun ended => by cases ended) ?_ ?_ ?_
          · refine List.forall_mem_append.mpr ⟨brief, List.forall_mem_map.mpr fun _ _ => rfl⟩
          · rw [elapsed_append, brought, clock]
            exact same.symm
          · rw [registrations_append, clock, Nat.zero_add, added]
            exact set
      | running =>
          have same : s.react .start = s := by
            obtain ⟨config, state, pipeline⟩ := s
            cases begun
            rfl
          rw [if_neg (by decide), List.append_nil, same]
          exact .active state brief clock scheduled
      | stopped => exact absurd begun state
  | stopped state closed still sorted cut =>
      obtain ⟨_, same⟩ := (refuses_of_stopped state).start
      rw [Service.react, same]
      exact following_of_closed state closed still sorted cut _

omit [Quantity α] in
theorem undergoAll_advance_perm (brief : ∀ o ∈ before, o.IsBrief) {clock : Nat}
    (now : elapsed before = clock) :
    (empty.undergoAll (before ++ [.advance 0])).1.Perm
      ((registrations 0 before).flatMap (Registration.runs clock)) :=
  sound_empty.undergoAll_perm rfl brief ((Nat.zero_add _).trans now)

theorem closed_stop (running : s.state = .running) (runs : Runs s.pipeline) :
    Closed (s.react .stop).pipeline := by
  obtain ⟨-, -, drains⟩ := drains_of_running running runs
  refine ⟨drains.course.plain runs.orderly.plain, drains.ready, drains.timers, fun key => ?_⟩
  have most := Buffers.length_le_count (stop s).2.pipeline.buffers key
  rw [drains.buffered] at most
  exact List.length_eq_zero_iff.mp (Nat.le_zero.mp most)

theorem Following.stop (following : Following before runs s) :
    Following (before ++ s.occasions (.occurrence (.event .stop)))
      (runs ++ s.jobRuns (.occurrence (.event .stop))) (s.react .stop) := by
  by_cases running : s.state = .running
  · cases following with
    | stopped state =>
        rw [running] at state
        cases state
    | active _ brief clock scheduled =>
        have begun : s.isRunning = true := decide_eq_true running
        obtain ⟨rest, split, others⟩ := stopTurns_split scheduled.orderly scheduled.running
        have ran : s.jobRuns (.occurrence (.event .stop)) =
            (flushAllTurns s.pipeline).flatMap runOf := by
          rw [jobRuns, happenTurns, turns, if_pos begun, split, List.flatMap_append,
            flatMap_runOf_of_others others, List.append_nil]
        -- Jobs run while the buffers are emptied first. What is due then never runs.
        obtain ⟨flushed, same⟩ := scheduled.flushAll
        have cut := flushed.cutShort (undergoAll_advance_perm brief (clock.trans same.symm))
        rw [ran, occasions, if_pos begun, List.append_cons]
        refine .stopped (drains_of_running running scheduled.toRuns).2.1
          (closed_stop running scheduled.toRuns) ?_ flushed.sorted ?_ <;> rw [undergoAll_append]
        · exact stopped_stop _
        · exact (List.append_nil _).symm ▸ cut
  · have idle : s.isRunning = false := decide_eq_false running
    have ran : s.jobRuns (.occurrence (.event .stop)) = [] := by
      rw [jobRuns, happenTurns, turns, idle]
      rfl
    rw [ran, occasions, idle, List.append_nil, Service.react, stop_of_idle running]
    exact (List.append_nil before).symm ▸ following

theorem Following.happen (following : Following before runs s) (plain : happening.IsPlain) :
    Following (before ++ s.occasions happening) (runs ++ s.jobRuns happening)
      (s.happen happening) := by
  have nothing := List.append_nil runs
  cases happening with
  | occurrence occurrence =>
      cases occurrence with
      | event event =>
          cases event with
          | start => exact nothing.symm ▸ following.start
          | stop => exact following.stop
          | receive submission => exact nothing.symm ▸ following.receive submission
          | change | advance | turn => exact following.use plain trivial
      | cleanUp => exact following.use plain trivial
  | waitIdle | flushAll | process | asked => exact following.use plain trivial

theorem Following.afterAll (following : Following before runs s)
    {happenings : List (Happening α)} (plain : ∀ happening ∈ happenings, happening.IsPlain) :
    Following (before ++ s.occasionsOf happenings) (runs ++ s.jobRunsOf happenings)
      (s.afterAll happenings) := by
  induction happenings generalizing before runs s with
  | nil =>
      rw [occasionsOf, jobRunsOf, List.append_nil, List.append_nil]
      exact following
  | cons happening rest ih =>
      obtain ⟨first, others⟩ := List.forall_mem_cons.mp plain
      have later := ih (following.happen first) others
      rw [List.append_assoc, List.append_assoc] at later
      exact later

omit [Quantity α] in
theorem Following.followsSchedule (following : Following before runs s) :
    FollowsSchedule (empty.undergoAll (before ++ [.advance 0])).1 runs s := by
  cases following with
  | active state brief clock scheduled =>
      exact ⟨scheduled.sorted,
        fun _ => scheduled.perm.trans (undergoAll_advance_perm brief clock).symm,
        fun stopped => absurd stopped state⟩
  | stopped state closed still sorted cut =>
      rw [undergoAll_append, undergoAll_of_stopped still, List.append_nil]
      exact ⟨sorted, fun active => absurd state active, fun _ => cut⟩

/-- Whatever happens to a service, its jobs run as those of a schedule do to which they are added
when it is started, and which is stopped when it is. -/
theorem jobs_follow_schedule {c : PipelineConfig} {processors : Nat} {backend : Backend}
    {epoch : Int} {fresh : Service α} (built : build c processors backend epoch = .ok fresh)
    (plain : backend.Plain) (happenings : List (Happening α))
    (spared : ∀ happening ∈ happenings, happening.IsPlain) :
    FollowsSchedule (empty.undergoAll (fresh.occasionsOf happenings ++ [.advance 0])).1
      (fresh.jobRunsOf happenings) (fresh.afterAll happenings) := by
  have start : Following [] [] fresh := by
    have runs := runs_of_build built plain
    rw [eq_of_build built] at runs ⊢
    exact .active (fun ended => by cases ended) (List.forall_mem_nil _) rfl
      ⟨runs, List.forall_mem_nil _, fun _ _ => .refl _, .nil, List.forall_mem_nil _⟩
  exact (start.afterAll spared).followsSchedule

/-- Of two jobs that are due when the service is stopped one never runs. -/
example :
    let c : PipelineConfig :=
      { PipelineConfig.defaults with
        flushIntervalMs := 40, refillIntervalMs := 50, cleanupEnabled := false }
    let known := opened ⟨"", 1⟩ .defaults .empty .empty
    let happenings : List (Happening Rat) :=
      [.start, .advance 200, .turn 0, .stop].map fun event => .occurrence (.event event)
    let fresh : Service Rat := ⟨c, .initialized, c.pipeline 1 known 0⟩
    let missed : JobRun := ⟨"buffer_flush", 200⟩
    (fresh.jobRunsOf happenings ++ [missed]).Perm
      (empty.undergoAll (fresh.occasionsOf happenings)).1 := by
  decide +kernel

end Service

end LogPipeline
