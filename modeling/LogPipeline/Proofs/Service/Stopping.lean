import LogPipeline.Proofs.Pipeline.Draining
import LogPipeline.Proofs.Service.Lifetime

/-!
# What a stop does

A stop empties the buffers, ends the jobs, makes all attempts that are owed, cuts short all waits,
and makes the first attempts that have been held up by them. Each of these leaves less to be done
for the next one, and at last there is nothing.
-/

namespace LogPipeline

open Backend

namespace Pipeline

variable {α : Type} {p q r : Pipeline α} {first rest : List Deed}

/-! ## The end of the jobs -/

theorem resuming_endJobs (p : Pipeline α) : (Service.endJobs p).2.resuming = p.resuming := by
  change (p.ready.filter fun task => ! task.isJob).filterMap Task.resumed? = _
  rw [List.filterMap_filter, resuming]
  congr 1
  funext task
  cases task <;> rfl

theorem pausing_endJobs (p : Pipeline α) : (Service.endJobs p).2.pausing = p.pausing := by
  change (p.timers.filter fun timer => ! timer.task.isJob).filterMap _ = _
  rw [List.filterMap_filter, pausing]
  congr 1
  funext timer
  cases timer.task <;> rfl

theorem isJob_of_mem_endJobs {task : Task} (member : task ∈ (Service.endJobs p).2.ready) :
    task.isJob = false := by
  simpa using (List.mem_filter.mp member).2

theorem Orderly.endJobs (orderly : Orderly p) : Orderly (Service.endJobs p).2 := by
  have own : ∀ task ∈ (Service.endJobs p).2.ready, task ∈ p.ready :=
    fun task member => (List.mem_filter.mp member).1
  exact
    { plain := orderly.plain
      handler := orderly.handler
      interval := orderly.interval
      seats := orderly.seats
      ready := fun task member => orderly.ready task (own task member)
      timers := fun timer member => orderly.timers timer (List.mem_filter.mp member).1
      seated := by
        rw [resuming_endJobs, pausing_endJobs]
        exact orderly.seated
      served := by
        have serves : (p.ready.filter fun task => ! task.isJob).countP Task.isServe =
            p.ready.countP Task.isServe := by
          rw [List.countP_filter]
          congr 1
          funext task
          cases task <;> rfl
        exact serves ▸ orderly.served
      distinct := orderly.distinct
      known := orderly.known
      closed := fun down => by
        obtain ⟨none, still⟩ := orderly.closed down
        refine ⟨?_, fun task member => still task (own task member)⟩
        change p.timers.filter _ = []
        rw [none]
        rfl }

/-! ## The end of the waits -/

theorem Orderly.perm (orderly : Orderly p) {ready : List Task} (same : ready.Perm p.ready) :
    Orderly { p with ready } := by
  refine orderly.rearrange (fun task member => orderly.ready task (same.mem_iff.mp member))
    (same.filterMap Task.resumed?) ?_ fun down task member =>
      (orderly.closed down).2 task (same.mem_iff.mp member)
  rw [same.countP_eq]
  exact orderly.served

def leaveAll (waits : List (BatchId × Nat)) (p : Pipeline α) : Pipeline α :=
  waits.foldl (fun p wait => p.seatLeft wait.1) p

theorem leaveAll_only (waits : List (BatchId × Nat)) (p : Pipeline α) :
    ∃ seated serves, leaveAll waits p = { p with
        pool := { p.pool with seated }, ready := p.ready ++ serves } ∧
      (∀ task ∈ serves, task = .serve) ∧ (p.pool.waiting = [] → serves = []) := by
  induction waits generalizing p with
  | nil => exact ⟨p.pool.seated, [], by simp [leaveAll], List.forall_mem_nil _, fun _ => rfl⟩
  | cons wait rest ih =>
      obtain ⟨seated, serves, left, only, none⟩ := ih (p.seatLeft wait.1)
      have step : leaveAll (wait :: rest) p = leaveAll rest (p.seatLeft wait.1) := rfl
      rw [step, left, seatLeft]
      cases waits : p.pool.waiting with
      | nil => exact ⟨seated, serves, rfl, only, fun _ => none waits⟩
      | cons id others =>
          refine ⟨seated, .serve :: serves, ?_, List.forall_mem_cons.mpr ⟨rfl, only⟩,
            fun nobody => by cases nobody⟩
          simp

theorem Orderly.leaveAll {waits : List (BatchId × Nat)}
    (orderly : Orderly { p with ready := p.ready ++ waits.map fun wait => .resume wait.1 wait.2 }) :
    Orderly (p.leaveAll waits) := by
  -- The waits count as if they were over until their seats are left, one after another.
  induction waits generalizing p with
  | nil => exact orderly.perm (.of_eq (List.append_nil _).symm)
  | cons wait rest ih =>
      have left := orderly.seatLeft (p.ready ++ rest.map fun wait => .resume wait.1 wait.2)
        List.perm_middle orderly.plain rfl
      refine ih (left.perm ?_)
      simp only [Pipeline.seatLeft]
      split
      · exact .refl _
      · simp only [List.append_assoc]
        exact List.perm_append_comm.append_left _

theorem forM_leaveSeat {leave : Timer → Step α Unit}
    (leaves : ∀ due id retry, leave ⟨due, .resume id retry⟩ = leaveSeat id) {waits : List Timer}
    (resumes : ∀ wait ∈ waits, wait.task.isResume = true) (p : Pipeline α) :
    (waits.forM leave p).2 = leaveAll (waits.filterMap fun wait => wait.task.resumed?) p := by
  induction waits generalizing p with
  | nil => rfl
  | cons wait rest ih =>
      obtain ⟨first, others⟩ := List.forall_mem_cons.mp resumes
      obtain ⟨due, task⟩ := wait
      cases task with
      | resume id retry =>
          change ((leave _ >>= fun _ => rest.forM leave) p).2 = _
          rw [bind_apply, leaves, leaveSeat_apply]
          exact ih others (p.seatLeft id)
      | _ => cases first

theorem interruptWaits_apply (p : Pipeline α) :
    (interruptWaits p).2 = leaveAll p.pausing { p with
      timers := p.timers.filter fun timer => ! timer.task.isResume
      pool := { p.pool with shutDown := true } } := by
  have resumed : (p.timers.filter fun timer => timer.task.isResume).filterMap
      (fun timer => timer.task.resumed?) = p.pausing := by
    rw [List.filterMap_filter, pausing]
    congr 1
    funext timer
    cases timer.task <;> rfl
  have split : (p.timers.partition fun timer => timer.task.isResume) =
      (p.timers.filter fun timer => timer.task.isResume,
        p.timers.filter fun timer => ! timer.task.isResume) := by
    rw [List.partition_eq_filter_filter]
    rfl
  rw [← resumed]
  simp only [interruptWaits, get_bind_apply, split]
  refine forM_leaveSeat ?_ (fun wait member => ?_) _
  · exact fun _ _ _ => rfl
  · simpa using (List.mem_filter.mp member).2

theorem Orderly.interruptWaits (orderly : Orderly p) (done : p.ready = [])
    (waits : ∀ timer ∈ p.timers, timer.task.isResume = true) :
    ∃ serves, (∀ task ∈ serves, task = .serve) ∧ (p.pool.waiting = [] → serves = []) ∧
      (Pipeline.interruptWaits p).2 = { p with
        ready := serves
        timers := []
        pool := { p.pool with seated := [], shutDown := true } } ∧
      Orderly (Pipeline.interruptWaits p).2 := by
  have none : (p.timers.filter fun timer => ! timer.task.isResume) = [] := by
    rw [List.filter_eq_nil_iff]
    intro timer member
    rw [waits timer member]
    exact Bool.false_ne_true
  obtain ⟨cut, begun⟩ : ∃ cut : Pipeline α, cut = { p with
    timers := [], pool := { p.pool with shutDown := true } } := ⟨_, rfl⟩
  -- The waits cut short count as resumed at once: the seats are accounted for before any is left.
  have resumed : (p.pausing.map fun wait => Task.resume wait.1 wait.2).filterMap Task.resumed? =
      p.pausing := by
    rw [List.filterMap_map]
    exact List.filterMap_some
  have ended : Orderly { cut with
      ready := cut.ready ++ p.pausing.map fun wait => .resume wait.1 wait.2 } := by
    rw [begun]
    exact
      { orderly with
        ready := by
          rw [done]
          exact List.forall_mem_map.mpr fun _ _ => trivial
        timers := List.forall_mem_nil _
        seated := by
          refine orderly.seated.trans (.of_eq ?_)
          simp only [resuming, pausing, List.filterMap_append, List.filterMap_nil, List.append_nil]
          rw [← pausing, resumed]
        served := by
          rw [List.countP_append]
          exact Nat.le_add_right_of_le orderly.served
        closed := fun _ => by
          refine ⟨rfl, ?_⟩
          rw [done]
          exact List.forall_mem_map.mpr fun _ _ => ⟨rfl, rfl⟩ }
  have left := ended.leaveAll
  obtain ⟨seated, serves, same, only, nobody⟩ := leaveAll_only p.pausing cut
  have empty : seated = [] := by
    have seats := left.seated
    have nothing : serves.filterMap Task.resumed? = [] :=
      List.filterMap_eq_nil_iff.mpr fun task member => by rw [only task member]; rfl
    rw [same, begun] at seats
    simp only [resuming, pausing, done, List.nil_append, nothing, List.filterMap_nil] at seats
    exact List.perm_nil.mp seats
  have cuts : (Pipeline.interruptWaits p).2 = cut.leaveAll p.pausing := by
    rw [interruptWaits_apply, none, begun]
  rw [cuts]
  refine ⟨serves, only, fun nobody' => nobody (by rw [begun]; exact nobody'), ?_, left⟩
  rw [same, begun, empty, done]
  rfl

/-! ## All that a stop does -/

def shutDownDeeds [Quantity α] (p : Pipeline α) : List Deed :=
  let cut := (interruptWaits p).2
  if 0 < cut.pool.inFlight then settleDeeds cut else []

def stopDeeds [Quantity α] (p : Pipeline α) : List Deed :=
  let ended := (Service.endJobs (flushAll p).2).2
  let settled := (settle ended).2
  flushAllDeeds p ++ settleDeeds ended ++ flushAllDeeds settled ++
    shutDownDeeds (flushAll settled).2

/-- A cleanup that is due at this very instant runs while the stop waits for batches to be made. -/
def SweepsFirst (p : Pipeline α) : Prop :=
  p.ready.any Task.isFlush = true ∧ ∃ period, Task.run ⟨.cleanUp, period⟩ ∈ p.ready

/-- What a stop does, and that it leaves nothing to be done. The attempts are those whose time has
come, and the first ones of all batches that wait for a seat or are made meanwhile. -/
structure Drains (p : Pipeline α) (deeds : List Deed) (q : Pipeline α) : Prop where
  course : Course p.pool.policy p.retention p.now p.backend deeds q.backend
  clock : q.clock = p.clock
  buffered : q.buffers.count = 0
  ready : q.ready = []
  timers : q.timers = []
  inFlight : q.pool.inFlight = 0
  attempts : (attemptsIn deeds).Perm
    (p.resuming ++ (p.pool.waiting ++ madeIn deeds).map fun id => (id, 0))
  once : ((attemptsIn deeds).map Prod.fst).Nodup
  untried : ∀ id ∈ p.pausing.map Prod.fst, id ∉ (attemptsIn deeds).map Prod.fst
  swept : ∀ id ∈ p.pausing.map Prod.fst,
    Swept (p.backend.batches.get? id) (q.backend.batches.get? id)
  kept : ∀ id ∈ p.pausing.map Prod.fst, ¬ SweepsFirst p →
    q.backend.batches.get? id = p.backend.batches.get? id

theorem Drained.count (drained : Drained p) : p.buffers.count = 0 := by
  rw [← Buffers.total_groups, drained.groups]
  rfl

theorem cleanUp_notMem_makeAllDeeds (groups : List Group) (p : Pipeline α) :
    Deed.cleanUp ∉ makeAllDeeds groups p := by
  induction groups generalizing p with
  | nil => exact List.not_mem_nil
  | cons group rest ih =>
      rw [makeAllDeeds, List.mem_append, not_or]
      refine ⟨?_, ih _⟩
      rw [makeDeeds]
      split <;> simp

theorem Orderly.idle (orderly : Orderly p) (done : p.ready = []) (none : p.timers = []) :
    p.pool.waiting = [] ∧ p.pool.seated = [] := by
  have seated : p.pool.seated = [] := by
    have seats := orderly.seated
    simp only [resuming, pausing, done, none, List.filterMap_nil, List.append_nil,
      List.map_nil] at seats
    exact List.perm_nil.mp seats
  have served := orderly.served
  have seats := orderly.seats
  simp only [done, seated, List.countP_nil, List.length_nil] at served
  exact ⟨List.length_eq_zero_iff.mp (by omega), seated⟩

theorem Orderly.drains (orderly : Orderly p) {deeds : List Deed} (carries : Carries p deeds q)
    (final : Orderly q) (ready : q.ready = []) (timers : q.timers = []) (drained : Drained q)
    (sweeps : .cleanUp ∈ deeds → SweepsFirst p) : Drains p deeds q := by
  obtain ⟨waiting, seated⟩ := final.idle ready timers
  obtain ⟨-, distinct, fresh⟩ := carries.course.made orderly.plain
  have attempts : (attemptsIn deeds).Perm
      (p.resuming ++ (p.pool.waiting ++ madeIn deeds).map fun id => (id, 0)) := by
    have owed := carries.owed
    have nothing : q.owed = [] := by rw [Pipeline.owed, resuming, ready, waiting]; rfl
    rw [nothing, List.append_nil, Pipeline.owed, List.append_assoc, ← List.map_append] at owed
    exact owed.symm
  have tried : ((attemptsIn deeds).map Prod.fst).Perm
      ((p.pool.waiting ++ p.resuming.map Prod.fst) ++ madeIn deeds) := by
    have ids := attempts.map Prod.fst
    rw [List.map_append, List.map_map] at ids
    change (List.map _ _).Perm (_ ++ List.map id _) at ids
    rw [List.map_id, ← List.append_assoc] at ids
    exact ids.trans (List.perm_append_comm.append_right _)
  -- A batch waits for a seat, or its next attempt is ready, or that waits for its time.
  have seats : (p.pool.waiting ++ p.pool.seated).Perm
      ((p.pool.waiting ++ p.resuming.map Prod.fst) ++ p.pausing.map Prod.fst) := by
    rw [List.append_assoc, ← List.map_append]
    exact orderly.seated.append_left _
  obtain ⟨due, -, apart⟩ := List.nodup_append.mp (seats.nodup_iff.mp orderly.distinct)
  have old : ∀ {id}, id ∈ (p.pool.waiting ++ p.resuming.map Prod.fst) ++ p.pausing.map Prod.fst →
      p.backend.ids.Spent id :=
    fun member => orderly.known _ (seats.mem_iff.mpr member)
  have once : ((attemptsIn deeds).map Prod.fst).Nodup := by
    refine tried.nodup_iff.mpr (List.nodup_append.mpr ⟨due, distinct, ?_⟩)
    rintro id before _ made rfl
    exact (fresh id made).1 (old (List.mem_append_left _ before))
  have untried : ∀ id ∈ p.pausing.map Prod.fst, id ∉ (attemptsIn deeds).map Prod.fst := by
    intro id pauses attempted
    rcases List.mem_append.mp (tried.mem_iff.mp attempted) with before | made
    · exact apart id before id pauses rfl
    · exact (fresh id made).1 (old (List.mem_append_right _ pauses))
  have spares := fun id (pauses : id ∈ p.pausing.map Prod.fst) =>
    carries.course.spares orderly.plain (old (List.mem_append_right _ pauses)) (untried id pauses)
  exact
    { course := carries.course
      clock := carries.setting.2.2.1
      buffered := drained.count
      ready
      timers
      inFlight := by rw [Pool.inFlight, waiting, seated]; rfl
      attempts
      once
      untried
      swept := fun id pauses => (spares id pauses).1
      kept := fun id pauses calm => (spares id pauses).2 fun swept => calm (sweeps swept) }

theorem waits_of_settled {ended settled : Pipeline α} {deeds : List Deed}
    (jobless : ∀ task ∈ ended.ready, task.isJob = false)
    (untimed : ∀ timer ∈ ended.timers, timer.task.isJob = false)
    (proceeds : Proceeds ended deeds settled) :
    ∀ timer ∈ settled.timers, timer.task.isResume = true := by
  intro timer member
  have noJob : timer.task.isJob = false := by
    obtain ⟨later, same, known⟩ := proceeds.timers
    rw [same] at member
    rcases List.mem_append.mp member with before | late
    · exact untimed timer before
    · by_contra runs
      have runs := Bool.not_eq_false _ ▸ runs
      have never := jobless _ (known timer late runs)
      rw [runs] at never
      cases never
  have timed := proceeds.orderly.timers timer member
  obtain ⟨due, task⟩ := timer
  cases task with
  | resume => rfl
  | run job => cases noJob
  | _ => exact timed.elim

variable [Quantity α]

theorem sweepsFirst_of_cleanUp (orderly : Orderly p) (running : p.pool.shutDown = false)
    (done : .cleanUp ∈ flushAllDeeds p) : SweepsFirst p := by
  have drains := (proceeds_drainBuffers orderly running).1
  rw [flushAllDeeds] at done
  rcases List.mem_append.mp done with made | swept
  · exact absurd made (cleanUp_notMem_makeAllDeeds _ _)
  · split at swept
    · rename_i flushes
      obtain ⟨task, member, isFlush⟩ := List.any_eq_true.mp flushes
      obtain ⟨period, runs⟩ := (proceeds_settle drains.orderly).1.cleanUp swept
      exact ⟨List.any_eq_true.mpr ⟨task, drains.ready task member (.inl isFlush), isFlush⟩,
        period, drains.ready _ runs (.inr rfl)⟩
    · cases swept

theorem shutDown_apply (p : Pipeline α) :
    (shutDown p).2 = if 0 < (interruptWaits p).2.pool.inFlight then
      (settle (interruptWaits p).2).2 else (interruptWaits p).2 := by
  simp only [shutDown]
  rw [bind_apply, get_bind_apply, ite_apply]
  split <;> rfl

theorem Drained.flushAllDeeds (drained : Drained p) (done : p.ready = []) :
    flushAllDeeds p = [] := by
  rw [Pipeline.flushAllDeeds, drainDeeds, drained.drainBuffers, drained.groups, done]
  rfl

theorem drains_shutDown (orderly : Orderly p) (done : p.ready = [])
    (waits : ∀ timer ∈ p.timers, timer.task.isResume = true) (drained : Drained p) :
    Carries p (shutDownDeeds p) (shutDown p).2 ∧ Orderly (shutDown p).2 ∧
      (shutDown p).2.ready = [] ∧ (shutDown p).2.timers = [] ∧ Drained (shutDown p).2 ∧
      .cleanUp ∉ shutDownDeeds p := by
  obtain ⟨serves, only, nobody, same, cut⟩ := orderly.interruptWaits done waits
  have nothing : serves.filterMap Task.resumed? = [] :=
    List.filterMap_eq_nil_iff.mpr fun task member => by rw [only task member]; rfl
  have carried : Carries p [] (interruptWaits p).2 := by
    refine .same ?_ ?_ (.of_eq ?_)
    · rw [same]
      exact .still _
    · rw [same]
      exact ⟨rfl, rfl, rfl, rfl⟩
    · rw [same, owed, owed, resuming, resuming, done, nothing]
      rfl
  have still : Drained (interruptWaits p).2 := by
    rw [same]
    exact drained
  have down : (interruptWaits p).2.pool.shutDown = true := by rw [same]
  rw [shutDown_apply, shutDownDeeds]
  by_cases busy : 0 < (interruptWaits p).2.pool.inFlight
  · rw [if_pos busy, if_pos busy]
    obtain ⟨settled, empty⟩ := proceeds_settle cut
    refine ⟨carried.trans settled.toCarries, settled.orderly, empty,
      (settled.orderly.closed (settled.shutDown.trans down)).1, settled.drained still,
      fun swept => ?_⟩
    obtain ⟨period, runs⟩ := settled.cleanUp swept
    rw [same] at runs
    cases only _ runs
  · rw [if_neg busy, if_neg busy]
    have idle : p.pool.waiting = [] := by
      rw [same, Pool.inFlight] at busy
      exact List.length_eq_zero_iff.mp (by simp only [List.length_nil] at busy; omega)
    refine ⟨carried, cut, ?_, (cut.closed down).1, still, List.not_mem_nil⟩
    rw [same]
    exact nobody idle

theorem drains_stop (orderly : Orderly p) (running : p.pool.shutDown = false) :
    Drains p (stopDeeds p)
      (shutDown (flushAll (settle (Service.endJobs (flushAll p).2).2).2).2).2 := by
  obtain ⟨flushed, empty⟩ := proceeds_flushAll orderly running
  have ended := flushed.orderly.endJobs
  have carried : Carries (flushAll p).2 [] (Service.endJobs (flushAll p).2).2 := by
    refine .same (.still _) ⟨rfl, rfl, rfl, rfl⟩ (.of_eq ?_)
    rw [owed, owed, resuming_endJobs]
    rfl
  obtain ⟨settled, done⟩ := proceeds_settle ended
  have drained := settled.drained empty
  have waits := waits_of_settled (fun _ => isJob_of_mem_endJobs)
    (fun timer member => by simpa using (List.mem_filter.mp member).2) settled
  obtain ⟨cut, final, ready, timers, still, unswept⟩ :=
    drains_shutDown settled.orderly done waits drained
  -- The second flush finds nothing: what was buffered is gone, and the jobs have ended.
  simp only [stopDeeds]
  rw [drained.flushAllDeeds done, List.append_nil, drained.flushAll done]
  refine orderly.drains ?_ final ready timers still fun swept => ?_
  · have begun := flushed.toCarries.trans carried
    rw [List.append_nil] at begun
    exact (begun.trans settled.toCarries).trans cut
  · rcases List.mem_append.mp swept with early | late
    · rcases List.mem_append.mp early with first | second
      · exact sweepsFirst_of_cleanUp orderly running first
      · obtain ⟨period, runs⟩ := settled.cleanUp second
        cases isJob_of_mem_endJobs runs
    · exact absurd late unswept

end Pipeline

end LogPipeline
