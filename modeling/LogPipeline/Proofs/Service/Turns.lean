import LogPipeline.Proofs.Service.Shutdown

/-!
# The passing of time

The clock of a pipeline goes from one due timer to the next, and only when nothing is ready: no
timer is overdue, and no task is done later than it is due. What the tasks keep and what such moves
of the clock keep holds whenever a task gets its turn.
-/

namespace LogPipeline

open Backend

namespace Pipeline

variable {α : Type} [Quantity α] {p : Pipeline α}

/-! ## The turns of a piece of work -/

def tasksTurns : Nat → Pipeline α → List (Task × Pipeline α)
  | 0, _ => []
  | n + 1, p =>
    match p.ready with
    | [] => []
    | task :: _ => (task, p) :: tasksTurns n (runNext p).2

def settleTurns (p : Pipeline α) : List (Task × Pipeline α) :=
  tasksTurns p.load p

def passTurns (deadline : Nat) : Nat → Pipeline α → List (Task × Pipeline α)
  | 0, _ => []
  | n + 1, p =>
    settleTurns p ++
      match (settle p).2.nextDue? with
      | none => []
      | some due =>
        if due < deadline then passTurns deadline n (moveTo due (settle p).2).2 else []

def advanceTurns (millis : Nat) (p : Pipeline α) : List (Task × Pipeline α) :=
  if millis = 0 then [] else passTurns (p.clock + millis) (millis + 1) p

def placeTurns (place : Nat) (p : Pipeline α) : List (Task × Pipeline α) :=
  p.ready[place]?.toList.map fun task => (task, p)

def flushAllTurns (p : Pipeline α) : List (Task × Pipeline α) :=
  let drained := (drainBuffers p).2
  if drained.ready.any Task.isFlush then settleTurns drained else []

def shutDownTurns (p : Pipeline α) : List (Task × Pipeline α) :=
  let cut := (interruptWaits p).2
  if 0 < cut.pool.inFlight then settleTurns cut else []

def stopTurns (p : Pipeline α) : List (Task × Pipeline α) :=
  let ended := (Service.endJobs (flushAll p).2).2
  let settled := (settle ended).2
  flushAllTurns p ++ settleTurns ended ++ flushAllTurns settled ++
    shutDownTurns (flushAll settled).2

def waitTurns (p : Pipeline α) : List (Task × Pipeline α) :=
  if p.ready.any Task.isFlush then settleTurns p else []

def idleTurns : Nat → Pipeline α → List (Task × Pipeline α)
  | 0, _ => []
  | n + 1, p =>
    if p.pool.inFlight = 0 then []
    else settleTurns p ++
      if (settle p).2.pool.inFlight = 0 then []
      else
        match (settle p).2.nextDue? with
        | none => []
        | some due => idleTurns n (moveTo due (settle p).2).2

def waitIdleTurns (p : Pipeline α) : List (Task × Pipeline α) :=
  let waited := (waitForFlushes p).2
  waitTurns p ++ idleTurns waited.idleBound waited

def processTurns (id : BatchId) (retry : Nat) : Nat → Pipeline α → List (Task × Pipeline α)
  | 0, _ => []
  | n + 1, p =>
    match tryOnce p.pool.policy p.now id retry p.backend with
    | (.done _, _) => []
    | (.wait retry span, backend) =>
      let tried : Pipeline α := { p with backend }
      let deadline := p.clock + span.waitMillis
      if p.pool.shutDown then []
      else if span = 0 then processTurns id retry n tried
      else passTurns deadline (deadline - p.clock + 1) tried ++
        processTurns id retry n (passUntil deadline tried).2

/-! ## What is written down of the turns -/

structure RestsUntil (p : Pipeline α) (instant : Nat) : Prop where
  done : p.ready = []
  onward : p.clock ≤ instant
  first : ∀ timer ∈ p.timers, instant ≤ timer.due

/-- What ready tasks and moves of the clock keep, if something is written down of each turn. What is
kept in time has to be kept only when the clock goes no further than to the next timer while nothing
is ready. -/
structure KeptByTurns {ε : Type} (timed : Prop) (written : Task × Pipeline α → List ε)
    (holds : List ε → Pipeline α → Prop) : Prop where
  orderly : timed → ∀ events p, holds events p → Orderly p
  ahead : timed → ∀ events p, holds events p → ∀ timer ∈ p.timers, p.clock < timer.due
  runTask : ∀ events p task rest, p.ready.Perm (task :: rest) → holds events p →
    holds (events ++ written (task, p)) (Pipeline.runTask task { p with ready := rest }).2
  moveTo : ∀ events p instant, (timed → RestsUntil p instant) → holds events p →
    holds events (Pipeline.moveTo instant p).2

namespace KeptByTurns

variable {ε : Type} {timed : Prop} {written : Task × Pipeline α → List ε}
  {holds : List ε → Pipeline α → Prop} {events : List ε}

theorem runTasks (kept : KeptByTurns timed written holds) (start : holds events p) (n : Nat) :
    holds (events ++ (tasksTurns n p).flatMap written) (runTasks n p).2 := by
  induction n generalizing events p with
  | zero => exact (List.append_nil events).symm ▸ start
  | succ n ih =>
      rw [runTasks_succ, tasksTurns]
      cases next : p.ready with
      | nil => exact (List.append_nil events).symm ▸ start
      | cons task rest =>
          have done := ih (kept.runTask events p task rest (.of_eq next) start)
          rw [List.append_assoc, ← runNext_cons next] at done
          exact done

theorem settle (kept : KeptByTurns timed written holds) (start : holds events p) :
    holds (events ++ (settleTurns p).flatMap written) (settle p).2 :=
  kept.runTasks start _

theorem restsUntil_next (kept : KeptByTurns timed written holds) (start : holds events p)
    {due : Nat} (next : (Pipeline.settle p).2.nextDue? = some due) (inTime : timed) :
    RestsUntil (Pipeline.settle p).2 due ∧ p.clock < due := by
  obtain ⟨proceeds, done⟩ := proceeds_settle (kept.orderly inTime _ p start)
  have clock : (Pipeline.settle p).2.clock = p.clock := proceeds.setting.2.2.1
  obtain ⟨set, least⟩ := List.min?_eq_some_iff.mp next
  obtain ⟨timer, among, rfl⟩ := List.mem_map.mp set
  have later := kept.ahead inTime _ _ (kept.settle start) timer among
  exact ⟨⟨done, Nat.le_of_lt later, fun other member => least _ (List.mem_map_of_mem member)⟩,
    clock ▸ later⟩

theorem passBefore (kept : KeptByTurns timed written holds) {deadline n : Nat}
    (start : holds events p) (before : p.clock ≤ deadline)
    (enough : timed → deadline < p.clock + n) :
    holds (events ++ (passTurns deadline n p).flatMap written) (passBefore deadline n p).2 ∧
      (timed → RestsUntil (Pipeline.passBefore deadline n p).2 deadline) := by
  -- Each move goes to a later instant, so the moves left always exceed the instants left.
  induction n generalizing events p with
  | zero =>
      exact ⟨(List.append_nil events).symm ▸ start,
        fun inTime => absurd (enough inTime) (Nat.not_lt_of_le before)⟩
  | succ n ih =>
      have settled := kept.settle start
      have rests (inTime : timed) (first : ∀ timer ∈ (Pipeline.settle p).2.timers,
          deadline ≤ timer.due) : RestsUntil (Pipeline.settle p).2 deadline := by
        obtain ⟨proceeds, done⟩ := proceeds_settle (kept.orderly inTime _ p start)
        have clock : (Pipeline.settle p).2.clock = p.clock := proceeds.setting.2.2.1
        exact ⟨done, clock ▸ before, first⟩
      rw [passBefore_succ, passTurns, List.flatMap_append, ← List.append_assoc]
      cases next : (Pipeline.settle p).2.nextDue? with
      | none =>
          have none : (Pipeline.settle p).2.timers = [] := by
            simpa [nextDue?, List.min?_eq_none_iff] using next
          refine ⟨(List.append_nil _).symm ▸ settled, fun inTime => rests inTime ?_⟩
          rw [none]
          exact List.forall_mem_nil _
      | some due =>
          have toNext := kept.restsUntil_next start next
          dsimp only
          by_cases soon : due < deadline
          · rw [if_pos soon, if_pos soon]
            refine ih (kept.moveTo _ _ due (fun inTime => (toNext inTime).1) settled)
              (Nat.le_of_lt soon) fun inTime => ?_
            have later := (toNext inTime).2
            have within := enough inTime
            change deadline < due + n
            omega
          · rw [if_neg soon, if_neg soon]
            refine ⟨(List.append_nil _).symm ▸ settled, fun inTime => rests inTime ?_⟩
            exact fun timer member =>
              Nat.le_trans (Nat.le_of_not_lt soon) ((toNext inTime).1.first timer member)

theorem passUntil (kept : KeptByTurns timed written holds) {deadline : Nat}
    (start : holds events p) (before : p.clock ≤ deadline) :
    holds (events ++ (passTurns deadline (deadline - p.clock + 1) p).flatMap written)
      (passUntil deadline p).2 := by
  have enough : deadline < p.clock + (deadline - p.clock + 1) := by omega
  obtain ⟨passed, rests⟩ := kept.passBefore start before fun _ => enough
  rw [passUntil_apply]
  exact kept.moveTo _ _ deadline rests passed

theorem advance (kept : KeptByTurns timed written holds) (start : holds events p) (millis : Nat) :
    holds (events ++ (advanceTurns millis p).flatMap written) (advance millis p).2 := by
  rw [advance_apply, advanceTurns]
  split
  · exact (List.append_nil events).symm ▸ start
  · have passed := kept.passUntil start (Nat.le_add_right p.clock millis)
    rw [Nat.add_sub_cancel_left] at passed
    exact passed

theorem turn (kept : KeptByTurns timed written holds) (start : holds events p) (place : Nat) :
    holds (events ++ (placeTurns place p).flatMap written) (turn place p).2 := by
  rw [placeTurns]
  cases found : p.ready[place]? with
  | none =>
      rw [turn_none found]
      exact (List.append_nil events).symm ▸ start
  | some task =>
      rw [turn_some found]
      obtain ⟨within, rfl⟩ := List.getElem?_eq_some_iff.mp found
      have done := kept.runTask events p _ _ (List.getElem_cons_eraseIdx_perm within).symm start
      rw [← List.flatMap_singleton written] at done
      exact done

theorem waitForFlushes (kept : KeptByTurns timed written holds) (start : holds events p) :
    holds (events ++ (waitTurns p).flatMap written) (waitForFlushes p).2 := by
  rw [waitForFlushes_apply, waitTurns]
  split
  · exact kept.settle start
  · exact (List.append_nil events).symm ▸ start

theorem flushAll (kept : KeptByTurns timed written holds)
    (drained : holds events (drainBuffers p).2) :
    holds (events ++ (flushAllTurns p).flatMap written) (flushAll p).2 :=
  kept.waitForFlushes drained

theorem passUntilIdle (kept : KeptByTurns timed written holds) (start : holds events p) (n : Nat) :
    holds (events ++ (idleTurns n p).flatMap written) (passUntilIdle n p).2 := by
  induction n generalizing events p with
  | zero => exact (List.append_nil events).symm ▸ start
  | succ n ih =>
      have settled := kept.settle start
      rw [passUntilIdle_succ, idleTurns]
      split
      · exact (List.append_nil events).symm ▸ start
      · rw [List.flatMap_append, ← List.append_assoc]
        split
        · exact (List.append_nil _).symm ▸ settled
        · cases next : (Pipeline.settle p).2.nextDue? with
          | none => exact (List.append_nil _).symm ▸ settled
          | some due =>
              exact ih (kept.moveTo _ _ due
                (fun inTime => (kept.restsUntil_next start next inTime).1) settled)

theorem waitIdle (kept : KeptByTurns timed written holds) (start : holds events p) :
    holds (events ++ (waitIdleTurns p).flatMap written)
      (Pipeline.waitIdle (Pipeline.waitForFlushes p).2).2 := by
  have waited := kept.passUntilIdle (kept.waitForFlushes start)
    (Pipeline.waitForFlushes p).2.idleBound
  rw [List.append_assoc, ← List.flatMap_append] at waited
  exact waited

theorem processFrom (kept : KeptByTurns timed written holds)
    (tried : ∀ events p id retry, holds events p → holds events { p with
      backend := (tryOnce p.pool.policy p.now id retry p.backend).2 })
    (start : holds events p) (id : BatchId) (retry n : Nat) :
    holds (events ++ (processTurns id retry n p).flatMap written) (processFrom id retry n p).2 := by
  induction n generalizing events p retry with
  | zero => exact (List.append_nil events).symm ▸ start
  | succ n ih =>
      have attempted := tried events p id retry start
      rw [processFrom_succ, processTurns]
      generalize tryOnce p.pool.policy p.now id retry p.backend = answer at attempted ⊢
      obtain ⟨next, backend⟩ := answer
      cases next with
      | done outcome => exact (List.append_nil events).symm ▸ attempted
      | wait next span =>
          dsimp only
          split
          · exact (List.append_nil events).symm ▸ attempted
          · split
            · exact ih attempted next
            · have passed := ih (kept.passUntil attempted
                (Nat.le_add_right p.clock span.waitMillis)) next
              rw [List.append_assoc, ← List.flatMap_append] at passed
              exact passed

end KeptByTurns

/-! ## What is kept whenever a task gets its turn -/

structure KeptInTime (holds : Pipeline α → Prop) : Prop where
  orderly : ∀ p, holds p → Orderly p
  ahead : ∀ p, holds p → ∀ timer ∈ p.timers, p.clock < timer.due
  runTask : ∀ p task rest, p.ready.Perm (task :: rest) → holds p →
    holds (Pipeline.runTask task { p with ready := rest }).2
  moveTo : ∀ p instant, RestsUntil p instant → holds p → holds (Pipeline.moveTo instant p).2

namespace KeptInTime

variable {holds : Pipeline α → Prop}

theorem keptByTurns {ε : Type} (kept : KeptInTime holds) (written : Task × Pipeline α → List ε) :
    KeptByTurns True written fun _ => holds where
  orderly _ _ := kept.orderly
  ahead _ _ := kept.ahead
  runTask _ := kept.runTask
  moveTo _ p instant rests := kept.moveTo p instant (rests trivial)

theorem everyTurn (kept : KeptInTime holds) :
    KeptByTurns True (fun turn => [turn]) fun turns p =>
      holds p ∧ ∀ turn ∈ turns, holds turn.2 where
  orderly _ _ p now := kept.orderly p now.1
  ahead _ _ p now := kept.ahead p now.1
  runTask _ p task rest among now :=
    ⟨kept.runTask p task rest among now.1, forall_mem_append_singleton now.2 now.1⟩
  moveTo _ p instant rests now := ⟨kept.moveTo p instant (rests trivial) now.1, now.2⟩

theorem advance (kept : KeptInTime holds) (start : holds p) (millis : Nat) :
    holds (advance millis p).2 ∧ ∀ turn ∈ advanceTurns millis p, holds turn.2 := by
  have passed := kept.everyTurn.advance ⟨start, List.forall_mem_nil _⟩ millis
  rwa [List.nil_append, List.flatMap_singleton'] at passed

theorem turn (kept : KeptInTime holds) (start : holds p) (place : Nat) :
    holds (turn place p).2 ∧ ∀ turn ∈ placeTurns place p, holds turn.2 := by
  have done := kept.everyTurn.turn ⟨start, List.forall_mem_nil _⟩ place
  rwa [List.nil_append, List.flatMap_singleton'] at done

theorem flushAll (kept : KeptInTime holds) (drained : holds (drainBuffers p).2) :
    ∀ turn ∈ flushAllTurns p, holds turn.2 := by
  have flushed := (kept.everyTurn.flushAll ⟨drained, List.forall_mem_nil _⟩).2
  rwa [List.nil_append, List.flatMap_singleton'] at flushed

end KeptInTime

/-! ## No turns -/

theorem settleTurns_of_idle (done : p.ready = []) : settleTurns p = [] := by
  rw [settleTurns]
  cases p.load with
  | zero => rfl
  | succ n => rw [tasksTurns, done]

theorem advanceTurns_of_idle (done : p.ready = []) (untimed : p.timers = []) (millis : Nat) :
    advanceTurns millis p = [] := by
  have never : p.nextDue? = none := by
    rw [nextDue?, untimed]
    rfl
  rw [advanceTurns]
  split
  · rfl
  · rw [passTurns, settle_of_idle done, settleTurns_of_idle done, never]
    rfl

omit [Quantity α] in
theorem placeTurns_of_idle (done : p.ready = []) (place : Nat) : placeTurns place p = [] := by
  rw [placeTurns, done]
  rfl

theorem job_of_turn {n : Nat} (orderly : Orderly p) :
    ∀ turn ∈ tasksTurns n p, turn.1.isJob = true → turn.1 ∈ p.ready := by
  induction n generalizing p with
  | zero => exact List.forall_mem_nil _
  | succ n ih =>
      rw [tasksTurns]
      cases next : p.ready with
      | nil => exact List.forall_mem_nil _
      | cons task rest =>
          have done := (proceeds_runTask orderly (.of_eq next)).1
          rw [← runNext_cons next] at done
          refine List.forall_mem_cons.mpr ⟨fun _ => List.mem_cons_self, fun turn member runs => ?_⟩
          exact next ▸ done.ready _ (ih done.orderly turn member runs) (.inr runs)

theorem stopTurns_split (orderly : Orderly p) (running : p.pool.shutDown = false) :
    ∃ rest, stopTurns p = flushAllTurns p ++ rest ∧ ∀ turn ∈ rest, turn.1.isJob = false := by
  obtain ⟨flushed, empty⟩ := proceeds_flushAll orderly running
  have ended := flushed.orderly.endJobs
  obtain ⟨settled, done⟩ := proceeds_settle ended
  have drained := settled.drained empty
  have waits := waits_of_settled (fun _ => isJob_of_mem_endJobs)
    (fun timer member => by simpa using (List.mem_filter.mp member).2) settled
  obtain ⟨serves, only, -, same, cut⟩ := settled.orderly.interruptWaits done waits
  have calm : flushAllTurns (settle (Service.endJobs (flushAll p).2).2).2 = [] := by
    rw [flushAllTurns, drained.drainBuffers, done]
    rfl
  have split : stopTurns p = flushAllTurns p ++
      (settleTurns (Service.endJobs (flushAll p).2).2 ++
        shutDownTurns (settle (Service.endJobs (flushAll p).2).2).2) := by
    rw [stopTurns, calm, List.append_nil, drained.flushAll done, List.append_assoc]
  refine ⟨_, split, fun turn member => ?_⟩
  cases runs : turn.1.isJob with
  | false => rfl
  | true =>
      rcases List.mem_append.mp member with early | late
      · have never := isJob_of_mem_endJobs (job_of_turn ended turn early runs)
        rw [runs] at never
        cases never
      · rw [shutDownTurns] at late
        split at late
        · have never := job_of_turn cut turn late runs
          rw [same] at never
          rw [only _ never] at runs
          cases runs
        · cases late

end Pipeline

/-! ## The turns of a service -/

inductive Occurrence where
  | event (event : Event)
  | cleanUp

namespace Service

open Pipeline

variable {α : Type} [Quantity α]

def occur (s : Service α) : Occurrence → Service α
  | .event e => s.react e
  | .cleanUp => (onPipeline (runJob .cleanUp) s).2

def turns (s : Service α) : Event → List (Task × Pipeline α)
  | .advance millis => advanceTurns millis s.pipeline
  | .turn place => placeTurns place s.pipeline
  | .stop => if s.isRunning then stopTurns s.pipeline else []
  | .start | .receive _ | .change _ => []

end Service

end LogPipeline
