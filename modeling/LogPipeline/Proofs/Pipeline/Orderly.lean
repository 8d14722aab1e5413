import Mathlib.Data.List.Perm.Basic
import LogPipeline.Proofs.Backend.Deeds
import LogPipeline.Proofs.Pipeline.Ledger

/-!
# Seats and turns

A batch that is scheduled waits for a seat, or it has one and its next attempt is ready or waits for
its time. While a seat is free, there is a task for each batch that waits and could take one. What
comes in, and the passing of time, keep this order.
-/

namespace LogPipeline

open Backend

namespace Task

def isServe : Task → Bool
  | .serve => true
  | _ => false

def resumed? : Task → Option (BatchId × Nat)
  | .resume id retry => some (id, retry)
  | _ => none

@[simp] theorem resumed?_serve : resumed? .serve = none := rfl

@[simp] theorem resumed?_run (job : Job) : resumed? (.run job) = none := rfl

@[simp] theorem resumed?_flush (key : Key) (logs : List RawLog) :
    resumed? (.flush key logs) = none := rfl

@[simp] theorem resumed?_resume (id : BatchId) (retry : Nat) :
    resumed? (.resume id retry) = some (id, retry) := rfl

def IsTimed : Task → Prop
  | .run job => 1 ≤ job.period
  | .resume .. => True
  | _ => False

def IsOwn : Task → Prop
  | .change _ => False
  | .run job => 1 ≤ job.period
  | _ => True

theorem IsTimed.isOwn {task : Task} (timed : task.IsTimed) : task.IsOwn := by
  cases task with
  | run job => exact timed
  | resume => trivial
  | _ => exact timed.elim

end Task

namespace Pipeline

variable {α : Type} {p q : Pipeline α}

def resuming (p : Pipeline α) : List (BatchId × Nat) :=
  p.ready.filterMap Task.resumed?

def pausing (p : Pipeline α) : List (BatchId × Nat) :=
  p.timers.filterMap fun timer => timer.task.resumed?

def owed (p : Pipeline α) : List (BatchId × Nat) :=
  p.resuming ++ p.pool.waiting.map fun id => (id, 0)

structure Orderly (p : Pipeline α) : Prop where
  plain : p.backend.Plain
  handler : p.handler = .deliver
  interval : p.pool.policy.interval ≠ 0
  seats : 1 ≤ p.pool.seats
  ready : ∀ task ∈ p.ready, task.IsOwn
  timers : ∀ timer ∈ p.timers, timer.task.IsTimed
  seated : p.pool.seated.Perm ((p.resuming ++ p.pausing).map Prod.fst)
  served : min p.pool.waiting.length (p.pool.seats - p.pool.seated.length) ≤
    p.ready.countP Task.isServe
  distinct : (p.pool.waiting ++ p.pool.seated).Nodup
  known : ∀ id ∈ p.pool.waiting ++ p.pool.seated, p.backend.ids.Spent id
  closed : p.pool.shutDown = true →
    p.timers = [] ∧ ∀ task ∈ p.ready, task.isFlush = false ∧ task.isJob = false

theorem Orderly.of_same (orderly : Orderly p) (handler : q.handler = p.handler)
    (pool : q.pool = p.pool) (ready : q.ready = p.ready) (timers : q.timers = p.timers)
    (plain : q.backend.Plain) (spent : ∀ id, p.backend.ids.Spent id → q.backend.ids.Spent id) :
    Orderly q where
  plain := plain
  handler := handler.trans orderly.handler
  interval := by rw [pool]; exact orderly.interval
  seats := by rw [pool]; exact orderly.seats
  ready := by rw [ready]; exact orderly.ready
  timers := by rw [timers]; exact orderly.timers
  seated := by
    rw [resuming, pausing, ready, timers, pool]
    exact orderly.seated
  served := by rw [pool, ready]; exact orderly.served
  distinct := by rw [pool]; exact orderly.distinct
  known := by
    rw [pool]
    exact fun id member => spent id (orderly.known id member)
  closed := by rw [pool, timers, ready]; exact orderly.closed

theorem Orderly.rearrange (orderly : Orderly p) {ready : List Task}
    (own : ∀ task ∈ ready, task.IsOwn)
    (same : (ready.filterMap Task.resumed?).Perm p.resuming)
    (served : min p.pool.waiting.length (p.pool.seats - p.pool.seated.length) ≤
      ready.countP Task.isServe)
    (closed : p.pool.shutDown = true → ∀ task ∈ ready, task.isFlush = false ∧ task.isJob = false) :
    Orderly { p with ready } where
  plain := orderly.plain
  handler := orderly.handler
  interval := orderly.interval
  seats := orderly.seats
  ready := own
  timers := orderly.timers
  seated := orderly.seated.trans ((same.symm.append_right _).map Prod.fst)
  served := served
  distinct := orderly.distinct
  known := orderly.known
  closed down := ⟨(orderly.closed down).1, closed down⟩

theorem Orderly.append (orderly : Orderly p) (running : p.pool.shutDown = false)
    (more : List Task) (own : ∀ task ∈ more, task.IsOwn ∧ task.resumed? = none) :
    Orderly { p with ready := p.ready ++ more } := by
  have none : more.filterMap Task.resumed? = [] :=
    List.filterMap_eq_nil_iff.mpr fun task member => (own task member).2
  refine orderly.rearrange ?_ ?_ ?_ fun down => ?_
  · exact List.forall_mem_append.mpr ⟨orderly.ready, fun task member => (own task member).1⟩
  · rw [List.filterMap_append, none, List.append_nil]
    exact .refl _
  · rw [List.countP_append]
    exact Nat.le_add_right_of_le orderly.served
  · cases running.symm.trans down

theorem Orderly.setTimer (orderly : Orderly p) (running : p.pool.shutDown = false) {job : Job}
    (period : 1 ≤ job.period) (delay : Nat) : Orderly (setTimer delay (.run job) p).2 := by
  rw [setTimer_apply]
  by_cases now : delay = 0
  · rw [if_pos now]
    exact orderly.append running [.run job] (List.forall_mem_singleton.mpr ⟨period, rfl⟩)
  · rw [if_neg now]
    exact
      { orderly with
        timers := forall_mem_append_singleton orderly.timers period
        seated := by
          rw [pausing, List.filterMap_append]
          exact orderly.seated.trans (.of_eq (by simp [pausing, resuming, List.filterMap_cons]))
        closed := fun down => by cases running.symm.trans down }

theorem Orderly.scheduled (orderly : Orderly p) (running : p.pool.shutDown = false)
    {backend : Backend} (plain : backend.Plain) (ids : backend.ids = p.backend.ids.advance) :
    Orderly (({ p with backend } : Pipeline α).scheduled p.backend.ids.fresh) := by
  have fresh : p.backend.ids.fresh ∉ p.pool.waiting ++ p.pool.seated :=
    fun member => (orderly.known _ member).ne_fresh rfl
  have among : ((p.pool.waiting ++ [p.backend.ids.fresh]) ++ p.pool.seated).Perm
      (p.backend.ids.fresh :: (p.pool.waiting ++ p.pool.seated)) := by
    rw [List.append_assoc]
    exact List.perm_middle
  simp only [Pipeline.scheduled, running, Bool.false_eq_true, if_false]
  exact
    { plain
      handler := orderly.handler
      interval := orderly.interval
      seats := orderly.seats
      ready := forall_mem_append_singleton orderly.ready trivial
      timers := orderly.timers
      seated := by
        simpa [resuming, pausing, List.filterMap_cons] using orderly.seated
      served := by
        have served := orderly.served
        simp only [List.length_append, List.length_singleton, List.countP_append,
          List.countP_singleton, Task.isServe, if_true]
        omega
      distinct := among.nodup_iff.mpr (List.nodup_cons.mpr ⟨fresh, orderly.distinct⟩)
      known := by
        intro id member
        rw [ids]
        rcases List.mem_cons.mp (among.mem_iff.mp member) with rfl | before
        · exact p.backend.ids.spent_fresh
        · exact (orderly.known id before).advance
      closed := fun down => by cases down }

theorem Orderly.moveTo (orderly : Orderly p) (instant : Nat) : Orderly (moveTo instant p).2 := by
  have timed := (List.filter_append_perm (fun timer : Timer => timer.due ≤ instant)
    p.timers).filterMap fun timer => timer.task.resumed?
  rw [moveTo_apply]
  exact
    { orderly with
      ready := by
        refine List.forall_mem_append.mpr ⟨orderly.ready, fun task member => ?_⟩
        obtain ⟨timer, among, rfl⟩ := List.mem_map.mp member
        exact (orderly.timers timer (List.mem_filter.mp among).1).isOwn
      timers := fun timer member => orderly.timers timer (List.mem_filter.mp member).1
      seated := by
        refine orderly.seated.trans (.map Prod.fst ?_)
        rw [List.filterMap_append] at timed
        simp only [resuming, pausing, List.filterMap_append, List.filterMap_map, List.append_assoc]
        exact .append_left _ timed.symm
      served := by
        rw [List.countP_append]
        exact Nat.le_add_right_of_le orderly.served
      closed := fun down => by
        obtain ⟨none, quiet⟩ := orderly.closed down
        simp only [none, List.filter_nil, List.map_nil, List.append_nil]
        exact ⟨trivial, quiet⟩ }

end Pipeline

end LogPipeline
