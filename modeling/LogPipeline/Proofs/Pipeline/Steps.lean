import LogPipeline.Pipeline.Time
import LogPipeline.Proofs.Backend.Calls

/-!
# Steps as functions

What each step of a pipeline makes of the pipeline, as an equation. Later proofs cite these and do
not open the steps.
-/

namespace LogPipeline.Pipeline

open Backend

variable {α β γ : Type}

/-! ## Composed steps -/

theorem pure_apply (a : β) (p : Pipeline α) : (pure a : Step α β) p = (a, p) := rfl

theorem bind_apply (x : Step α β) (f : β → Step α γ) (p : Pipeline α) :
    (x >>= f) p = f (x p).1 (x p).2 := rfl

theorem get_bind_apply (f : Pipeline α → Step α γ) (p : Pipeline α) :
    ((get : Step α (Pipeline α)) >>= f) p = f p p := rfl

theorem set_bind_apply (q : Pipeline α) (f : PUnit → Step α γ) (p : Pipeline α) :
    ((set q : Step α PUnit) >>= f) p = f ⟨⟩ q := rfl

theorem modify_apply (f : Pipeline α → Pipeline α) (p : Pipeline α) :
    (modify f : Step α PUnit) p = (⟨⟩, f p) := rfl

theorem modify_bind_apply (m : Pipeline α → Pipeline α) (f : PUnit → Step α γ) (p : Pipeline α) :
    ((modify m : Step α PUnit) >>= f) p = f ⟨⟩ (m p) := rfl

theorem ite_apply (c : Prop) [Decidable c] (x y : Step α β) (p : Pipeline α) :
    (if c then x else y) p = if c then x p else y p := by
  split <;> rfl

theorem call_apply (c : Backend.Call β) (p : Pipeline α) :
    call c p = ((c.on p.backend).1, { p with backend := (c.on p.backend).2 }) := rfl

theorem record_apply (f : Telemetry → Telemetry) (p : Pipeline α) :
    record f p =
      ((), { p with backend := { p.backend with telemetry := f p.backend.telemetry } }) := rfl

theorem change_apply (c : Change) (p : Pipeline α) :
    change c p = ((), { p with backend := c.apply p.now p.backend }) := rfl

theorem setReady_apply (task : Task) (p : Pipeline α) :
    setReady task p = ((), { p with ready := p.ready ++ [task] }) := rfl

theorem setTimer_apply (wait : Nat) (task : Task) (p : Pipeline α) :
    setTimer wait task p =
      ((), if wait = 0 then { p with ready := p.ready ++ [task] }
        else { p with timers := p.timers ++ [⟨p.clock + wait, task⟩] }) := by
  simp only [setTimer, ite_apply, setReady_apply, modify_apply]
  split <;> rfl

/-! ## The worker pool -/

def scheduled (id : BatchId) (p : Pipeline α) : Pipeline α :=
  if p.pool.shutDown then p
  else { p with
    pool := { p.pool with waiting := p.pool.waiting ++ [id] }
    ready := p.ready ++ [.serve] }

def seatLeft (id : BatchId) (p : Pipeline α) : Pipeline α :=
  { p with
    pool := { p.pool with seated := p.pool.seated.erase id }
    ready := if p.pool.waiting.isEmpty then p.ready else p.ready ++ [.serve] }

theorem schedule_apply (id : BatchId) (p : Pipeline α) : schedule id p = ((), p.scheduled id) := by
  simp only [schedule, scheduled, get_bind_apply, ite_apply, pure_apply, set_bind_apply,
    setReady_apply]
  split <;> rfl

theorem announce_apply (id : BatchId) (p : Pipeline α) :
    announce id p =
      ((), match p.handler with
        | .announce => { p with announced := p.announced ++ [id] }
        | .deliver => p.scheduled id) := by
  obtain ⟨backend, gateway, buffers, pool, retention, handler, announced, ready, timers, clock,
    epoch⟩ := p
  cases handler with
  | announce => rfl
  | deliver => exact schedule_apply id _

theorem announce_of_deliver {p : Pipeline α} (delivers : p.handler = .deliver) (id : BatchId) :
    announce id p = ((), p.scheduled id) := by
  rw [announce_apply, delivers]

theorem leaveSeat_apply (id : BatchId) (p : Pipeline α) : leaveSeat id p = ((), p.seatLeft id) := by
  simp only [leaveSeat, seatLeft, modify_bind_apply, get_bind_apply, ite_apply, pure_apply,
    setReady_apply]
  cases p.pool.waiting.isEmpty <;> rfl

theorem tryDelivery_apply (id : BatchId) (retry : Nat) (p : Pipeline α) :
    tryDelivery id retry p =
      ((tryOnce p.pool.policy p.now id retry p.backend).1,
        { p with backend := (tryOnce p.pool.policy p.now id retry p.backend).2 }) := rfl

theorem deliver_zero (id : BatchId) (retry : Nat) (p : Pipeline α) :
    deliver id retry 0 p = ((), p.seatLeft id) :=
  leaveSeat_apply id p

theorem deliver_succ (id : BatchId) (retry n : Nat) (p : Pipeline α) :
    deliver id retry (n + 1) p =
      match tryOnce p.pool.policy p.now id retry p.backend with
      | (.done _, backend) => ((), ({ p with backend } : Pipeline α).seatLeft id)
      | (.wait retry span, backend) =>
        if p.pool.shutDown then ((), ({ p with backend } : Pipeline α).seatLeft id)
        else if span = 0 then deliver id retry n { p with backend }
        else setTimer span.waitMillis (.resume id retry) { p with backend } := by
  simp only [deliver]
  rw [bind_apply, tryDelivery_apply]
  rcases tryOnce p.pool.policy p.now id retry p.backend with ⟨outcome | ⟨retry, span⟩, backend⟩
  · exact leaveSeat_apply id _
  · simp only [get_bind_apply, ite_apply, leaveSeat_apply]

theorem serve_apply (p : Pipeline α) :
    serve p =
      match p.pool.waiting with
      | [] => ((), p)
      | id :: waiting =>
        if p.pool.seats ≤ p.pool.seated.length then ((), p)
        else deliver id 0 p.mostAttempts
          { p with pool := { p.pool with seated := p.pool.seated ++ [id], waiting } } := by
  simp only [serve, get_bind_apply]
  cases p.pool.waiting with
  | nil => rfl
  | cons id waiting => simp only [ite_apply, pure_apply, set_bind_apply]

/-! ## Buffers -/

theorem showBuffered_apply (p : Pipeline α) :
    showBuffered p = record (fun t => t.buffered p.buffers.count) p := rfl

theorem makeBatch_apply (key : Key) (logs : List RawLog) (p : Pipeline α) :
    makeBatch key logs p =
      match (saveBatch (.new p.backend.ids.fresh key logs p.now)).on
          { p.backend with ids := p.backend.ids.advance } with
      | (.error _, backend) => (false, { p with backend })
      | (.ok (), backend) => (true, (announce p.backend.ids.fresh { p with backend }).2) := by
  simp only [makeBatch, get_bind_apply]
  rw [bind_apply, call_apply, on_newBatch]
  dsimp only
  rw [bind_apply, call_apply]
  dsimp only
  rcases (saveBatch (.new p.backend.ids.fresh key logs p.now)).on
    { p.backend with ids := p.backend.ids.advance } with ⟨_ | _, backend⟩
  · rfl
  · rfl

theorem makeBatches_cons (key : Key) (logs : List RawLog) (rest : List (Key × List RawLog))
    (p : Pipeline α) :
    (makeBatches ((key, logs) :: rest) p).2 = (makeBatches rest (makeBatch key logs p).2).2 := rfl

theorem drainBuffers_apply (p : Pipeline α) :
    (drainBuffers p).2 =
      if p.buffers.groups.isEmpty then p
      else (makeBatches p.buffers.groups
        (showBuffered { p with buffers := p.buffers.cleared }).2).2 := by
  simp only [drainBuffers, get_bind_apply, ite_apply, pure_apply, modify_bind_apply]
  split <;> rfl

/-! ## Time and tasks -/

theorem moveTo_apply (instant : Nat) (p : Pipeline α) :
    (moveTo instant p).2 =
      { p with
        clock := instant
        ready := p.ready ++ (p.timers.filter fun t => t.due ≤ instant).map (·.task)
        timers := p.timers.filter fun t => ! decide (t.due ≤ instant) } := by
  simp only [moveTo, modify_apply, List.partition_eq_filter_filter]
  rfl

theorem moveTo_of_untimed {p : Pipeline α} (untimed : p.timers = []) (instant : Nat) :
    (moveTo instant p).2 = { p with clock := instant } := by
  rw [moveTo_apply, untimed]
  simp only [List.filter_nil, List.map_nil, List.append_nil]

variable [Quantity α]

theorem runNext_nil {p : Pipeline α} (done : p.ready = []) : (runNext p).2 = p := by
  simp only [runNext, get_bind_apply, done]
  rfl

theorem runNext_cons {p : Pipeline α} {task : Task} {ready : List Task}
    (next : p.ready = task :: ready) : (runNext p).2 = (runTask task { p with ready }).2 := by
  simp only [runNext, get_bind_apply, next]
  rfl

def turn (place : Nat) : Step α Unit := do
  let p ← get
  match p.ready[place]? with
  | none => return
  | some task =>
    set { p with ready := p.ready.eraseIdx place }
    runTask task

theorem turn_none {p : Pipeline α} {place : Nat} (absent : p.ready[place]? = none) :
    (turn place p).2 = p := by
  simp only [turn, get_bind_apply, absent]
  rfl

theorem turn_some {p : Pipeline α} {place : Nat} {task : Task}
    (found : p.ready[place]? = some task) :
    (turn place p).2 = (runTask task { p with ready := p.ready.eraseIdx place }).2 := by
  simp only [turn, get_bind_apply, found]
  rfl

theorem runTasks_succ (n : Nat) (p : Pipeline α) :
    (runTasks (n + 1) p).2 = if p.ready.isEmpty then p else (runTasks n (runNext p).2).2 := by
  simp only [runTasks, get_bind_apply, ite_apply, pure_apply]
  split <;> rfl

theorem waitForFlushes_apply (p : Pipeline α) :
    (waitForFlushes p).2 = if p.ready.any Task.isFlush then (settle p).2 else p := by
  simp only [waitForFlushes, get_bind_apply, ite_apply, pure_apply]
  split <;> rfl

theorem flushAll_apply (p : Pipeline α) :
    (flushAll p).2 = (waitForFlushes (drainBuffers p).2).2 := rfl

theorem passBefore_succ (deadline n : Nat) (p : Pipeline α) :
    (passBefore deadline (n + 1) p).2 =
      match (settle p).2.nextDue? with
      | none => (settle p).2
      | some due =>
        if due < deadline then (passBefore deadline n (moveTo due (settle p).2).2).2
        else (settle p).2 := by
  simp only [passBefore]
  rw [bind_apply, get_bind_apply]
  cases nextDue? (settle p).2 with
  | none => rfl
  | some due =>
      simp only [ite_apply, pure_apply]
      split <;> rfl

theorem passUntil_apply (deadline : Nat) (p : Pipeline α) :
    (passUntil deadline p).2 =
      (moveTo deadline (passBefore deadline (deadline - p.clock + 1) p).2).2 := rfl

theorem clock_passUntil (deadline : Nat) (p : Pipeline α) :
    (passUntil deadline p).2.clock = deadline := rfl

theorem advance_apply (millis : Nat) (p : Pipeline α) :
    (advance millis p).2 = if millis = 0 then p else (passUntil (p.clock + millis) p).2 := by
  simp only [advance, ne_eq, ite_not, ite_apply, get_bind_apply, pure_apply]
  split <;> rfl

theorem passUntilIdle_succ (n : Nat) (p : Pipeline α) :
    (passUntilIdle (n + 1) p).2 =
      if p.pool.inFlight = 0 then p
      else if (settle p).2.pool.inFlight = 0 then (settle p).2
      else
        match (settle p).2.nextDue? with
        | none => (settle p).2
        | some due => (passUntilIdle n (moveTo due (settle p).2).2).2 := by
  simp only [passUntilIdle, get_bind_apply, ite_apply, pure_apply]
  split
  · rfl
  · rw [bind_apply]
    simp only [get_bind_apply, ite_apply, pure_apply]
    split
    · rfl
    · cases nextDue? (settle p).2 <;> rfl

theorem processFrom_succ (id : BatchId) (retry n : Nat) (p : Pipeline α) :
    processFrom id retry (n + 1) p =
      match tryOnce p.pool.policy p.now id retry p.backend with
      | (.done outcome, backend) => (outcome, { p with backend })
      | (.wait retry span, backend) =>
        if p.pool.shutDown then (.interrupted, { p with backend })
        else processFrom id retry n
          (if span = 0 then { p with backend }
            else (passUntil (p.clock + span.waitMillis) { p with backend }).2) := by
  simp only [processFrom]
  rw [bind_apply, tryDelivery_apply]
  rcases tryOnce p.pool.policy p.now id retry p.backend with ⟨outcome | ⟨retry, span⟩, backend⟩
  · rfl
  · simp only [get_bind_apply, ite_apply, pure_apply]
    by_cases closed : p.pool.shutDown = true
    · simp only [closed, if_true]
    · simp only [closed]
      by_cases short : span = 0
      · simp only [short, ne_eq, not_true_eq_false, if_false, if_true]
      · simp only [short, ne_eq, not_false_eq_true, if_true, if_false]
        rfl

/-! ## Nothing to do -/

theorem settle_of_idle {p : Pipeline α} (done : p.ready = []) : (settle p).2 = p := by
  have still : ∀ n, (runTasks n p).2 = p := by
    intro n
    cases n with
    | zero => rfl
    | succ n => rw [runTasks_succ, done, List.isEmpty_nil, if_pos rfl]
  exact still _

theorem advance_of_idle {p : Pipeline α} (done : p.ready = []) (untimed : p.timers = [])
    (millis : Nat) :
    (advance millis p).2 = { p with clock := p.clock + millis } := by
  have still : ∀ deadline n, (passBefore deadline n p).2 = p := by
    intro deadline n
    cases n with
    | zero => rfl
    | succ n =>
        have never : p.nextDue? = none := by rw [nextDue?, untimed]; rfl
        rw [passBefore_succ, settle_of_idle done, never]
  rw [advance_apply]
  split <;> rename_i zero
  · rw [zero]
    rfl
  · rw [passUntil_apply, still, moveTo_of_untimed untimed]

/-! ## What tasks and time keep -/

structure KeptByTime (holds : Pipeline α → Prop) : Prop where
  runNext : ∀ p, holds p → holds (runNext p).2
  moveTo : ∀ p instant, holds p → holds (moveTo instant p).2

namespace KeptByTime

variable {holds : Pipeline α → Prop} {p : Pipeline α}

theorem runTasks (kept : KeptByTime holds) (start : holds p) (n : Nat) :
    holds (runTasks n p).2 := by
  induction n generalizing p with
  | zero => exact start
  | succ n ih =>
      rw [runTasks_succ]
      split
      · exact start
      · exact ih (kept.runNext p start)

theorem settle (kept : KeptByTime holds) (start : holds p) : holds (settle p).2 :=
  kept.runTasks start _

theorem passBefore (kept : KeptByTime holds) (start : holds p) (deadline n : Nat) :
    holds (passBefore deadline n p).2 := by
  induction n generalizing p with
  | zero => exact start
  | succ n ih =>
      have settled := kept.settle start
      rw [passBefore_succ]
      cases nextDue? (Pipeline.settle p).2 with
      | none => exact settled
      | some due =>
          dsimp only
          split
          · exact ih (kept.moveTo _ due settled)
          · exact settled

theorem passUntil (kept : KeptByTime holds) (start : holds p) (deadline : Nat) :
    holds (passUntil deadline p).2 := by
  rw [passUntil_apply]
  exact kept.moveTo _ deadline (kept.passBefore start deadline _)

theorem advance (kept : KeptByTime holds) (start : holds p) (millis : Nat) :
    holds (advance millis p).2 := by
  rw [advance_apply]
  split
  · exact start
  · exact kept.passUntil start _

end KeptByTime

end LogPipeline.Pipeline
