import LogPipeline.Proofs.Pipeline.Draining

namespace LogPipeline

open Backend

/-! ## What becomes of batches -/

inductive Mark where
  | scheduled (id : BatchId)
  | attempted (id : BatchId) (retry : Nat)
  | ended (id : BatchId)
  deriving DecidableEq, Repr

namespace Mark

def scheduled? : Mark → Option BatchId
  | .scheduled id => some id
  | _ => none

def begun? : Mark → Option BatchId
  | .attempted id 0 => some id
  | _ => none

def ended? : Mark → Option BatchId
  | .ended id => some id
  | _ => none

end Mark

def scheduledIn (marks : List Mark) : List BatchId :=
  marks.filterMap Mark.scheduled?

def begunIn (marks : List Mark) : List BatchId :=
  marks.filterMap Mark.begun?

def endedIn (marks : List Mark) : List BatchId :=
  marks.filterMap Mark.ended?

theorem scheduledIn_append (first rest : List Mark) :
    scheduledIn (first ++ rest) = scheduledIn first ++ scheduledIn rest :=
  List.filterMap_append

theorem begunIn_append (first rest : List Mark) :
    begunIn (first ++ rest) = begunIn first ++ begunIn rest :=
  List.filterMap_append

theorem endedIn_append (first rest : List Mark) :
    endedIn (first ++ rest) = endedIn first ++ endedIn rest :=
  List.filterMap_append

def Task.IsDelivery : Task → Prop
  | .serve => True
  | .resume _ retry => retry ≠ 0
  | _ => False

namespace Pipeline

variable {α : Type}

def deliverMarks (id : BatchId) (retry : Nat) : Nat → Pipeline α → List Mark
  | 0, _ => [.ended id]
  | attempts + 1, p =>
    .attempted id retry ::
      match tryOnce p.pool.policy p.now id retry p.backend with
      | (.done _, _) => [.ended id]
      | (.wait retry span, backend) =>
        if p.pool.shutDown then [.ended id]
        else if span = 0 then deliverMarks id retry attempts { p with backend }
        else []

def serveMarks (p : Pipeline α) : List Mark :=
  match p.pool.waiting with
  | [] => []
  | id :: waiting =>
    if p.pool.seats ≤ p.pool.seated.length then []
    else deliverMarks id 0 p.mostAttempts
      { p with pool := { p.pool with seated := p.pool.seated ++ [id], waiting } }

def taskMarks : Task → Pipeline α → List Mark
  | .serve, p => serveMarks p
  | .resume id retry, p => deliverMarks id retry p.mostAttempts p
  | _, _ => []

def processing (p : Pipeline α) : List BatchId :=
  (p.resuming ++ p.pausing).map Prod.fst

variable {p q r : Pipeline α} {seats : Nat} {id : BatchId} {retry : Nat}

/-! ## A delivery -/

theorem scheduledIn_deliverMarks (id : BatchId) (retry n : Nat) (p : Pipeline α) :
    scheduledIn (deliverMarks id retry n p) = [] := by
  induction n generalizing retry p with
  | zero => rfl
  | succ n ih =>
      rw [deliverMarks]
      split
      · rfl
      · split
        · rfl
        · split
          · exact ih _ _
          · rfl

theorem begunIn_deliverMarks (id : BatchId) (n : Nat) (p : Pipeline α) :
    (∀ retry, retry ≠ 0 → begunIn (deliverMarks id retry n p) = []) ∧
      (n ≠ 0 → begunIn (deliverMarks id 0 n p) = [id]) := by
  induction n generalizing p with
  | zero => exact ⟨fun _ _ => rfl, fun none => absurd rfl none⟩
  | succ n ih =>
      -- What follows an attempt is none of the first attempts.
      have rest (retry : Nat) : begunIn (deliverMarks id retry (n + 1) p) =
          begunIn [.attempted id retry] := by
        rw [deliverMarks]
        split
        · cases retry <;> rfl
        · rename_i next span backend tried
          obtain ⟨rfl, -⟩ := eq_of_wait tried
          have later := (ih { p with backend }).1 (retry + 1) (Nat.succ_ne_zero retry)
          split
          · cases retry <;> rfl
          · split
            · rw [← List.singleton_append, begunIn_append, later, List.append_nil]
            · rfl
      refine ⟨fun retry more => ?_, fun _ => rest 0⟩
      rw [rest]
      cases retry with
      | zero => exact absurd rfl more
      | succ retry => rfl

theorem deliver_cases (running : p.pool.shutDown = false) (id : BatchId) (retry n : Nat) :
    ∃ backend, endedIn (deliverMarks id retry n p) = [id] ∧
        (deliver id retry n p).2 = ({ p with backend } : Pipeline α).seatLeft id ∨
      endedIn (deliverMarks id retry n p) = [] ∧ ∃ due next, (deliver id retry n p).2 =
        { p with backend, timers := p.timers ++ [⟨due, .resume id (next + 1)⟩] } := by
  induction n generalizing retry p with
  | zero => exact ⟨p.backend, .inl ⟨rfl, by rw [deliver_zero]⟩⟩
  | succ n ih =>
      rw [deliver_succ, deliverMarks]
      cases tried : tryOnce p.pool.policy p.now id retry p.backend with
      | mk next after =>
          cases next with
          | done outcome => exact ⟨after, .inl ⟨rfl, rfl⟩⟩
          | wait next span =>
              obtain ⟨rfl, -⟩ := eq_of_wait tried
              simp only [running, Bool.false_eq_true, if_false]
              by_cases short : span = 0
              · simp only [short, if_true]
                exact ih (p := { p with backend := after }) running (retry + 1)
              · simp only [short, if_false, setTimer_apply, Nanos.waitMillis_ne_zero short]
                exact ⟨after, .inr ⟨rfl, _, _, rfl⟩⟩

/-! ## Seats -/

/-- Every seat is that of a batch that is being processed, or is at work right now. While a seat is
free, a task is ready for each batch that could take one. -/
structure Staffed (seats : Nat) (working : List BatchId) (p : Pipeline α) : Prop where
  running : p.pool.shutDown = false
  capacity : p.pool.seats = seats
  ready : ∀ task ∈ p.ready, task.IsDelivery
  timers : ∀ timer ∈ p.timers, timer.task.IsDelivery
  seated : p.pool.seated.Perm (working ++ p.processing)
  within : p.pool.seated.length ≤ seats
  served : min p.pool.waiting.length (seats - p.pool.seated.length) ≤
    p.ready.countP Task.isServe

theorem Staffed.of_same (staffed : Staffed seats [] p) (pool : q.pool = p.pool)
    (ready : q.ready = p.ready) (timers : q.timers = p.timers) : Staffed seats [] q where
  running := by rw [pool]; exact staffed.running
  capacity := by rw [pool]; exact staffed.capacity
  ready := by rw [ready]; exact staffed.ready
  timers := by rw [timers]; exact staffed.timers
  seated := by
    rw [pool, processing, resuming, pausing, ready, timers]
    exact staffed.seated
  within := by rw [pool]; exact staffed.within
  served := by rw [pool, ready]; exact staffed.served

theorem Staffed.scheduled (staffed : Staffed seats [] p) (id : BatchId) :
    Staffed seats [] (p.scheduled id) := by
  simp only [Pipeline.scheduled, staffed.running, Bool.false_eq_true, if_false]
  exact
    { staffed with
      running := rfl
      ready := forall_mem_append_singleton staffed.ready trivial
      seated := by
        simpa [processing, resuming, pausing, List.filterMap_cons] using staffed.seated
      served := by
        have served := staffed.served
        simp only [List.length_append, List.length_singleton, List.countP_append,
          List.countP_singleton, Task.isServe, if_true]
        omega }

theorem Staffed.moveTo (staffed : Staffed seats [] p) (instant : Nat) :
    Staffed seats [] (moveTo instant p).2 := by
  have timed := (List.filter_append_perm (fun timer : Timer => timer.due ≤ instant)
    p.timers).filterMap fun timer => timer.task.resumed?
  rw [moveTo_apply]
  exact
    { staffed with
      ready := by
        refine List.forall_mem_append.mpr ⟨staffed.ready, fun task member => ?_⟩
        obtain ⟨timer, among, rfl⟩ := List.mem_map.mp member
        exact staffed.timers timer (List.mem_filter.mp among).1
      timers := fun timer member => staffed.timers timer (List.mem_filter.mp member).1
      seated := by
        refine staffed.seated.trans (.map Prod.fst ?_)
        rw [List.filterMap_append] at timed
        simp only [resuming, pausing, List.filterMap_append, List.filterMap_map, List.append_assoc]
        exact .append_left _ timed.symm
      served := by
        rw [List.countP_append]
        exact Nat.le_add_right_of_le staffed.served }

theorem Staffed.seatLeft (staffed : Staffed seats [id] p) : Staffed seats [] (p.seatLeft id) := by
  have left : (p.pool.seated.erase id).Perm p.processing := by
    have erased := staffed.seated.erase id
    rwa [List.singleton_append, List.erase_cons_head] at erased
  have one := staffed.seated.length_eq
  have fewer := left.length_eq
  have within := staffed.within
  have served := staffed.served
  rw [List.length_append, List.length_singleton] at one
  unfold Pipeline.seatLeft
  exact
    { running := staffed.running
      capacity := staffed.capacity
      ready := by
        dsimp only
        split
        · exact staffed.ready
        · exact forall_mem_append_singleton staffed.ready trivial
      timers := staffed.timers
      seated := by
        refine left.trans (.of_eq ?_)
        simp only [processing, resuming, pausing]
        split <;> simp [List.filterMap_cons]
      within := by
        dsimp only
        omega
      served := by
        dsimp only
        cases waits : p.pool.waiting with
        | nil => exact Nat.le_trans (Nat.min_le_left _ _) (Nat.zero_le _)
        | cons next others =>
            rw [waits] at served
            simp only [List.isEmpty_cons, Bool.false_eq_true, if_false, List.countP_append,
              List.countP_singleton, Task.isServe, if_true, List.length_cons] at served ⊢
            omega }

theorem Staffed.pause (staffed : Staffed seats [id] p) (due next : Nat) :
    Staffed seats [] { p with timers := p.timers ++ [⟨due, .resume id (next + 1)⟩] } where
  running := staffed.running
  capacity := staffed.capacity
  ready := staffed.ready
  timers := forall_mem_append_singleton staffed.timers (Nat.succ_ne_zero next)
  seated := by
    refine staffed.seated.trans ?_
    simp only [processing, resuming, pausing, List.filterMap_append, List.map_append,
      List.nil_append, ← List.append_assoc]
    exact (List.perm_append_singleton id _).symm
  within := staffed.within
  served := staffed.served

theorem Staffed.deliver (staffed : Staffed seats [id] p) (retry n : Nat) :
    Staffed seats [] (deliver id retry n p).2 ∧
      (Pipeline.deliver id retry n p).2.pool.waiting = p.pool.waiting ∧
      p.pool.seated.Perm
        (endedIn (deliverMarks id retry n p) ++ (Pipeline.deliver id retry n p).2.pool.seated) ∧
      (Pipeline.deliver id retry n p).2.load ≤ p.load + 1 := by
  have member : id ∈ p.pool.seated :=
    staffed.seated.mem_iff.mpr (List.mem_append_left _ (List.mem_singleton_self id))
  obtain ⟨backend, ⟨ended, left⟩ | ⟨goesOn, due, next, waits⟩⟩ :=
    deliver_cases staffed.running id retry n
  · rw [left, ended]
    have still : Staffed seats [id] ({ p with backend } : Pipeline α) := { staffed with }
    exact ⟨still.seatLeft, rfl, List.perm_cons_erase member, load_seatLeft_le id _⟩
  · rw [waits, goesOn]
    have still : Staffed seats [id] ({ p with backend } : Pipeline α) := { staffed with }
    exact ⟨still.pause due next, rfl, .refl _, Nat.le_succ _⟩

/-! ## Tasks -/

/-- How the waiting and the seated batches change from one pipeline to another, and at no instant
between them are there more batches with a seat than seats. -/
structure Staged (seats : Nat) (p : Pipeline α) (marks : List Mark) (q : Pipeline α) : Prop where
  waiting : p.pool.waiting ++ scheduledIn marks = begunIn marks ++ q.pool.waiting
  seated : (p.pool.seated ++ begunIn marks).Perm (endedIn marks ++ q.pool.seated)
  bounded : ∀ front, front <+: marks →
    p.pool.seated.length + (begunIn front).length ≤ (endedIn front).length + seats

variable {first rest : List Mark}

theorem Staged.refl (within : p.pool.seated.length ≤ seats) (pool : q.pool = p.pool) :
    Staged seats p [] q where
  waiting := by
    rw [pool]
    exact List.append_nil _
  seated := by
    rw [pool]
    exact .of_eq (List.append_nil _)
  bounded front before := by
    rw [List.prefix_nil.mp before]
    exact Nat.le_trans within (Nat.le_add_left _ _)

theorem Staged.trans (one : Staged seats p first q) (other : Staged seats q rest r) :
    Staged seats p (first ++ rest) r where
  waiting := by
    rw [scheduledIn_append, begunIn_append, ← List.append_assoc, one.waiting, List.append_assoc,
      other.waiting, List.append_assoc]
  seated := by
    rw [begunIn_append, endedIn_append, ← List.append_assoc, List.append_assoc (endedIn first)]
    refine (one.seated.append_right _).trans ?_
    rw [List.append_assoc]
    exact other.seated.append_left _
  bounded front before := by
    rcases prefix_append_cases before with early | ⟨more, rfl, late⟩
    · exact one.bounded front early
    · have taken := one.seated.length_eq
      have later := other.bounded more late
      simp only [begunIn_append, endedIn_append, List.length_append] at taken ⊢
      omega

theorem Staffed.staged_deliver (staffed : Staffed seats [id] q) {retry n : Nat}
    (waiting : p.pool.waiting = begunIn (deliverMarks id retry n q) ++ q.pool.waiting)
    (seated : q.pool.seated = p.pool.seated ++ begunIn (deliverMarks id retry n q)) :
    Staged seats p (deliverMarks id retry n q) (Pipeline.deliver id retry n q).2 := by
  obtain ⟨-, still, ended, -⟩ := staffed.deliver retry n
  refine ⟨?_, ?_, fun front before => ?_⟩
  · rw [scheduledIn_deliverMarks, List.append_nil, still, waiting]
  · rw [← seated]
    exact ended
  · have fewer : (begunIn front).length ≤ (begunIn (deliverMarks id retry n q)).length :=
      (before.sublist.filterMap Mark.begun?).length_le
    have within := staffed.within
    rw [seated, List.length_append] at within
    omega

variable {task : Task} {tasks : List Task}

theorem processing_take (among : p.ready.Perm (task :: tasks)) :
    p.processing.Perm ((task.resumed?.map Prod.fst).toList ++
      ({ p with ready := tasks } : Pipeline α).processing) := by
  have resumes := ((among.filterMap Task.resumed?).append_right p.pausing).map Prod.fst
  cases resumed : task.resumed? with
  | none =>
      rw [List.filterMap_cons_none resumed] at resumes
      exact resumes
  | some attempt =>
      rw [List.filterMap_cons_some resumed] at resumes
      exact resumes

theorem Staffed.take_serve (staffed : Staffed seats [] p) (among : p.ready.Perm (.serve :: tasks))
    (nobody : min p.pool.waiting.length (seats - p.pool.seated.length) = 0) :
    Staffed seats [] { p with ready := tasks } :=
  { staffed with
    ready := fun task member =>
      staffed.ready task (among.mem_iff.mpr (List.mem_cons_of_mem _ member))
    seated := staffed.seated.trans (processing_take among)
    served := Nat.le_trans (Nat.le_of_eq nobody) (Nat.zero_le _) }

theorem Staffed.take_seat (staffed : Staffed seats [] p) (among : p.ready.Perm (.serve :: tasks))
    {waiting : List BatchId} (waits : p.pool.waiting = id :: waiting)
    (free : p.pool.seated.length < seats) :
    Staffed seats [id] { p with
      ready := tasks
      pool := { p.pool with seated := p.pool.seated ++ [id], waiting } } where
  running := staffed.running
  capacity := staffed.capacity
  ready task member := staffed.ready task (among.mem_iff.mpr (List.mem_cons_of_mem _ member))
  timers := staffed.timers
  seated := by
    refine (List.perm_append_singleton id _).trans (.cons id ?_)
    exact staffed.seated.trans (processing_take among)
  within := by
    rw [List.length_append]
    exact free
  served := by
    have served := staffed.served
    have serves := among.countP_eq Task.isServe
    rw [waits, serves, List.countP_cons_of_pos rfl] at served
    simp only [List.length_cons, List.length_append, List.length_nil] at served ⊢
    omega

theorem Staffed.take_resume (staffed : Staffed seats [] p)
    (among : p.ready.Perm (.resume id retry :: tasks)) :
    Staffed seats [id] { p with ready := tasks } :=
  { staffed with
    ready := fun task member =>
      staffed.ready task (among.mem_iff.mpr (List.mem_cons_of_mem _ member))
    seated := staffed.seated.trans (processing_take among)
    served := by
      have serves := among.countP_eq Task.isServe
      rw [List.countP_cons_of_neg Bool.false_ne_true] at serves
      exact serves ▸ staffed.served }

theorem Staffed.serve (staffed : Staffed seats [] p) (among : p.ready.Perm (.serve :: tasks)) :
    Staffed seats [] (serve { p with ready := tasks }).2 ∧
      Staged seats p (serveMarks { p with ready := tasks })
        (Pipeline.serve { p with ready := tasks }).2 ∧
      (Pipeline.serve { p with ready := tasks }).2.load < p.load := by
  have load := load_take among
  simp only [taskLoad] at load
  rw [serve_apply, serveMarks]
  cases waits : p.pool.waiting with
  | nil =>
      have nobody : min p.pool.waiting.length (seats - p.pool.seated.length) = 0 := by
        rw [waits]
        exact Nat.zero_min _
      refine ⟨staffed.take_serve among nobody, .refl staffed.within rfl, ?_⟩
      dsimp only
      omega
  | cons id waiting =>
      have capacity := staffed.capacity
      dsimp only
      by_cases full : p.pool.seats ≤ p.pool.seated.length
      · rw [if_pos full, if_pos full]
        refine ⟨staffed.take_serve among (by omega), .refl staffed.within rfl, ?_⟩
        dsimp only
        omega
      · rw [if_neg full, if_neg full]
        have seat := staffed.take_seat among waits (capacity ▸ Nat.lt_of_not_le full)
        have begun := (begunIn_deliverMarks id (mostAttempts { p with ready := tasks }) { p with
          ready := tasks
          pool := { p.pool with seated := p.pool.seated ++ [id], waiting } }).2 (Nat.succ_ne_zero _)
        obtain ⟨done, -, -, less⟩ := seat.deliver 0 (mostAttempts { p with ready := tasks })
        refine ⟨done, seat.staged_deliver ?_ ?_, Nat.lt_of_le_of_lt less ?_⟩
        · rw [begun, waits]
          rfl
        · rw [begun]
        · simp only [load_eq, waits, List.length_cons] at load ⊢
          omega

theorem Staffed.resume (staffed : Staffed seats [] p)
    (among : p.ready.Perm (.resume id retry :: tasks)) (n : Nat) :
    Staffed seats [] (Pipeline.deliver id retry n { p with ready := tasks }).2 ∧
      Staged seats p (deliverMarks id retry n { p with ready := tasks })
        (Pipeline.deliver id retry n { p with ready := tasks }).2 ∧
      (Pipeline.deliver id retry n { p with ready := tasks }).2.load < p.load := by
  have load := load_take among
  have again : retry ≠ 0 := staffed.ready _ (among.mem_iff.mpr List.mem_cons_self)
  have begun := (begunIn_deliverMarks id n { p with ready := tasks }).1 retry again
  have seat := staffed.take_resume among
  obtain ⟨done, -, -, less⟩ := seat.deliver retry n
  refine ⟨done, seat.staged_deliver ?_ ?_, Nat.lt_of_le_of_lt less ?_⟩
  · rw [begun]
    rfl
  · rw [begun, List.append_nil]
  · rw [← load]
    exact Nat.lt_succ_self _

/-! ## Places and turns -/

structure InTurn (seats : Nat) (marks : List Mark) (p : Pipeline α) : Prop where
  /-- At no instant are more deliveries begun and not ended than there are seats. -/
  bounded : ∀ front, front <+: marks → (begunIn front).length ≤ (endedIn front).length + seats
  /-- Deliveries begin in the order in which the batches were scheduled. -/
  order : scheduledIn marks = begunIn marks ++ p.pool.waiting
  processed : (begunIn marks).Perm (endedIn marks ++ p.processing)
  within : p.processing.length ≤ seats
  full : p.ready = [] → p.pool.waiting ≠ [] → p.processing.length = seats
  inFlight : p.pool.inFlight = p.pool.waiting.length + p.processing.length

theorem Staffed.inTurn {marks : List Mark} (staffed : Staffed seats [] q)
    (staged : Staged seats p marks q) (waiting : p.pool.waiting = [])
    (seated : p.pool.seated = []) : InTurn seats marks q where
  bounded front before := by
    have bounded := staged.bounded front before
    rwa [seated, List.length_nil, Nat.zero_add] at bounded
  order := by
    have order := staged.waiting
    rwa [waiting] at order
  processed := by
    have taken := staged.seated
    rw [seated] at taken
    exact taken.trans (staffed.seated.append_left _)
  within := staffed.seated.length_eq ▸ staffed.within
  full settled waits := by
    have served := staffed.served
    have within := staffed.within
    have some := List.length_pos_of_ne_nil waits
    have same := staffed.seated.length_eq
    rw [settled, List.countP_nil] at served
    rw [List.nil_append] at same
    omega
  inFlight := congrArg (q.pool.waiting.length + ·) staffed.seated.length_eq

/-! ## Runs -/

inductive PoolEvent where
  | schedule (id : BatchId)
  | turn (place : Nat)
  | wait (instant : Nat)
  | outside (change : Backend → Backend)

variable [Quantity α]

def poolStep (p : Pipeline α) : PoolEvent → Pipeline α
  | .schedule id => (schedule id p).2
  | .turn place => (turn place p).2
  | .wait instant => (moveTo instant p).2
  | .outside change => { p with backend := change p.backend }

def poolMarks (p : Pipeline α) : PoolEvent → List Mark
  | .schedule id => if p.pool.shutDown then [] else [.scheduled id]
  | .turn place =>
    match p.ready[place]? with
    | none => []
    | some task => taskMarks task { p with ready := p.ready.eraseIdx place }
  | .wait _ | .outside _ => []

def poolRun (p : Pipeline α) : List PoolEvent → List Mark × Pipeline α
  | [] => ([], p)
  | event :: rest =>
    let (later, final) := poolRun (p.poolStep event) rest
    (p.poolMarks event ++ later, final)

theorem poolRun_concat (p : Pipeline α) (events : List PoolEvent) (last : PoolEvent) :
    (p.poolRun (events ++ [last])).2 = (p.poolRun events).2.poolStep last := by
  induction events generalizing p with
  | nil => rfl
  | cons event rest ih => exact ih (p.poolStep event)

theorem Staffed.runTask (staffed : Staffed seats [] p) (among : p.ready.Perm (task :: tasks)) :
    Staffed seats [] (runTask task { p with ready := tasks }).2 ∧
      Staged seats p (taskMarks task { p with ready := tasks })
        (Pipeline.runTask task { p with ready := tasks }).2 ∧
      (Pipeline.runTask task { p with ready := tasks }).2.load < p.load := by
  have own := staffed.ready task (among.mem_iff.mpr List.mem_cons_self)
  cases task with
  | serve => exact staffed.serve among
  | resume id retry => exact staffed.resume among p.mostAttempts
  | _ => exact own.elim

theorem Staffed.poolStep (staffed : Staffed seats [] p) (event : PoolEvent) :
    Staffed seats [] (p.poolStep event) ∧
      Staged seats p (p.poolMarks event) (p.poolStep event) := by
  cases event with
  | schedule id =>
      rw [Pipeline.poolStep, schedule_apply, poolMarks, staffed.running]
      refine ⟨staffed.scheduled id, ?_⟩
      simp only [Pipeline.scheduled, staffed.running, Bool.false_eq_true, if_false]
      refine ⟨rfl, .of_eq (List.append_nil _), fun front before => ?_⟩
      have none : begunIn front = [] :=
        List.sublist_nil.mp (before.sublist.filterMap Mark.begun?)
      rw [none]
      exact Nat.le_trans staffed.within (Nat.le_add_left _ _)
  | turn place =>
      rw [Pipeline.poolStep, poolMarks]
      cases found : p.ready[place]? with
      | none =>
          rw [turn_none found]
          exact ⟨staffed, .refl staffed.within rfl⟩
      | some task =>
          rw [turn_some found]
          obtain ⟨within, rfl⟩ := List.getElem?_eq_some_iff.mp found
          obtain ⟨done, staged, -⟩ :=
            staffed.runTask (List.getElem_cons_eraseIdx_perm within).symm
          exact ⟨done, staged⟩
  | wait instant => exact ⟨staffed.moveTo instant, .refl staffed.within rfl⟩
  | outside change => exact ⟨staffed.of_same rfl rfl rfl, .refl staffed.within rfl⟩

theorem Staffed.poolRun (staffed : Staffed seats [] p) (events : List PoolEvent) :
    Staffed seats [] (p.poolRun events).2 ∧
      Staged seats p (p.poolRun events).1 (p.poolRun events).2 := by
  induction events generalizing p with
  | nil => exact ⟨staffed, .refl staffed.within rfl⟩
  | cons event rest ih =>
      obtain ⟨next, first⟩ := staffed.poolStep event
      obtain ⟨final, later⟩ := ih next
      exact ⟨final, first.trans later⟩

theorem Staffed.ready_settle (staffed : Staffed seats [] p) : (settle p).2.ready = [] := by
  refine ready_runTasks (Staffed seats []) (fun q task rest staffed next => ?_) staffed
    (Nat.le_refl _)
  rw [runNext_cons next]
  obtain ⟨done, -, less⟩ := staffed.runTask (.of_eq next)
  exact ⟨done, less⟩

theorem turn_zero (p : Pipeline α) : (turn 0 p).2 = (runNext p).2 := by
  cases next : p.ready with
  | nil =>
      rw [runNext_nil next]
      exact turn_none (by rw [next]; rfl)
  | cons task rest =>
      have found : p.ready[0]? = some task := by rw [next]; rfl
      rw [turn_some found, runNext_cons next, next]
      rfl

theorem keptByTime_poolRun (p : Pipeline α) (events : List PoolEvent) :
    KeptByTime fun q => ∃ more, q = (p.poolRun (events ++ more)).2 where
  runNext q := by
    rintro ⟨more, rfl⟩
    refine ⟨more ++ [.turn 0], ?_⟩
    rw [← List.append_assoc, poolRun_concat, ← turn_zero]
    rfl
  moveTo q instant := by
    rintro ⟨more, rfl⟩
    refine ⟨more ++ [.wait instant], ?_⟩
    rw [← List.append_assoc, poolRun_concat]
    rfl

/-- Whatever happens to a worker pool, at most as many batches are being processed as it has seats,
those that wait for another attempt included; batches begin in the order in which they were
scheduled; and when nothing is ready, a batch waits only while all seats are taken. -/
theorem seats_in_turn (backend : Backend) (epoch : Int) (policy : RetryPolicy) (workers : Nat)
    (events : List PoolEvent) :
    let start : Pipeline α := { idle backend epoch with pool := .new policy workers }
    let p := (start.poolRun events).2
    InTurn (max workers 1) (start.poolRun events).1 p ∧ (settle p).2.ready = [] ∧
      (∃ more, (settle p).2 = (start.poolRun (events ++ more)).2) ∧
      ∀ millis, ∃ more, (advance millis p).2 = (start.poolRun (events ++ more)).2 := by
  intro start p
  have fresh : Staffed (max workers 1) [] start :=
    { running := rfl
      capacity := rfl
      ready := List.forall_mem_nil _
      timers := List.forall_mem_nil _
      seated := .refl _
      within := Nat.zero_le _
      served := Nat.le_of_eq (Nat.zero_min _) }
  obtain ⟨staffed, staged⟩ := fresh.poolRun events
  have kept := keptByTime_poolRun start events
  have here : ∃ more, p = (start.poolRun (events ++ more)).2 := ⟨[], by rw [List.append_nil]⟩
  exact ⟨staffed.inTurn staged rfl rfl, staffed.ready_settle, kept.settle here,
    fun millis => kept.advance here millis⟩

example :
    let start : Pipeline Rat := { idle (.knowing soleBatch) 0 with pool := .new ⟨1, 5⟩ 0 }
    let p := (start.poolRun [.outside ((Change.refuseNext 1).apply ⟨0, 0⟩), .schedule soleBatch.id,
      .schedule soleBatch.id, .turn 1, .turn 0]).2
    p.ready.isEmpty ∧ p.processing = [soleBatch.id] ∧ p.pool.waiting = [soleBatch.id] := by
  decide +kernel

end Pipeline

end LogPipeline
