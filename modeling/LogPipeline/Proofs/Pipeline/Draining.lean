import LogPipeline.Proofs.Delivery.RetryPolicy
import LogPipeline.Proofs.Pipeline.Orderly

/-!
# Work within an instant

While time stands still, all ready tasks are done, and those that they lead to. What is done
meanwhile makes each attempt that is owed, and the first attempt of each batch that is made. An
attempt that fails is followed by a wait, so none is made twice.
-/

namespace LogPipeline.Pipeline

open Backend

variable {α : Type}

/-! ## The deeds of a piece of work -/

def deliverDeeds (id : BatchId) (retry : Nat) : Nat → Pipeline α → List Deed
  | 0, _ => []
  | attempts + 1, p =>
    .attempt id retry ::
      match tryOnce p.pool.policy p.now id retry p.backend with
      | (.done _, _) => []
      | (.wait retry span, backend) =>
        if p.pool.shutDown then []
        else if span = 0 then deliverDeeds id retry attempts { p with backend }
        else []

def serveDeeds (p : Pipeline α) : List Deed :=
  match p.pool.waiting with
  | [] => []
  | id :: waiting =>
    if p.pool.seats ≤ p.pool.seated.length then []
    else deliverDeeds id 0 p.mostAttempts
      { p with pool := { p.pool with seated := p.pool.seated ++ [id], waiting } }

def makeDeeds (key : Key) (logs : List RawLog) (p : Pipeline α) : List Deed :=
  if (makeBatch key logs p).1 then [.make p.backend.ids.fresh] else []

def makeAllDeeds : List Group → Pipeline α → List Deed
  | [], _ => []
  | (key, logs) :: rest, p => makeDeeds key logs p ++ makeAllDeeds rest (makeBatch key logs p).2

def drainDeeds (p : Pipeline α) : List Deed :=
  makeAllDeeds p.buffers.groups (showBuffered { p with buffers := p.buffers.cleared }).2

def jobDeeds : JobKind → Pipeline α → List Deed
  | .flushBuffers, p => drainDeeds p
  | .cleanUp, _ => [.cleanUp]
  | .refillLimiter, _ | .evictDecisions, _ => []

def taskDeeds : Task → Pipeline α → List Deed
  | .flush key logs, p => makeDeeds key logs p
  | .serve, p => serveDeeds p
  | .resume id retry, p => deliverDeeds id retry p.mostAttempts p
  | .run job, p => jobDeeds job.kind (setTimer job.period (.run job) p).2
  | .change _, _ => []

def tasksDeeds [Quantity α] : Nat → Pipeline α → List Deed
  | 0, _ => []
  | n + 1, p =>
    match p.ready with
    | [] => []
    | task :: ready => taskDeeds task { p with ready } ++ tasksDeeds n (runNext p).2

def settleDeeds [Quantity α] (p : Pipeline α) : List Deed :=
  tasksDeeds p.load p

def flushAllDeeds [Quantity α] (p : Pipeline α) : List Deed :=
  let drained := (drainBuffers p).2
  drainDeeds p ++ if drained.ready.any Task.isFlush then settleDeeds drained else []

/-! ## What a piece of work does -/

/-- The deeds are done at one instant. Of the attempts that were owed, or that are owed since a
batch was made, those that are not among the deeds are owed still. -/
structure Carries (p : Pipeline α) (deeds : List Deed) (q : Pipeline α) : Prop where
  setting : q.pool.policy = p.pool.policy ∧ q.retention = p.retention ∧ q.clock = p.clock ∧
    q.epoch = p.epoch
  course : Course p.pool.policy p.retention p.now p.backend deeds q.backend
  owed : (p.owed ++ (madeIn deeds).map fun id => (id, 0)).Perm (attemptsIn deeds ++ q.owed)

structure Proceeds (p : Pipeline α) (deeds : List Deed) (q : Pipeline α) : Prop extends
    Carries p deeds q where
  orderly : Orderly q
  shutDown : q.pool.shutDown = p.pool.shutDown
  ready : ∀ task ∈ q.ready, task.isFlush = true ∨ task.isJob = true → task ∈ p.ready
  timers : ∃ later, q.timers = p.timers ++ later ∧
    ∀ timer ∈ later, timer.task.isJob = true → timer.task ∈ p.ready
  cleanUp : .cleanUp ∈ deeds → ∃ period, Task.run ⟨.cleanUp, period⟩ ∈ p.ready
  drained : Drained p → Drained q

variable {p q r : Pipeline α} {first rest : List Deed}

theorem Carries.same (course : Course p.pool.policy p.retention p.now p.backend [] q.backend)
    (setting : q.pool.policy = p.pool.policy ∧ q.retention = p.retention ∧ q.clock = p.clock ∧
      q.epoch = p.epoch) (owed : p.owed.Perm q.owed) : Carries p [] q :=
  ⟨setting, course, (List.append_nil p.owed).symm ▸ owed⟩

theorem Carries.trans (one : Carries p first q) (other : Carries q rest r) :
    Carries p (first ++ rest) r where
  setting := by
    obtain ⟨policy, retention, clock, epoch⟩ := other.setting
    rw [policy, retention, clock, epoch]
    exact one.setting
  course := by
    obtain ⟨policy, retention, clock, epoch⟩ := one.setting
    have later := other.course
    rw [policy, retention, now, clock, epoch] at later
    exact one.course.trans later
  owed := by
    rw [madeIn_append, attemptsIn_append, List.map_append, ← List.append_assoc p.owed,
      List.append_assoc (attemptsIn first)]
    refine (one.owed.append_right _).trans ?_
    rw [List.append_assoc]
    exact other.owed.append_left _

theorem Proceeds.refl (orderly : Orderly p) : Proceeds p [] p where
  toCarries := .same (.still _) ⟨rfl, rfl, rfl, rfl⟩ (.refl _)
  orderly := orderly
  shutDown := rfl
  ready _ member _ := member
  timers := ⟨[], (List.append_nil _).symm, List.forall_mem_nil _⟩
  cleanUp := nofun
  drained := id

theorem Proceeds.trans (one : Proceeds p first q) (other : Proceeds q rest r) :
    Proceeds p (first ++ rest) r where
  toCarries := one.toCarries.trans other.toCarries
  orderly := other.orderly
  shutDown := other.shutDown.trans one.shutDown
  ready task member busy := one.ready task (other.ready task member busy) busy
  timers := by
    obtain ⟨early, same, known⟩ := one.timers
    obtain ⟨late, later, found⟩ := other.timers
    refine ⟨early ++ late, by rw [later, same, List.append_assoc], fun timer member runs => ?_⟩
    rcases List.mem_append.mp member with early | late
    · exact known timer early runs
    · exact one.ready _ (found timer late runs) (.inr runs)
  cleanUp done := by
    rcases List.mem_append.mp done with early | late
    · exact one.cleanUp early
    · obtain ⟨period, runs⟩ := other.cleanUp late
      exact ⟨period, one.ready _ runs (.inr rfl)⟩
  drained := other.drained ∘ one.drained

/-! ## Attempts -/

theorem eq_of_wait {policy : RetryPolicy} {now : Timestamp} {id : BatchId} {retry next : Nat}
    {span : Nanos} {b after : Backend}
    (waits : tryOnce policy now id retry b = (.wait next span, after)) :
    next = retry + 1 ∧ span = policy.backoff (retry + 1) := by
  unfold tryOnce at waits
  split at waits
  · cases waits
  · split at waits
    · split at waits <;> cases waits
    · cases waits
      exact ⟨rfl, rfl⟩

theorem deliver_once (interval : p.pool.policy.interval ≠ 0) (id : BatchId) (retry n : Nat) :
    deliverDeeds id retry (n + 1) p = [.attempt id retry] ∧
      let tried : Pipeline α :=
        { p with backend := (tryOnce p.pool.policy p.now id retry p.backend).2 }
      ((deliver id retry (n + 1) p).2 = tried.seatLeft id ∨
        p.pool.shutDown = false ∧ ∃ due next, (deliver id retry (n + 1) p).2 =
          { tried with timers := p.timers ++ [⟨due, .resume id next⟩] }) := by
  rw [deliver_succ, deliverDeeds]
  cases tried : tryOnce p.pool.policy p.now id retry p.backend with
  | mk next after =>
      cases next with
      | done outcome => exact ⟨rfl, .inl rfl⟩
      | wait next span =>
          have some : span ≠ 0 := (eq_of_wait tried).2 ▸ RetryPolicy.backoff_ne_zero interval _
          cases down : p.pool.shutDown with
          | true => exact ⟨rfl, .inl rfl⟩
          | false =>
              simp only [Bool.false_eq_true, if_false, some, setTimer_apply,
                Nanos.waitMillis_ne_zero some]
              exact ⟨trivial, .inr ⟨trivial, _, _, rfl⟩⟩

theorem Orderly.seatLeft (orderly : Orderly p) {id : BatchId} {retry : Nat} (rest : List Task)
    (among : p.ready.Perm (.resume id retry :: rest)) {backend : Backend} (plain : backend.Plain)
    (ids : backend.ids = p.backend.ids) :
    Orderly (({ p with ready := rest, backend } : Pipeline α).seatLeft id) := by
  have resumes : p.resuming.Perm ((id, retry) :: rest.filterMap Task.resumed?) :=
    among.filterMap Task.resumed?
  have left : (p.pool.seated.erase id).Perm
      ((rest.filterMap Task.resumed? ++ p.pausing).map Prod.fst) := by
    have seated := (orderly.seated.trans ((resumes.append_right p.pausing).map Prod.fst)).erase id
    rwa [List.cons_append, List.map_cons, List.erase_cons_head] at seated
  have one := (orderly.seated.trans ((resumes.append_right p.pausing).map Prod.fst)).length_eq
  have fewer := left.length_eq
  have serves : p.ready.countP Task.isServe = rest.countP Task.isServe :=
    among.countP_eq Task.isServe
  have served := orderly.served
  have quiet := orderly.closed
  have own : ∀ task ∈ rest, task ∈ p.ready :=
    fun task member => among.mem_iff.mpr (List.mem_cons_of_mem _ member)
  rw [List.cons_append, List.map_cons, List.length_cons] at one
  rw [serves] at served
  unfold Pipeline.seatLeft
  exact
    { plain
      handler := orderly.handler
      interval := orderly.interval
      seats := orderly.seats
      ready := by
        dsimp only
        split
        · exact fun task member => orderly.ready task (own task member)
        · exact forall_mem_append_singleton (fun task member => orderly.ready task (own task member))
            trivial
      timers := orderly.timers
      seated := by
        refine left.trans (.of_eq ?_)
        simp only [resuming, pausing]
        split <;> simp [List.filterMap_cons]
      served := by
        -- The seat given up is one more to fill; the task queued for it makes up for that.
        dsimp only
        cases waits : p.pool.waiting with
        | nil => exact Nat.le_trans (Nat.min_le_left _ _) (Nat.zero_le _)
        | cons next others =>
            rw [waits] at served
            simp only [List.isEmpty_cons, Bool.false_eq_true, if_false, List.countP_append,
              List.countP_singleton, Task.isServe, if_true, List.length_cons] at served ⊢
            omega
      distinct := orderly.distinct.sublist (List.erase_sublist.append_left _)
      known := by
        intro other member
        rw [ids]
        refine orderly.known other ?_
        exact (List.erase_sublist.append_left p.pool.waiting).subset member
      closed := by
        intro down
        obtain ⟨none, still⟩ := quiet down
        refine ⟨none, ?_⟩
        dsimp only
        split
        · exact fun task member => still task (own task member)
        · exact forall_mem_append_singleton (fun task member => still task (own task member))
            ⟨rfl, rfl⟩ }

theorem Orderly.pause (orderly : Orderly p) {id : BatchId} {retry : Nat} {rest : List Task}
    (among : p.ready.Perm (.resume id retry :: rest)) {backend : Backend} (plain : backend.Plain)
    (ids : backend.ids = p.backend.ids) (running : p.pool.shutDown = false) (due next : Nat) :
    Orderly ({ p with
      ready := rest, backend, timers := p.timers ++ [⟨due, .resume id next⟩] } : Pipeline α) where
  plain := plain
  handler := orderly.handler
  interval := orderly.interval
  seats := orderly.seats
  ready task member := orderly.ready task (among.mem_iff.mpr (List.mem_cons_of_mem _ member))
  timers := forall_mem_append_singleton orderly.timers trivial
  seated := by
    have resumes : p.resuming.Perm ((id, retry) :: rest.filterMap Task.resumed?) :=
      among.filterMap Task.resumed?
    refine (orderly.seated.trans ((resumes.append_right p.pausing).map Prod.fst)).trans ?_
    simp only [resuming, pausing, List.filterMap_append, List.map_append, List.map_cons,
      List.cons_append, ← List.append_assoc]
    exact (List.perm_append_singleton id _).symm
  served := by
    have serves : p.ready.countP Task.isServe = rest.countP Task.isServe :=
      among.countP_eq Task.isServe
    exact serves ▸ orderly.served
  distinct := orderly.distinct
  known id member := by
    rw [ids]
    exact orderly.known id member
  closed down := by cases running.symm.trans down

theorem load_take {task : Task} {rest : List Task} (among : p.ready.Perm (task :: rest)) :
    ({ p with ready := rest } : Pipeline α).load + taskLoad task = p.load := by
  have total := (among.map taskLoad).sum_nat
  simp only [load_eq, List.map_cons, List.sum_cons] at total ⊢
  omega

theorem mem_of_busy {task : Task} {tasks : List Task} (member : task ∈ tasks ++ [.serve])
    (busy : task.isFlush = true ∨ task.isJob = true) : task ∈ tasks := by
  rcases List.mem_append.mp member with before | serve
  · exact before
  · rw [List.mem_singleton.mp serve] at busy
    rcases busy with busy | busy <;> cases busy

theorem resuming_seatLeft (id : BatchId) (p : Pipeline α) :
    (p.seatLeft id).resuming = p.resuming := by
  simp only [resuming, seatLeft]
  split <;> simp [List.filterMap_cons]

theorem mem_ready_seatLeft {id : BatchId} {task : Task} (member : task ∈ (p.seatLeft id).ready)
    (busy : task.isFlush = true ∨ task.isJob = true) : task ∈ p.ready := by
  simp only [seatLeft] at member
  split at member
  · exact member
  · exact mem_of_busy member busy

theorem load_seatLeft_le (id : BatchId) (p : Pipeline α) : (p.seatLeft id).load ≤ p.load + 1 := by
  simp only [load_eq, seatLeft]
  split <;> simp [taskLoad]; omega

theorem carries_attempt {id : BatchId} {retry : Nat} {rest : List Task}
    (among : p.ready.Perm (.resume id retry :: rest))
    (setting : q.pool.policy = p.pool.policy ∧ q.retention = p.retention ∧ q.clock = p.clock ∧
      q.epoch = p.epoch)
    (tried : q.backend = (tryOnce p.pool.policy p.now id retry p.backend).2)
    (owes : q.owed = rest.filterMap Task.resumed? ++ p.pool.waiting.map fun id => (id, 0)) :
    Carries p [.attempt id retry] q where
  setting := setting
  course := tried ▸ .attempt id retry (.still _)
  owed := by
    have resumes : p.resuming.Perm ((id, retry) :: rest.filterMap Task.resumed?) :=
      among.filterMap Task.resumed?
    rw [owes]
    change (p.owed ++ []).Perm _
    rw [List.append_nil]
    exact resumes.append_right _

theorem proceeds_deliver (orderly : Orderly p) {id : BatchId} {retry : Nat} {rest : List Task}
    (among : p.ready.Perm (.resume id retry :: rest)) (n : Nat) :
    Proceeds p (deliverDeeds id retry (n + 1) { p with ready := rest })
        (deliver id retry (n + 1) { p with ready := rest }).2 ∧
      (deliver id retry (n + 1) { p with ready := rest }).2.load < p.load := by
  obtain ⟨after, tried⟩ : ∃ after,
      after = (tryOnce p.pool.policy p.now id retry p.backend).2 := ⟨_, rfl⟩
  have delivered : (deliver id retry (n + 1) { p with ready := rest }).2 =
        ({ p with ready := rest, backend := after } : Pipeline α).seatLeft id ∨
      p.pool.shutDown = false ∧ ∃ due next,
        (deliver id retry (n + 1) { p with ready := rest }).2 = { p with
          ready := rest, backend := after, timers := p.timers ++ [⟨due, .resume id next⟩] } := by
    rw [tried]
    exact (deliver_once (p := { p with ready := rest }) orderly.interval id retry n).2
  have plain : after.Plain := tried ▸ plain_tryOnce orderly.plain p.pool.policy p.now id retry
  have ids : after.ids = p.backend.ids :=
    tried ▸ (concerns_tryOnce orderly.plain p.pool.policy p.now id retry).1
  have own : ∀ task ∈ rest, task ∈ p.ready :=
    fun task member => among.mem_iff.mpr (List.mem_cons_of_mem _ member)
  have load := load_take among
  rw [(deliver_once (p := { p with ready := rest }) orderly.interval id retry n).1]
  rcases delivered with ended | ⟨running, due, next, paused⟩
  · have less := load_seatLeft_le id ({ p with ready := rest, backend := after } : Pipeline α)
    rw [ended]
    refine ⟨⟨carries_attempt among ⟨rfl, rfl, rfl, rfl⟩ tried ?_,
      orderly.seatLeft _ among plain ids, rfl,
      fun task member busy => own task (mem_ready_seatLeft member busy),
      ⟨[], (List.append_nil _).symm, List.forall_mem_nil _⟩, by simp, fun drained => drained⟩, ?_⟩
    · rw [owed, resuming_seatLeft]
      rfl
    · simp only [load_eq, taskLoad] at load less ⊢
      omega
  · rw [paused]
    refine ⟨⟨carries_attempt among ⟨rfl, rfl, rfl, rfl⟩ tried rfl,
      orderly.pause among plain ids running due next, rfl, fun task member _ => own task member,
      ⟨_, rfl, ?_⟩, by simp, fun drained => drained⟩, ?_⟩
    · exact List.forall_mem_singleton.mpr fun runs => by cases runs
    · simp only [load_eq, taskLoad] at load ⊢
      omega

theorem Orderly.sit (orderly : Orderly p) {id : BatchId} {others : List BatchId} {rest : List Task}
    (among : p.ready.Perm (.serve :: rest)) (waits : p.pool.waiting = id :: others)
    (free : p.pool.seated.length < p.pool.seats) :
    Orderly ({ p with
      ready := .resume id 0 :: rest
      pool := { p.pool with seated := p.pool.seated ++ [id], waiting := others } } :
        Pipeline α) where
  plain := orderly.plain
  handler := orderly.handler
  interval := orderly.interval
  seats := orderly.seats
  ready := List.forall_mem_cons.mpr ⟨trivial, fun task member =>
    orderly.ready task (among.mem_iff.mpr (List.mem_cons_of_mem _ member))⟩
  timers := orderly.timers
  seated := by
    have same : p.resuming.Perm (rest.filterMap Task.resumed?) := among.filterMap Task.resumed?
    refine (List.perm_append_singleton id _).trans (.cons id ?_)
    exact orderly.seated.trans ((same.append_right p.pausing).map Prod.fst)
  served := by
    have served := orderly.served
    have serves := among.countP_eq Task.isServe
    rw [waits] at served
    simp only [List.countP_cons, Task.isServe, List.length_cons, List.length_append,
      List.length_nil, if_true, Bool.false_eq_true, if_false] at served serves ⊢
    omega
  distinct := by
    have distinct := orderly.distinct
    rw [waits] at distinct
    rw [← List.append_assoc]
    exact (List.perm_append_singleton id _).nodup_iff.mpr distinct
  known other member := by
    refine orderly.known other ?_
    rw [waits]
    rw [← List.append_assoc] at member
    exact (List.perm_append_singleton id _).mem_iff.mp member
  closed down := by
    obtain ⟨none, still⟩ := orderly.closed down
    exact ⟨none, List.forall_mem_cons.mpr ⟨⟨rfl, rfl⟩, fun task member =>
      still task (among.mem_iff.mpr (List.mem_cons_of_mem _ member))⟩⟩

theorem proceeds_take (orderly : Orderly p) {task : Task} {rest : List Task}
    (among : p.ready.Perm (task :: rest)) (none : task.resumed? = none)
    (served : min p.pool.waiting.length (p.pool.seats - p.pool.seated.length) ≤
      rest.countP Task.isServe) :
    Proceeds p [] { p with ready := rest } := by
  have own : ∀ task ∈ rest, task ∈ p.ready :=
    fun task member => among.mem_iff.mpr (List.mem_cons_of_mem _ member)
  have same : p.resuming.Perm (rest.filterMap Task.resumed?) := by
    have resumes := among.filterMap Task.resumed?
    rwa [List.filterMap_cons_none none] at resumes
  exact
    { toCarries := .same (.still _) ⟨rfl, rfl, rfl, rfl⟩ (same.append_right _)
      orderly := orderly.rearrange (fun task member => orderly.ready task (own task member))
        same.symm served fun down task member => (orderly.closed down).2 task (own task member)
      shutDown := rfl
      ready := fun task member _ => own task member
      timers := ⟨[], (List.append_nil _).symm, List.forall_mem_nil _⟩
      cleanUp := nofun
      drained := fun drained => drained }

theorem proceeds_serve (orderly : Orderly p) {rest : List Task}
    (among : p.ready.Perm (.serve :: rest)) :
    Proceeds p (serveDeeds { p with ready := rest }) (serve { p with ready := rest }).2 ∧
      (serve { p with ready := rest }).2.load < p.load := by
  have load := load_take among
  rw [serve_apply, serveDeeds]
  dsimp only
  cases waits : p.pool.waiting with
  | nil =>
      refine ⟨proceeds_take orderly among rfl ?_, Nat.lt_of_lt_of_eq (Nat.lt_succ_self _) load⟩
      rw [waits]
      exact Nat.le_trans (Nat.min_le_left _ _) (Nat.zero_le _)
  | cons id others =>
      dsimp only
      by_cases full : p.pool.seats ≤ p.pool.seated.length
      · rw [if_pos full, if_pos full]
        refine ⟨proceeds_take orderly among rfl ?_, Nat.lt_of_lt_of_eq (Nat.lt_succ_self _) load⟩
        rw [Nat.sub_eq_zero_of_le full]
        exact Nat.le_trans (Nat.min_le_right _ _) (Nat.zero_le _)
      · rw [if_neg full, if_neg full]
        have same : p.resuming.Perm (rest.filterMap Task.resumed?) :=
          among.filterMap Task.resumed?
        -- The batch sits down, and its first attempt is owed as it was before.
        obtain ⟨seat, sat⟩ : ∃ seat : Pipeline α, seat = { p with
            ready := .resume id 0 :: rest
            pool := { p.pool with seated := p.pool.seated ++ [id], waiting := others } } := ⟨_, rfl⟩
        have seated : Proceeds p [] seat := by
          rw [sat]
          refine ⟨.same (.still _) ⟨rfl, rfl, rfl, rfl⟩ ?_,
            orderly.sit among waits (Nat.lt_of_not_le full), rfl, ?_,
            ⟨[], (List.append_nil _).symm, List.forall_mem_nil _⟩, nofun, fun drained => drained⟩
          · change p.owed.Perm
              ((id, 0) :: (rest.filterMap Task.resumed? ++ others.map fun id => (id, 0)))
            rw [owed, waits]
            exact (same.append_right _).trans List.perm_middle
          · intro task member busy
            rcases List.mem_cons.mp member with rfl | before
            · rcases busy with busy | busy <;> cases busy
            · exact among.mem_iff.mpr (List.mem_cons_of_mem _ before)
        have ready : seat.ready.Perm (.resume id 0 :: rest) := by
          rw [sat]
        obtain ⟨delivered, less⟩ :=
          proceeds_deliver seated.orderly ready p.pool.policy.maxRetries.toNat
        refine ⟨?_, ?_⟩
        · have whole := seated.trans delivered
          rw [sat] at whole
          exact whole
        · rw [sat] at less
          refine Nat.lt_trans less ?_
          simp only [load_eq, waits, List.map_cons, List.sum_cons, List.length_cons, taskLoad]
            at load ⊢
          omega

/-! ## Batches -/

theorem proceeds_aside (orderly : Orderly p) {backend : Backend} (gateway : Gateway α)
    {deeds : List Deed} (course : Course p.pool.policy p.retention p.now p.backend deeds backend)
    (idle : madeIn deeds = [] ∧ attemptsIn deeds = [])
    (cleanUp : .cleanUp ∈ deeds → ∃ period, Task.run ⟨.cleanUp, period⟩ ∈ p.ready) :
    Proceeds p deeds { p with backend, gateway } where
  setting := ⟨rfl, rfl, rfl, rfl⟩
  course := course
  owed := by
    rw [idle.1, idle.2]
    exact .of_eq (List.append_nil _)
  orderly := orderly.of_same rfl rfl rfl rfl (course.plain orderly.plain)
    (course.made orderly.plain).1
  shutDown := rfl
  ready _ member _ := member
  timers := ⟨[], (List.append_nil _).symm, List.forall_mem_nil _⟩
  cleanUp := cleanUp
  drained := fun drained => drained

theorem proceeds_makeBatch (orderly : Orderly p) (running : p.pool.shutDown = false) (key : Key)
    (logs : List RawLog) :
    Proceeds p (makeDeeds key logs p) (makeBatch key logs p).2 ∧
      (makeBatch key logs p).2.load ≤ p.load + 3 := by
  rw [makeDeeds, makeBatch_apply]
  cases saved : (saveBatch (.new p.backend.ids.fresh key logs p.now)).on
      { p.backend with ids := p.backend.ids.advance } with
  | mk answer after =>
      obtain ⟨plain, ids, -⟩ := onlyBatches_new orderly.plain saved
      cases answer with
      | error e =>
          have lost : Course p.pool.policy p.retention p.now p.backend [] after :=
            .lose key logs saved (.still _)
          exact ⟨proceeds_aside orderly p.gateway lost ⟨rfl, rfl⟩ nofun, Nat.le_add_right _ 3⟩
      | ok _ =>
          have scheduled := orderly.scheduled running plain ids
          have told := announce_of_deliver (p := { p with backend := after }) orderly.handler
            p.backend.ids.fresh
          have schedule : (({ p with backend := after } : Pipeline α).scheduled p.backend.ids.fresh) =
              { p with
                backend := after
                pool := { p.pool with waiting := p.pool.waiting ++ [p.backend.ids.fresh] }
                ready := p.ready ++ [.serve] } := by
            simp only [Pipeline.scheduled, running, Bool.false_eq_true, if_false]
          dsimp only
          rw [told]
          rw [schedule] at scheduled ⊢
          refine ⟨⟨⟨⟨rfl, rfl, rfl, rfl⟩, .make key logs saved (.still _), ?_⟩, scheduled, rfl, ?_,
            ⟨[], (List.append_nil _).symm, List.forall_mem_nil _⟩, ?_, fun drained => drained⟩, ?_⟩
          · refine .of_eq ?_
            simp [owed, resuming, madeIn, attemptsIn, Deed.made?, Deed.attempted?,
              List.filterMap_cons]
          · exact fun task member busy => mem_of_busy member busy
          · exact fun done => by simp at done
          · simp only [load_eq, List.map_append, List.sum_append, List.length_append, List.map_cons,
              List.map_nil, List.sum_cons, List.sum_nil, List.length_cons, List.length_nil, taskLoad]
            omega

theorem proceeds_makeBatches (groups : List Group) (orderly : Orderly p)
    (running : p.pool.shutDown = false) :
    Proceeds p (makeAllDeeds groups p) (makeBatches groups p).2 ∧
      (makeBatches groups p).2.load ≤ p.load + 3 * groups.length := by
  induction groups generalizing p with
  | nil => exact ⟨.refl orderly, Nat.le_refl _⟩
  | cons group rest ih =>
      obtain ⟨made, load⟩ := proceeds_makeBatch orderly running group.1 group.2
      obtain ⟨later, more⟩ := ih made.orderly (made.shutDown.trans running)
      rw [makeBatches_cons, makeAllDeeds, List.length_cons]
      exact ⟨made.trans later, by omega⟩

theorem proceeds_drainBuffers (orderly : Orderly p) (running : p.pool.shutDown = false) :
    Proceeds p (drainDeeds p) (drainBuffers p).2 ∧ Drained (drainBuffers p).2 ∧
      (drainBuffers p).2.load ≤ p.load := by
  rw [drainBuffers_apply, drainDeeds]
  cases groups : p.buffers.groups.isEmpty with
  | true =>
      rw [List.isEmpty_iff.mp groups, if_pos rfl]
      refine ⟨.refl orderly, fun key => ?_, Nat.le_refl _⟩
      rw [← Buffers.flatMap_groups, List.isEmpty_iff.mp groups]
      rfl
  | false =>
      rw [if_neg Bool.false_ne_true]
      have cleared : Proceeds p [] (showBuffered { p with buffers := p.buffers.cleared }).2 :=
        { toCarries := .same (.count _ (.still _)) ⟨rfl, rfl, rfl, rfl⟩ (.refl _)
          orderly := orderly.of_same rfl rfl rfl rfl ⟨orderly.plain.faults, orderly.plain.script⟩
            fun _ => id
          shutDown := rfl
          ready := fun _ member _ => member
          timers := ⟨[], (List.append_nil _).symm, List.forall_mem_nil _⟩
          cleanUp := nofun
          drained := fun _ key => Buffers.logsOf_cleared p.buffers key }
      obtain ⟨made, load⟩ := proceeds_makeBatches p.buffers.groups cleared.orderly running
      refine ⟨cleared.trans made, made.drained fun key => Buffers.logsOf_cleared p.buffers key, ?_⟩
      simp only [load_eq, showBuffered_apply, record_apply, Buffers.keysInUse_cleared,
        List.length_nil, Buffers.length_groups] at load ⊢
      omega

/-! ## Tasks -/

theorem Orderly.served_take (orderly : Orderly p) {task : Task} {rest : List Task}
    (among : p.ready.Perm (task :: rest)) (other : task.isServe = false) :
    min p.pool.waiting.length (p.pool.seats - p.pool.seated.length) ≤ rest.countP Task.isServe := by
  have serves := among.countP_eq Task.isServe
  rw [List.countP_cons, other, if_neg Bool.false_ne_true, Nat.add_zero] at serves
  exact serves ▸ orderly.served

theorem Orderly.running (orderly : Orderly p) {task : Task} (member : task ∈ p.ready)
    (busy : task.isFlush = true ∨ task.isJob = true) : p.pool.shutDown = false := by
  rw [← Bool.not_eq_true]
  intro down
  obtain ⟨flushes, runs⟩ := (orderly.closed down).2 task member
  rw [flushes, runs] at busy
  rcases busy with busy | busy <;> cases busy

theorem proceeds_again (orderly : Orderly p) {job : Job} {rest : List Task}
    (among : p.ready.Perm (.run job :: rest)) :
    Proceeds p [] (setTimer job.period (.run job) { p with ready := rest }).2 := by
  have member : Task.run job ∈ p.ready := among.mem_iff.mpr List.mem_cons_self
  have period : 1 ≤ job.period := orderly.ready _ member
  have running := orderly.running member (.inr rfl)
  have taken := proceeds_take orderly among rfl (orderly.served_take among rfl)
  have again := taken.orderly.setTimer running period job.period
  rw [setTimer_apply, if_neg (Nat.ne_of_gt period)] at again ⊢
  exact
    { taken with
      orderly := again
      setting := ⟨rfl, rfl, rfl, rfl⟩
      timers := ⟨_, rfl, List.forall_mem_singleton.mpr fun _ => member⟩
      drained := fun drained => drained }

variable [Quantity α]

theorem proceeds_run (orderly : Orderly p) {job : Job} {rest : List Task}
    (among : p.ready.Perm (.run job :: rest)) :
    Proceeds p (taskDeeds (.run job) { p with ready := rest })
        (runTask (.run job) { p with ready := rest }).2 ∧
      (runTask (.run job) { p with ready := rest }).2.load < p.load := by
  have member : Task.run job ∈ p.ready := among.mem_iff.mpr List.mem_cons_self
  have period : 1 ≤ job.period := orderly.ready _ member
  have load := load_take among
  have again := proceeds_again orderly among
  have running := orderly.running member (.inr rfl)
  have less : (setTimer job.period (.run job) { p with ready := rest }).2.load < p.load := by
    rw [setTimer_apply, if_neg (Nat.ne_of_gt period)]
    exact Nat.lt_of_lt_of_eq (Nat.lt_succ_self _) load
  have step : (runTask (.run job) { p with ready := rest }).2 =
      (runJob job.kind (setTimer job.period (.run job) { p with ready := rest }).2).2 := rfl
  rw [step, taskDeeds]
  obtain ⟨kind, jobPeriod⟩ := job
  cases kind with
  | flushBuffers =>
      obtain ⟨drained, -, more⟩ :=
        proceeds_drainBuffers again.orderly (again.shutDown.trans running)
      exact ⟨again.trans drained, Nat.lt_of_le_of_lt more less⟩
  | refillLimiter =>
      exact ⟨again.trans (proceeds_aside again.orderly _ (.still _) ⟨rfl, rfl⟩ nofun), less⟩
  | evictDecisions =>
      exact ⟨again.trans (proceeds_aside again.orderly _ (.still _) ⟨rfl, rfl⟩ nofun), less⟩
  | cleanUp =>
      -- The pass does not touch the tasks, so it may as well come before the job is taken up.
      have course : Course p.pool.policy p.retention p.now p.backend [.cleanUp]
          (LogPipeline.cleanUp p.retention p.now p.backend).2 := .cleanUp (.still _)
      have cleaned := proceeds_aside orderly p.gateway course ⟨rfl, rfl⟩
        fun _ => ⟨jobPeriod, member⟩
      have later := proceeds_again cleaned.orderly among
      rw [setTimer_apply, if_neg (Nat.ne_of_gt period)] at later less ⊢
      exact ⟨cleaned.trans later, less⟩

theorem proceeds_runTask (orderly : Orderly p) {task : Task} {rest : List Task}
    (among : p.ready.Perm (task :: rest)) :
    Proceeds p (taskDeeds task { p with ready := rest }) (runTask task { p with ready := rest }).2 ∧
      (runTask task { p with ready := rest }).2.load < p.load := by
  have member : task ∈ p.ready := among.mem_iff.mpr List.mem_cons_self
  have own := orderly.ready task member
  have load := load_take among
  cases task with
  | flush key logs =>
      have taken := proceeds_take orderly among rfl (orderly.served_take among rfl)
      have running := orderly.running member (.inl rfl)
      obtain ⟨made, more⟩ := proceeds_makeBatch taken.orderly running key logs
      refine ⟨taken.trans made, Nat.lt_of_le_of_lt more ?_⟩
      rw [taskLoad] at load
      omega
  | serve => exact proceeds_serve orderly among
  | resume id retry => exact proceeds_deliver orderly among p.pool.policy.maxRetries.toNat
  | run job => exact proceeds_run orderly among
  | change c => exact own.elim

/-! ## All ready tasks -/

theorem proceeds_runTasks (orderly : Orderly p) {n : Nat} (enough : p.load ≤ n) :
    Proceeds p (tasksDeeds n p) (runTasks n p).2 ∧ (runTasks n p).2.ready = [] := by
  induction n generalizing p with
  | zero => exact ⟨.refl orderly, ready_of_load p (by omega)⟩
  | succ n ih =>
      rw [runTasks_succ, tasksDeeds]
      cases next : p.ready with
      | nil =>
          rw [List.isEmpty_nil, if_pos rfl]
          exact ⟨.refl orderly, next⟩
      | cons task rest =>
          obtain ⟨done, less⟩ := proceeds_runTask orderly (.of_eq next)
          rw [List.isEmpty_cons, if_neg Bool.false_ne_true, runNext_cons next]
          obtain ⟨later, none⟩ := ih done.orderly (by omega)
          exact ⟨done.trans later, none⟩

theorem proceeds_settle (orderly : Orderly p) :
    Proceeds p (settleDeeds p) (settle p).2 ∧ (settle p).2.ready = [] :=
  proceeds_runTasks orderly (Nat.le_refl _)

theorem proceeds_flushAll (orderly : Orderly p) (running : p.pool.shutDown = false) :
    Proceeds p (flushAllDeeds p) (flushAll p).2 ∧ Drained (flushAll p).2 := by
  obtain ⟨made, drained, -⟩ := proceeds_drainBuffers orderly running
  rw [flushAll_apply, waitForFlushes_apply, flushAllDeeds]
  split
  · have settled := (proceeds_settle made.orderly).1
    exact ⟨made.trans settled, settled.drained drained⟩
  · rw [List.append_nil]
    exact ⟨made, drained⟩

end LogPipeline.Pipeline
