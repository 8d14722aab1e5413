import LogPipeline.Proofs.Admission.LastStage
import LogPipeline.Proofs.Backend.Totals
import LogPipeline.Proofs.Pipeline.Orderly

namespace LogPipeline

open Backend LogEvent

def logsIn (key : Key) (groups : List Group) : Nat :=
  (groups.map fun group => if group.1 = key then group.2.length else 0).sum

@[simp] theorem logsIn_nil (key : Key) : logsIn key [] = 0 := rfl

@[simp] theorem logsIn_append (key : Key) (groups more : List Group) :
    logsIn key (groups ++ more) = logsIn key groups + logsIn key more := by
  simp [logsIn]

@[simp] theorem logsIn_cons (key : Key) (group : Group) (rest : List Group) :
    logsIn key (group :: rest) =
      (if group.1 = key then group.2.length else 0) + logsIn key rest := by
  simp [logsIn]

theorem logsIn_perm {groups others : List Group} (same : groups.Perm others) (key : Key) :
    logsIn key groups = logsIn key others :=
  (same.map _).sum_nat

theorem logsIn_eq_length (key : Key) (groups : List Group) :
    logsIn key groups = ((groups.filter fun group => group.1 = key).flatMap (·.2)).length := by
  induction groups with
  | nil => rfl
  | cons group rest ih =>
      rw [logsIn_cons, ih, List.filter_cons]
      by_cases same : group.1 = key <;> simp [same]

namespace LogEvent

def ofGroups (now : Timestamp) : List Group → Backend → List LogEvent
  | [], _ => []
  | (key, logs) :: rest, b =>
    match (saveBatch (.new b.ids.fresh key logs now)).on { b with ids := b.ids.advance } with
    | (.ok (), after) => .flushed ⟨b.ids.fresh, key, logs⟩ :: ofGroups now rest after
    | (.error _, after) => .dropped ⟨b.ids.fresh, key, logs⟩ :: ofGroups now rest after

variable {α : Type}

def ofDrain (p : Pipeline α) : List LogEvent :=
  ofGroups p.now p.buffers.groups
    (Pipeline.showBuffered { p with buffers := p.buffers.cleared }).2.backend

def ofTurn : Task × Pipeline α → List LogEvent
  | (.flush key logs, p) => ofGroups p.now [(key, logs)] p.backend
  | (.run ⟨.flushBuffers, _⟩, p) => ofDrain p
  | _ => []

def ofAnswer (b : Backend) (s : Submission) : Reception → List LogEvent
  | .buffered => (Admission.fitting b s.key s.logs).map (.buffered s.key)
  | .accepted id _ => [.accepted ⟨id, s.key, Admission.fitting b s.key s.logs⟩]
  | .rejected _ => []

end LogEvent

theorem Task.IsTimed.group? {task : Task} (timed : task.IsTimed) : task.group? = none := by
  cases task with
  | flush => exact timed.elim
  | _ => rfl

namespace Pipeline

variable {α : Type} {events : List LogEvent} {hand : List Group} {p q : Pipeline α}

/-- Where all logs of a key are. The groups in hand have been taken out of their buffers. -/
def Located (events : List LogEvent) (hand : List Group) (p : Pipeline α) (key : Key) : Prop :=
  total (receivedLogs key) events =
    (p.buffers.logsOf key).length + logsIn key (p.ready.filterMap Task.group? ++ hand) +
      total (savedLogs key) events + total (droppedLogs key) events

structure Totalled (events : List LogEvent) (hand : List Group) (p : Pipeline α) : Prop where
  plain : p.backend.Plain
  ready : ∀ task ∈ p.ready, task.IsOwn
  timers : ∀ timer ∈ p.timers, timer.task.IsTimed
  booked : Booked events p.backend
  located : ∀ key, Located events hand p key

theorem Totalled.nothing (totalled : Totalled events hand p) : Totalled (events ++ []) hand p :=
  (List.append_nil events).symm ▸ totalled

theorem Totalled.of_tasks (totalled : Totalled events hand p) (plain : q.backend.Plain)
    (booked : Booked events q.backend) (ready : ∀ task ∈ q.ready, task.IsOwn)
    (timers : ∀ timer ∈ q.timers, timer.task.IsTimed) (buffers : q.buffers = p.buffers)
    (groups : q.ready.filterMap Task.group? = p.ready.filterMap Task.group?) :
    Totalled events hand q where
  plain
  ready
  timers
  booked
  located key := by
    rw [Located, buffers, groups]
    exact totalled.located key

theorem Totalled.of_same (totalled : Totalled events hand p) (plain : q.backend.Plain)
    (booked : Booked events q.backend) (ready : q.ready = p.ready) (timers : q.timers = p.timers)
    (buffers : q.buffers = p.buffers) : Totalled events hand q :=
  totalled.of_tasks plain booked (ready ▸ totalled.ready) (timers ▸ totalled.timers) buffers
    (by rw [ready])

theorem Totalled.withGateway (totalled : Totalled events hand p) (gateway : Gateway α) :
    Totalled events hand { p with gateway } :=
  totalled.of_same totalled.plain totalled.booked rfl rfl rfl

theorem Totalled.counted (totalled : Totalled events hand p) {telemetry : Telemetry}
    (same : telemetry.perKey = p.backend.telemetry.perKey) :
    Booked events { p.backend with telemetry } :=
  totalled.booked.of_same rfl (.of_same rfl) rfl rfl fun key =>
    congrArg Counters.totals (Telemetry.counters_of_perKey same key)

/-! ## Deliveries -/

theorem Totalled.append (totalled : Totalled events hand p) {task : Task} (own : task.IsOwn)
    (none : task.group? = none) (same : q.backend = p.backend) (ready : q.ready = p.ready ++ [task])
    (timers : q.timers = p.timers) (buffers : q.buffers = p.buffers) :
    Totalled events hand q := by
  refine totalled.of_tasks (same ▸ totalled.plain) (same ▸ totalled.booked) ?_
    (timers ▸ totalled.timers) buffers ?_
  · rw [ready]
    exact forall_mem_append_singleton totalled.ready own
  · rw [ready, List.filterMap_append, List.filterMap_cons, none, List.filterMap_nil,
      List.append_nil]

theorem Totalled.setTimer (totalled : Totalled events hand p) {task : Task} (timed : task.IsTimed)
    (wait : Nat) : Totalled events hand (setTimer wait task p).2 := by
  rw [setTimer_apply]
  split
  · exact totalled.append timed.isOwn timed.group? rfl rfl rfl rfl
  · exact totalled.of_tasks totalled.plain totalled.booked totalled.ready
      (forall_mem_append_singleton totalled.timers timed) rfl rfl

theorem Totalled.seatLeft (totalled : Totalled events hand p) (id : BatchId) :
    Totalled events hand (p.seatLeft id) := by
  unfold Pipeline.seatLeft
  split
  · exact totalled.of_same totalled.plain totalled.booked rfl rfl rfl
  · exact totalled.append (show Task.serve.IsOwn from trivial) rfl rfl rfl rfl rfl

theorem Totalled.deliver (totalled : Totalled events hand p) (id : BatchId) (retry n : Nat) :
    Totalled events hand (deliver id retry n p).2 := by
  induction n generalizing p retry with
  | zero =>
      rw [deliver_zero]
      exact totalled.seatLeft id
  | succ n ih =>
      obtain ⟨plain, booked⟩ : (tryOnce p.pool.policy p.now id retry p.backend).2.Plain ∧
          Booked events (tryOnce p.pool.policy p.now id retry p.backend).2 :=
        ⟨plain_tryOnce totalled.plain _ _ _ _, totalled.booked.tryOnce totalled.plain _ _ _ _⟩
      rw [deliver_succ]
      generalize tryOnce p.pool.policy p.now id retry p.backend = tried at plain booked ⊢
      obtain ⟨next, after⟩ := tried
      have attempted : Totalled events hand { p with backend := after } :=
        totalled.of_same plain booked rfl rfl rfl
      cases next with
      | done outcome => exact attempted.seatLeft id
      | wait next span =>
          dsimp only
          split
          · exact attempted.seatLeft id
          · split
            · exact ih attempted next
            · exact attempted.setTimer (show (Task.resume id next).IsTimed from trivial) _

theorem Totalled.serve (totalled : Totalled events hand p) : Totalled events hand (serve p).2 := by
  rw [serve_apply]
  cases p.pool.waiting with
  | nil => exact totalled
  | cons id waiting =>
      dsimp only
      split
      · exact totalled
      · have seated : Totalled events hand { p with
            pool := { p.pool with seated := p.pool.seated ++ [id], waiting } } :=
          totalled.of_same totalled.plain totalled.booked rfl rfl rfl
        exact seated.deliver id 0 _

/-! ## Batches of buffered logs -/

theorem Totalled.announce (totalled : Totalled events hand p) (id : BatchId) :
    Totalled events hand (announce id p).2 := by
  rw [announce_apply]
  cases p.handler with
  | announce => exact totalled.of_same totalled.plain totalled.booked rfl rfl rfl
  | deliver =>
      simp only [scheduled]
      split
      · exact totalled
      · exact totalled.append (show Task.serve.IsOwn from trivial) rfl rfl rfl rfl rfl

theorem Located.settle {id : BatchId} {key other : Key} {logs : List RawLog} {event : LogEvent}
    (located : Located events ((key, logs) :: hand) p other)
    (received : receivedLogs other event = 0)
    (settled : savedLogs other event + droppedLogs other event =
      (⟨id, key, logs⟩ : Made).logsOf other) :
    Located (events ++ [event]) hand p other := by
  simp only [Located, total_append, total_singleton, logsIn_append, logsIn_cons, Made.logsOf,
    received] at located settled ⊢
  omega

theorem Totalled.dropped {key : Key} {logs : List RawLog}
    (totalled : Totalled events ((key, logs) :: hand) p) :
    Totalled (events ++ [.dropped ⟨p.backend.ids.fresh, key, logs⟩]) hand
      { p with backend := { p.backend with ids := p.backend.ids.advance } } where
  plain := ⟨totalled.plain.faults, totalled.plain.script⟩
  ready := totalled.ready
  timers := totalled.timers
  booked := totalled.booked.append (List.forall_mem_singleton.mpr rfl) (fun _ => .advance)
    (.of_same rfl) rfl rfl fun _ => by
      simp [Receives, receivedBatches, receivedLogs]
      rfl
  located other := (totalled.located other).settle rfl (Nat.zero_add _)

theorem Totalled.flushed {key : Key} {logs : List RawLog}
    (totalled : Totalled events ((key, logs) :: hand) p) :
    Totalled (events ++ [.flushed ⟨p.backend.ids.fresh, key, logs⟩]) hand { p with
      backend := { p.backend with
        ids := p.backend.ids.advance
        batches := p.backend.batches.put (.new p.backend.ids.fresh key logs p.now) } } where
  plain := ⟨totalled.plain.faults, totalled.plain.script⟩
  ready := totalled.ready
  timers := totalled.timers
  booked := totalled.booked.save rfl rfl rfl rfl rfl rfl rfl rfl fun _ => by
    simp [Receives, receivedBatches, receivedLogs]
    rfl
  located other := (totalled.located other).settle rfl rfl

theorem Totalled.makeBatch {key : Key} {logs : List RawLog}
    (totalled : Totalled events ((key, logs) :: hand) p) :
    Totalled (events ++ ofGroups p.now [(key, logs)] p.backend) hand (makeBatch key logs p).2 := by
  have answer := on_saveBatch (b := { p.backend with ids := p.backend.ids.advance })
    ⟨totalled.plain.faults, totalled.plain.script⟩ (.new p.backend.ids.fresh key logs p.now)
  rw [makeBatch_apply, ofGroups, answer, BatchStore.save]
  dsimp only
  by_cases failing : p.backend.batches.failWrites = true
  · rw [if_pos failing]
    exact totalled.dropped
  · rw [if_neg failing]
    exact totalled.flushed.announce _

theorem ofGroups_cons (key : Key) (logs : List RawLog) (rest : List Group) (p : Pipeline α) :
    ofGroups p.now ((key, logs) :: rest) p.backend =
      ofGroups p.now [(key, logs)] p.backend ++
        ofGroups (makeBatch key logs p).2.now rest (makeBatch key logs p).2.backend := by
  rw [makeBatch_apply, ofGroups, ofGroups]
  rcases (saveBatch (.new p.backend.ids.fresh key logs p.now)).on
    { p.backend with ids := p.backend.ids.advance } with ⟨_ | _, after⟩
  · rfl
  · obtain ⟨_, _, _, told⟩ := announce_only p.backend.ids.fresh p
    dsimp only
    rw [told after p.gateway]
    rfl

theorem Totalled.makeBatches {groups : List Group} (totalled : Totalled events (groups ++ hand) p) :
    Totalled (events ++ ofGroups p.now groups p.backend) hand (makeBatches groups p).2 := by
  induction groups generalizing events p with
  | nil => exact totalled.nothing
  | cons group rest ih =>
      obtain ⟨key, logs⟩ := group
      have later := ih totalled.makeBatch
      rw [ofGroups_cons, ← List.append_assoc]
      exact later

theorem Totalled.cleared (totalled : Totalled events hand p) :
    Totalled events (p.buffers.groups ++ hand)
      (showBuffered { p with buffers := p.buffers.cleared }).2 where
  plain := ⟨totalled.plain.faults, totalled.plain.script⟩
  ready := totalled.ready
  timers := totalled.timers
  booked := totalled.counted rfl
  located key := by
    have located := totalled.located key
    have groups : logsIn key p.buffers.groups = (p.buffers.logsOf key).length := by
      rw [logsIn_eq_length, Buffers.flatMap_groups]
    have cleared := congrArg List.length (Buffers.logsOf_cleared p.buffers key)
    simp only [Located, showBuffered_apply, record_apply, logsIn_append, groups, cleared,
      List.length_nil] at located ⊢
    omega

theorem Totalled.drainBuffers (totalled : Totalled events hand p) :
    Totalled (events ++ ofDrain p) hand (drainBuffers p).2 := by
  rw [drainBuffers_apply]
  split
  · next nothing =>
      rw [ofDrain, List.isEmpty_iff.mp nothing]
      exact totalled.nothing
  · exact totalled.cleared.makeBatches

/-! ## Turns -/

theorem Totalled.take (totalled : Totalled events [] p) {task : Task} {rest : List Task}
    (among : p.ready.Perm (task :: rest)) :
    Totalled events task.group?.toList { p with ready := rest } where
  plain := totalled.plain
  ready other member := totalled.ready other (among.mem_iff.mpr (List.mem_cons_of_mem _ member))
  timers := totalled.timers
  booked := totalled.booked
  located key := by
    have located := totalled.located key
    have tasks := logsIn_perm (among.filterMap Task.group?) key
    have hand : (task :: rest).filterMap Task.group? =
        task.group?.toList ++ rest.filterMap Task.group? := by
      rw [List.filterMap_cons]
      cases task.group? <;> rfl
    rw [hand] at tasks
    simp only [Located, logsIn_append, logsIn_nil] at located tasks ⊢
    omega

theorem Totalled.cleanUp [Quantity α] (totalled : Totalled events hand p) :
    Totalled events hand (runJob .cleanUp p).2 :=
  totalled.of_same (plain_cleanUp totalled.plain _ _).1
    (totalled.booked.cleanUp totalled.plain _ _) rfl rfl rfl

theorem Totalled.runTask [Quantity α] (totalled : Totalled events [] p) {task : Task}
    {rest : List Task} (among : p.ready.Perm (task :: rest)) :
    Totalled (events ++ ofTurn (task, p)) [] (runTask task { p with ready := rest }).2 := by
  have own := totalled.ready task (among.mem_iff.mpr List.mem_cons_self)
  have taken := totalled.take among
  cases task with
  | flush key logs => exact taken.makeBatch
  | serve => exact taken.serve.nothing
  | resume id retry => exact (taken.deliver id retry _).nothing
  | change => exact own.elim
  | run job =>
      have set := taken.setTimer (show (Task.run job).IsTimed from own) job.period
      obtain ⟨kind, period⟩ := job
      cases kind with
      | flushBuffers =>
          have drained := set.drainBuffers
          have same : ofDrain (Pipeline.setTimer period (.run ⟨.flushBuffers, period⟩)
              { p with ready := rest }).2 = ofDrain p := by
            rw [setTimer_apply]
            split <;> rfl
          rw [same] at drained
          exact drained
      | refillLimiter | evictDecisions =>
          exact (set.withGateway _).nothing
      | cleanUp => exact set.cleanUp.nothing

theorem Totalled.moveTo (totalled : Totalled events hand p) (instant : Nat) :
    Totalled events hand (moveTo instant p).2 := by
  rw [moveTo_apply]
  refine totalled.of_tasks totalled.plain totalled.booked ?_ ?_ rfl ?_
  · refine List.forall_mem_append.mpr ⟨totalled.ready, fun task member => ?_⟩
    obtain ⟨timer, among, rfl⟩ := List.mem_map.mp member
    exact (totalled.timers timer (List.mem_filter.mp among).1).isOwn
  · exact fun timer member => totalled.timers timer (List.mem_filter.mp member).1
  · have none : ((p.timers.filter fun timer => timer.due ≤ instant).map (·.task)).filterMap
        Task.group? = [] := by
      refine List.filterMap_eq_nil_iff.mpr (List.forall_mem_map.mpr fun timer member => ?_)
      exact (totalled.timers timer (List.mem_filter.mp member).1).group?
    rw [List.filterMap_append, none, List.append_nil]

end Pipeline

end LogPipeline
