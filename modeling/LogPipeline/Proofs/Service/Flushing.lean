import LogPipeline.Proofs.Pipeline.Arrivals
import LogPipeline.Proofs.Pipeline.Frames
import LogPipeline.Proofs.Service.Use

/-!
# Logs leave their buffers in time

A running service empties all buffers again and again. The next time is never further away than one
interval, and no further from any log that is buffered than one interval after it came in. So no
log is left in a buffer for a whole interval, however many others come in meanwhile.
-/

namespace LogPipeline

open Backend

namespace Pipeline

variable {α : Type} {p q r : Pipeline α}

/-! ## What makes no log wait any longer -/

structure Undisturbed (p q : Pipeline α) : Prop where
  clock : q.clock = p.clock
  logs : ∀ key, q.buffers.logsOf key = p.buffers.logsOf key ∨ q.buffers.logsOf key = []
  ready : ∀ task ∈ p.ready, task ∈ q.ready
  timers : ∀ timer ∈ p.timers, timer ∈ q.timers
  later : ∀ timer ∈ q.timers, timer ∈ p.timers ∨ p.clock < timer.due

theorem Undisturbed.of_same (clock : q.clock = p.clock) (buffers : q.buffers = p.buffers)
    (ready : q.ready = p.ready) (timers : q.timers = p.timers) : Undisturbed p q := by
  refine ⟨clock, fun key => .inl (by rw [buffers]), ?_, ?_, ?_⟩
  · rw [ready]
    exact fun _ member => member
  · rw [timers]
    exact fun _ member => member
  · rw [timers]
    exact fun _ member => .inl member

theorem Undisturbed.trans (one : Undisturbed p q) (other : Undisturbed q r) : Undisturbed p r where
  clock := other.clock.trans one.clock
  logs key := by
    rcases other.logs key with same | none
    · rw [same]
      exact one.logs key
    · exact .inr none
  ready task member := other.ready task (one.ready task member)
  timers timer member := other.timers timer (one.timers timer member)
  later timer member := by
    rcases other.later timer member with before | later
    · exact one.later timer before
    · exact .inr (one.clock ▸ later)

theorem frame_undisturbed : Frame (Undisturbed (α := α)) where
  refl _ := .of_same rfl rfl rfl rfl
  trans := Undisturbed.trans
  backend _ _ := .of_same rfl rfl rfl rfl
  tasks _ _ _ _ _ :=
    ⟨rfl, fun _ => .inl rfl, fun _ => List.mem_append_left _, fun _ member => member,
      fun _ => .inl⟩
  timer _ _ _ _ later :=
    ⟨rfl, fun _ => .inl rfl, fun _ member => member, fun _ => List.mem_append_left _,
      forall_mem_append_singleton (fun _ => .inl) (.inr later)⟩

theorem undisturbed_setTimer (wait : Nat) (task : Task) (p : Pipeline α) :
    Undisturbed p (setTimer wait task p).2 := by
  rw [setTimer_apply]
  split
  · exact ⟨rfl, fun _ => .inl rfl, fun _ => List.mem_append_left _, fun _ member => member,
      fun _ => .inl⟩
  · rename_i later
    exact ⟨rfl, fun _ => .inl rfl, fun _ member => member, fun _ => List.mem_append_left _,
      forall_mem_append_singleton (fun _ => .inl)
        (.inr (Nat.lt_add_of_pos_right (Nat.pos_of_ne_zero later)))⟩

theorem undisturbed_drainBuffers (p : Pipeline α) : Undisturbed p (drainBuffers p).2 := by
  refine frame_undisturbed.drainBuffers (fun p => ?_) p
  exact ⟨rfl, fun key => .inr (Buffers.logsOf_cleared p.buffers key), fun _ member => member,
    fun _ member => member, fun _ => .inl⟩

/-! ## The next time -/

def emptying (interval : Nat) : Task :=
  .run ⟨.flushBuffers, interval⟩

/-- The buffers are emptied now or in time for all logs that they hold. -/
structure Prompt (interval : Nat) (arrivals : List Arrival) (p : Pipeline α) : Prop where
  traced : p.buffers.Traced arrivals
  ahead : ∀ timer ∈ p.timers, p.clock < timer.due
  next : emptying interval ∈ p.ready ∨ ∃ due, ⟨due, emptying interval⟩ ∈ p.timers ∧
    due ≤ p.clock + interval ∧
      ∀ key, ∀ arrival ∈ p.buffers.held arrivals key, due ≤ arrival.instant + interval

variable {interval : Nat} {arrivals : List Arrival}

theorem Prompt.undisturbed (prompt : Prompt interval arrivals p) (still : Undisturbed p q) :
    Prompt interval arrivals q where
  traced key := by
    rcases still.logs key with same | none
    · rw [Buffers.held_of_same same, same]
      exact prompt.traced key
    · rw [Buffers.held_of_nil none, none]
      rfl
  ahead timer member := by
    rw [still.clock]
    rcases still.later timer member with before | later
    · exact prompt.ahead timer before
    · exact later
  next := by
    rcases prompt.next with now | ⟨due, set, soon, bound⟩
    · exact .inl (still.ready _ now)
    · refine .inr ⟨due, still.timers _ set, still.clock ▸ soon, fun key arrival member => ?_⟩
      rcases still.logs key with same | none
      · rw [Buffers.held_of_same same] at member
        exact bound key arrival member
      · rw [Buffers.held_of_nil none] at member
        cases member

theorem Prompt.take (prompt : Prompt interval arrivals p) {task : Task} {rest : List Task}
    (among : p.ready.Perm (task :: rest)) (other : emptying interval ≠ task) :
    Prompt interval arrivals { p with ready := rest } := by
  refine ⟨prompt.traced, prompt.ahead, prompt.next.imp_left fun now => ?_⟩
  exact (List.mem_cons.mp (among.mem_iff.mp now)).resolve_left other

theorem prompt_of_empty (ahead : ∀ timer ∈ p.timers, p.clock < timer.due)
    (set : ⟨p.clock + interval, emptying interval⟩ ∈ p.timers) (empty : Drained p)
    (arrivals : List Arrival) : Prompt interval arrivals p := by
  refine ⟨Buffers.traced_of_nil empty, ahead, .inr ⟨_, set, Nat.le_refl _, ?_⟩⟩
  intro key arrival member
  rw [Buffers.held_of_nil (empty key)] at member
  cases member

theorem Prompt.moveTo (prompt : Prompt interval arrivals p) {instant : Nat}
    (later : p.clock ≤ instant) : Prompt interval arrivals (Pipeline.moveTo instant p).2 := by
  rw [moveTo_apply]
  refine ⟨prompt.traced, fun timer member => by simpa using (List.mem_filter.mp member).2, ?_⟩
  rcases prompt.next with now | ⟨due, set, soon, bound⟩
  · exact .inl (List.mem_append_left _ now)
  · by_cases reached : due ≤ instant
    · refine .inl (List.mem_append_right _ ?_)
      exact List.mem_map_of_mem (List.mem_filter.mpr ⟨set, decide_eq_true reached⟩)
    · refine .inr ⟨due, List.mem_filter.mpr ⟨set, ?_⟩, ?_, bound⟩
      · simpa using reached
      · exact Nat.le_trans soon (Nat.add_le_add_right later interval)

structure Flushing (interval : Nat) (arrivals : List Arrival) (p : Pipeline α) : Prop extends
    Runs p, Prompt interval arrivals p where
  positive : 1 ≤ interval

theorem Flushing.drainBuffers (flushing : Flushing interval arrivals p) :
    Flushing interval arrivals (drainBuffers p).2 := by
  have drained := (proceeds_drainBuffers flushing.orderly flushing.running).1
  exact ⟨⟨drained.orderly, drained.shutDown.trans flushing.running⟩,
    flushing.toPrompt.undisturbed (undisturbed_drainBuffers p), flushing.positive⟩

/-! ## Submissions -/

def received (s : Submission) (p : Pipeline α) : Reception → List Arrival
  | .buffered => arriving s.key p.clock (Admission.fitting p.backend s.key s.logs)
  | _ => []

theorem Prompt.buffered (prompt : Prompt interval arrivals p) {key : Key} {logs : List RawLog}
    (joined : Buffered key logs p q) :
    Prompt interval (arrivals ++ arriving key p.clock logs) q := by
  obtain ⟨⟨buffers, ready, telemetry, rfl⟩, ⟨groups, more, left⟩, others⟩ := joined
  have readied : ready = p.ready ++ groups.map (.flush key) := more
  -- Nothing comes in for another key, and what leaves the buffer of this one came in first.
  have last : ∀ other, buffers.logsOf other <:+ p.buffers.logsOf other ++
      ((arriving key p.clock logs).filter fun a => a.key = other).map (·.log) := by
    intro other
    rw [filter_arriving]
    by_cases same : key = other
    · subst same
      rw [if_pos rfl, map_log_arriving]
      exact ⟨groups.flatten, left⟩
    · rw [if_neg same, List.map_nil, List.append_nil]
      exact (others other (Ne.symm same)) ▸ List.suffix_refl _
  refine ⟨fun other => (prompt.traced.suffix (last other)).2, prompt.ahead, ?_⟩
  rcases prompt.next with now | ⟨due, set, soon, bound⟩
  · refine .inl ?_
    rw [readied]
    exact List.mem_append_left _ now
  · refine .inr ⟨due, set, soon, fun other arrival member => ?_⟩
    rcases List.mem_append.mp ((prompt.traced.suffix (last other)).1.subset member) with old | new
    · exact bound other arrival old
    · obtain ⟨log, _, rfl⟩ := List.mem_map.mp (List.mem_filter.mp new).1
      exact soon

variable [Quantity α]

theorem Prompt.submit (prompt : Prompt interval arrivals p) (s : Submission) :
    Prompt interval (arrivals ++ received s p (Admission.submit s p).1)
      (Admission.submit s p).2 := by
  rcases frame_undisturbed.submit s p (fun _ _ _ => .of_same rfl rfl rfl rfl) with
    ⟨q, still, answer, joined⟩ | ⟨answer, still⟩
  · rw [answer, received, ← still.clock]
    exact (prompt.undisturbed still).buffered joined
  · have nothing : received s p (Admission.submit s p).1 = [] := by
      rw [received]
      exact answer
    rw [nothing, List.append_nil]
    exact prompt.undisturbed still

theorem Flushing.submit (flushing : Flushing interval arrivals p) (s : Submission) :
    Flushing interval (arrivals ++ received s p (Admission.submit s p).1)
      (Admission.submit s p).2 :=
  ⟨flushing.toRuns.submit s, flushing.toPrompt.submit s, flushing.positive⟩

/-! ## Tasks -/

theorem Flushing.empty (flushing : Flushing interval arrivals p) {rest : List Task}
    (among : p.ready.Perm (emptying interval :: rest)) :
    Prompt interval arrivals (runTask (emptying interval) { p with ready := rest }).2 := by
  have again := proceeds_again flushing.orderly among
  have drained :=
    (proceeds_drainBuffers again.orderly (again.shutDown.trans flushing.running)).2.1
  have timed : (setTimer interval (emptying interval) { p with ready := rest }).2 =
      { p with
        ready := rest
        timers := p.timers ++ [⟨p.clock + interval, emptying interval⟩] } := by
    rw [setTimer_apply, if_neg (Nat.ne_of_gt flushing.positive)]
  have still := undisturbed_drainBuffers
    (setTimer interval (emptying interval) { p with ready := rest }).2
  have clock : (setTimer interval (emptying interval) { p with ready := rest }).2.clock =
      p.clock := by
    rw [timed]
  refine prompt_of_empty ?_ (still.timers _ ?_) drained arrivals
  · intro timer member
    rw [still.clock, clock]
    rcases still.later timer member with before | later
    · rw [timed] at before
      exact forall_mem_append_singleton flushing.ahead
        (Nat.lt_add_of_pos_right flushing.positive) timer before
    · exact clock ▸ later
  · rw [still.clock, timed]
    exact List.mem_append_right _ List.mem_cons_self

theorem Flushing.runTask (flushing : Flushing interval arrivals p) {task : Task}
    {rest : List Task} (among : p.ready.Perm (task :: rest)) :
    Flushing interval arrivals (runTask task { p with ready := rest }).2 := by
  refine ⟨flushing.toRuns.runTask among, ?_, flushing.positive⟩
  by_cases same : emptying interval = task
  · subst same
    exact flushing.empty among
  · -- Any other task leaves the next time where it is.
    refine (flushing.toPrompt.take among same).undisturbed ?_
    have frame := frame_undisturbed (α := α)
    cases task with
    | flush key logs => exact frame.makeBatch key logs _
    | serve => exact frame.serve _
    | resume id retry => exact frame.deliver id retry _ _
    | change c => exact .of_same rfl rfl rfl rfl
    | run job =>
        refine (undisturbed_setTimer job.period (.run job) _).trans ?_
        obtain ⟨kind, period⟩ := job
        cases kind with
        | flushBuffers => exact undisturbed_drainBuffers _
        | refillLimiter | evictDecisions | cleanUp => exact .of_same rfl rfl rfl rfl

/-! ## The start -/

structure Unused (p : Pipeline α) : Prop extends Runs p where
  ready : p.ready = []
  timers : p.timers = []
  empty : Drained p

omit [Quantity α] in
theorem Unused.setTimer (unused : Unused p) (positive : 1 ≤ interval) (arrivals : List Arrival) :
    Flushing interval arrivals (Pipeline.setTimer interval (emptying interval) p).2 := by
  refine ⟨unused.toRuns.setTimer positive interval, ?_, positive⟩
  rw [setTimer_apply, if_neg (Nat.ne_of_gt positive), unused.timers]
  refine prompt_of_empty ?_ ?_ ?_ arrivals
  · simp only [List.nil_append, List.forall_mem_singleton]
    exact Nat.lt_add_of_pos_right positive
  · exact List.mem_singleton.mpr rfl
  · exact unused.empty

omit [Quantity α] in
theorem Flushing.setTimer (flushing : Flushing interval arrivals p) {job : Job}
    (period : 1 ≤ job.period) (delay : Nat) :
    Flushing interval arrivals (Pipeline.setTimer delay (.run job) p).2 :=
  ⟨flushing.toRuns.setTimer period delay,
    flushing.toPrompt.undisturbed (undisturbed_setTimer delay (.run job) p),
    flushing.positive⟩

/-! ## Whatever is asked of a pipeline -/

theorem keptInTime_flushing (interval : Nat) (arrivals : List Arrival) :
    KeptInTime (α := α) (Flushing interval arrivals) where
  orderly _ flushing := flushing.orderly
  ahead _ flushing := flushing.ahead
  runTask _ _ _ among flushing := flushing.runTask among
  moveTo _ instant rests flushing :=
    ⟨⟨flushing.orderly.moveTo instant, flushing.running⟩, flushing.toPrompt.moveTo rests.onward,
      flushing.positive⟩

theorem keptByUse_flushing (interval : Nat) (arrivals : List Arrival) :
    KeptByUse (α := α) True (fun turn => [turn]) fun _ => Flushing interval arrivals where
  toKeptByTurns := (keptInTime_flushing interval arrivals).keptByTurns _
  plain _ _ flushing := flushing.orderly.plain
  drainBuffers _ _ flushing := flushing.drainBuffers
  aside _ _ _ gateway plain ids flushing :=
    ⟨flushing.toRuns.aside gateway plain ids,
      flushing.toPrompt.undisturbed (.of_same rfl rfl rfl rfl), flushing.positive⟩

theorem keptInTime_unused : KeptInTime (α := α) Unused where
  orderly _ unused := unused.orderly
  ahead _ unused := by
    rw [unused.timers]
    exact List.forall_mem_nil _
  runTask _ _ _ among unused := by
    rw [unused.ready] at among
    cases among.length_eq
  moveTo _ instant _ unused := by
    have runs : Runs (Pipeline.moveTo instant _).2 :=
      ⟨unused.orderly.moveTo instant, unused.running⟩
    rw [moveTo_of_untimed unused.timers] at runs ⊢
    exact ⟨runs, unused.ready, unused.timers, unused.empty⟩

theorem keptByUse_unused : KeptByUse (α := α) True (fun turn => [turn]) fun _ => Unused where
  toKeptByTurns := keptInTime_unused.keptByTurns _
  plain _ _ unused := unused.orderly.plain
  drainBuffers _ _ unused := unused.empty.drainBuffers.symm ▸ unused
  aside _ _ _ gateway plain ids unused :=
    ⟨unused.toRuns.aside gateway plain ids, unused.ready, unused.timers, unused.empty⟩

end Pipeline

/-! ## The jobs of a service -/

theorem PipelineConfig.one_le_flushIntervalMs {c : PipelineConfig} (some : c.flushIntervalMs ≠ 0) :
    1 ≤ c.flushIntervalMs.toNat :=
  Nat.pos_of_ne_zero fun zero => some (UInt64.toNat_inj.mp zero)

theorem PipelineConfig.jobs_eq_cons {c : PipelineConfig} (some : c.flushIntervalMs ≠ 0) :
    ∃ others, c.jobs =
      (c.flushIntervalMs.toNat, ⟨.flushBuffers, c.flushIntervalMs.toNat⟩) :: others := by
  have within : (Nanos.ofMillis c.flushIntervalMs.toNat).Waitable := by
    change c.flushIntervalMs.toNat * 1000000 < 9223372036854775808 * 1000000000
    have below := c.flushIntervalMs.toNat_lt
    omega
  have waits : c.flushInterval.waitMillis = c.flushIntervalMs.toNat :=
    Nanos.waitMillis_ofMillis within
  simp only [PipelineConfig.jobs, waits, Nat.max_eq_left (one_le_flushIntervalMs some)]
  split <;> exact ⟨_, rfl⟩

namespace Service

open Pipeline

variable {α : Type} [Quantity α] {s : Service α}

/-! ## What comes in while a service runs -/

def arrivalsOf (s : Service α) : Happening α → List Arrival
  | .occurrence (.event (.receive submission)) =>
    received submission s.pipeline (receive submission s).1
  | _ => []

def arrivals (s : Service α) : List (Happening α) → List Arrival
  | [] => []
  | happening :: rest => s.arrivalsOf happening ++ (s.happen happening).arrivals rest

variable {c : PipelineConfig} {came : List Arrival}

inductive Empties (c : PipelineConfig) (came : List Arrival) (s : Service α) : Prop where
  | unused (state : s.state = .initialized) (config : s.config = c) (unused : Unused s.pipeline)
  | running (state : s.state = .running)
      (flushing : Flushing c.flushIntervalMs.toNat came s.pipeline)
  | stopped (state : s.state = .stopped)

theorem Empties.use (empties : Empties c came s) {happening : Happening α}
    (plain : happening.IsPlain) (use : happening.IsUse) :
    Empties c came (s.happen happening) := by
  obtain ⟨config, state⟩ := happen_use (s := s) use
  cases empties with
  | unused fresh same unused =>
      exact .unused (state.trans fresh) (config.trans same)
        (keptByUse_unused.happen [] unused plain use)
  | running running flushing =>
      exact .running (state.trans running)
        ((keptByUse_flushing _ came).happen [] flushing plain use)
  | stopped stopped => exact .stopped (state.trans stopped)

theorem Empties.start (some : c.flushIntervalMs ≠ 0) (empties : Empties c came s) :
    Empties c came (s.react .start) := by
  cases empties with
  | unused fresh same unused =>
      subst same
      rw [Service.react, start_of_initialized fresh]
      obtain ⟨others, jobs⟩ := PipelineConfig.jobs_eq_cons some
      have periods := period_of_mem_jobs s.config
      rw [jobs] at periods
      have first := unused.setTimer (PipelineConfig.one_le_flushIntervalMs some) came
      have later := setTimers_keeps
        (fun _ _ delay period flushing => flushing.setTimer period delay)
        (List.forall_mem_cons.mp periods).2 first
      refine .running rfl ?_
      dsimp only
      rw [jobs]
      exact later
  | running running flushing =>
      obtain ⟨config, state, pipeline⟩ := s
      cases running
      exact .running rfl flushing
  | stopped stopped =>
      obtain ⟨_, same⟩ := (refuses_of_stopped stopped).start
      rw [Service.react, same]
      exact .stopped stopped

theorem Empties.stop (empties : Empties c came s) : Empties c came (s.react .stop) := by
  by_cases running : s.state = .running
  · rw [Service.react, stop_of_running running]
    exact .stopped rfl
  · rw [Service.react, stop_of_idle running]
    exact empties

theorem Empties.receive (empties : Empties c came s) (submission : Submission) :
    Empties c (came ++ s.arrivalsOf (.occurrence (.event (.receive submission))))
      (s.react (.receive submission)) := by
  by_cases running : s.state = .running
  · rw [arrivalsOf, Service.react, receive_of_running running]
    cases empties with
    | running _ flushing => exact .running running (flushing.submit submission)
    | unused state | stopped state =>
        rw [running] at state
        cases state
  · rw [arrivalsOf, Service.react, receive_of_idle running]
    exact (List.append_nil came).symm ▸ empties

theorem Empties.happen (some : c.flushIntervalMs ≠ 0) (empties : Empties c came s)
    {happening : Happening α} (plain : happening.IsPlain) :
    Empties c (came ++ s.arrivalsOf happening) (s.happen happening) := by
  have nothing := List.append_nil came
  cases happening with
  | occurrence occurrence =>
      cases occurrence with
      | event event =>
          cases event with
          | start => exact nothing.symm ▸ empties.start some
          | stop => exact nothing.symm ▸ empties.stop
          | receive submission => exact empties.receive submission
          | change | advance | turn => exact nothing.symm ▸ empties.use plain trivial
      | cleanUp => exact nothing.symm ▸ empties.use plain trivial
  | waitIdle | flushAll | process | asked => exact nothing.symm ▸ empties.use plain trivial

theorem Empties.afterAll (some : c.flushIntervalMs ≠ 0) (empties : Empties c came s)
    {happenings : List (Happening α)} (plain : ∀ happening ∈ happenings, happening.IsPlain) :
    Empties c (came ++ s.arrivals happenings) (s.afterAll happenings) := by
  induction happenings generalizing came s with
  | nil => exact (List.append_nil came).symm ▸ empties
  | cons happening rest ih =>
      obtain ⟨first, others⟩ := List.forall_mem_cons.mp plain
      have later := ih (empties.happen some first) others
      rw [List.append_assoc] at later
      exact later

/-- Whatever happens to a service: when it runs and all that is ready has been done, each log in a
buffer came in less than one flush interval ago. -/
theorem buffered_less_than_interval {c : PipelineConfig} {processors : Nat} {backend : Backend}
    {epoch : Int} {fresh : Service α} (built : build c processors backend epoch = .ok fresh)
    (plain : backend.Plain) (happenings : List (Happening α))
    (spared : ∀ happening ∈ happenings, happening.IsPlain)
    (running : (fresh.afterAll happenings).state = .running)
    (settled : (fresh.afterAll happenings).pipeline.ready = []) (key : Key) :
    let p := (fresh.afterAll happenings).pipeline
    let held := p.buffers.held (fresh.arrivals happenings) key
    held.map (·.log) = p.buffers.logsOf key ∧
      ∀ arrival ∈ held, p.clock < arrival.instant + c.flushIntervalMs.toNat := by
  have some : c.flushIntervalMs ≠ 0 :=
    PipelineConfig.ne_zero_of_validate (valid_of_build built) ("flush_interval_ms", _)
      (by simp [PipelineConfig.positive])
  have start : Empties c [] fresh := by
    have runs := runs_of_build built plain
    rw [eq_of_build built] at runs ⊢
    exact .unused rfl rfl ⟨runs, rfl, rfl, fun _ => rfl⟩
  have empties := start.afterAll some spared
  intro p held
  cases empties with
  | unused state | stopped state =>
      rw [running] at state
      cases state
  | running _ flushing =>
      refine ⟨flushing.traced key, fun arrival member => ?_⟩
      rcases flushing.next with now | ⟨due, set, -, bound⟩
      · rw [settled] at now
        cases now
      · exact Nat.lt_of_lt_of_le (flushing.ahead _ set) (bound key arrival member)

/-- A log that comes in at the very instant at which another leaves stays until just before the next
time. -/
theorem buffered_less_than_interval_at_flush :
    let key : Key := ⟨⟨"app"⟩, ⟨"endpoint"⟩⟩
    let log : RawLog := .new "text" .custom ⟨0, 0⟩
    let known := opened ⟨"", 1⟩ .defaults (.put .empty (.new key.app "key" "secret"))
      (.put .empty (.new key.endpoint .custom))
    let c : PipelineConfig := { PipelineConfig.defaults with flushIntervalMs := 10 }
    let single : Event := .receive ⟨key, [log], .single⟩
    let happenings : List (Happening Rat) :=
      [.start, .advance 3, single, .advance 7, .turn 0, single, .advance 9].map fun event =>
        .occurrence (.event event)
    ∃ fresh : Service Rat, build c 1 known 0 = .ok fresh ∧
      let p := (fresh.afterAll happenings).pipeline
      let held := p.buffers.held (fresh.arrivals happenings) key
      (fresh.afterAll happenings).state = .running ∧ p.ready = [] ∧
        ((fresh.arrivals happenings).map Arrival.instant, held.map Arrival.instant, p.clock) =
          ([3, 10], [10], 19) ∧
        (held.map (·.log) = p.buffers.logsOf key ∧
          ∀ arrival ∈ held, p.clock < arrival.instant + c.flushIntervalMs.toNat) := by
  intro key log known c single happenings
  have built : build c 1 known 0 =
      .ok (⟨c, .initialized, c.pipeline 1 known 0⟩ : Service Rat) :=
    rfl
  have spared : ∀ happening ∈ happenings, happening.IsPlain := by
    simp [happenings, single, Happening.IsPlain, Event.IsPlain]
  have running : (Service.afterAll (⟨c, .initialized, c.pipeline 1 known 0⟩ : Service Rat)
      happenings).state = .running := by
    decide +kernel
  have settled : (Service.afterAll (⟨c, .initialized, c.pipeline 1 known 0⟩ : Service Rat)
      happenings).pipeline.ready = [] :=
    List.isEmpty_iff.mp (by decide +kernel)
  exact ⟨_, built, running, settled, by decide +kernel,
    buffered_less_than_interval built ⟨rfl, rfl⟩ happenings spared running settled key⟩

end Service

end LogPipeline
