import LogPipeline.Proofs.Pipeline.Process

namespace LogPipeline.Pipeline

open Backend

variable {α : Type}

structure OnlyOutages (p : Pipeline α) : Prop where
  ready : ∀ task ∈ p.ready, ∃ outage : Outage, task = .change outage.change
  timers : ∀ timer ∈ p.timers, ∃ outage : Outage, timer.task = .change outage.change

structure Weathers (p q : Pipeline α) : Prop where
  tasks : q.OnlyOutages
  pool : q.pool = p.pool
  epoch : q.epoch = p.epoch
  backend : Weathered p.backend q.backend

variable {p q r : Pipeline α}

theorem OnlyOutages.plainTasks (tasks : p.OnlyOutages) : p.PlainTasks where
  ready task member := by
    obtain ⟨outage, rfl⟩ := tasks.ready task member
    exact outage.isPlain_change
  timers timer member := by
    obtain ⟨outage, same⟩ := tasks.timers timer member
    rw [same]
    exact outage.isPlain_change

theorem Weathers.refl (tasks : p.OnlyOutages) : Weathers p p :=
  ⟨tasks, rfl, rfl, .refl _⟩

theorem Weathers.trans (one : Weathers p q) (other : Weathers q r) : Weathers p r :=
  ⟨other.tasks, other.pool.trans one.pool, other.epoch.trans one.epoch,
    one.backend.trans other.backend⟩

theorem weathers_moveTo (tasks : p.OnlyOutages) (instant : Nat) :
    Weathers p (moveTo instant p).2 := by
  rw [moveTo_apply]
  refine ⟨⟨?_, ?_⟩, rfl, rfl, .refl _⟩
  · intro task member
    rcases List.mem_append.mp member with early | due
    · exact tasks.ready task early
    · obtain ⟨timer, among, rfl⟩ := List.mem_map.mp due
      exact tasks.timers timer (List.mem_filter.mp among).1
  · intro timer member
    exact tasks.timers timer (List.mem_filter.mp member).1

variable [Quantity α]

theorem weathers_runNext (tasks : p.OnlyOutages) : Weathers p (runNext p).2 := by
  cases next : p.ready with
  | nil =>
      rw [runNext_nil next]
      exact .refl tasks
  | cons task ready =>
      rw [runNext_cons next]
      obtain ⟨outage, rfl⟩ := tasks.ready task (next ▸ List.mem_cons_self)
      refine ⟨⟨?_, tasks.timers⟩, rfl, rfl, weathered_change outage p.now p.backend⟩
      exact fun other member => tasks.ready other (next ▸ List.mem_cons_of_mem _ member)

theorem keptByTime_weathers (p : Pipeline α) : KeptByTime (Weathers p) where
  runNext _ weathers := weathers.trans (weathers_runNext weathers.tasks)
  moveTo _ instant weathers := weathers.trans (weathers_moveTo weathers.tasks instant)

theorem weathers_waited (tasks : p.OnlyOutages) (span : Nanos) : Weathers p (p.waited span) := by
  unfold waited
  split
  · exact .refl tasks
  · exact (keptByTime_weathers p).passUntil (.refl tasks) _

theorem clock_waited (span : Nanos) (p : Pipeline α) :
    (p.waited span).clock = p.clock + span.waitMillis := by
  unfold waited
  by_cases short : span = 0
  · rw [if_pos short, short]
    rfl
  · rw [if_neg short, clock_passUntil]

end LogPipeline.Pipeline
