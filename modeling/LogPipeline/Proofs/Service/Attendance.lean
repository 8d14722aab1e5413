import LogPipeline.Proofs.Pipeline.Attended
import LogPipeline.Proofs.Service.Shutdown

namespace LogPipeline

open Backend

def Change.IsHarmless : Change → Prop
  | .putBatch _ => False
  | .failWrites on => on = false
  | c => c.IsPlain

theorem Change.IsHarmless.isPlain {c : Change} (harmless : c.IsHarmless) : c.IsPlain := by
  cases c with
  | script | faults => exact harmless.elim
  | _ => trivial

def Event.IsHarmless : Event → Prop
  | .change c => c.IsHarmless
  | _ => True

namespace Pipeline

variable {α : Type} {p : Pipeline α}

theorem Attended.change (attended : Attended p) {c : Change} (harmless : c.IsHarmless) :
    Attended (Pipeline.change c p).2 := by
  cases c with
  | putBatch made => exact harmless.elim
  | failWrites on =>
      cases harmless
      exact ⟨rfl, attended.scheduled⟩
  | dropBatch gone =>
      exact attended.of_opens (opens_erase p.backend gone) (fun _ member => member)
        (List.forall_mem_nil _)
  | _ => exact attended.of_same rfl rfl

theorem Attended.setTimer (attended : Attended p) (delay : Nat) (task : Task) :
    Attended (Pipeline.setTimer delay task p).2 := by
  rw [setTimer_apply]
  split <;> exact attended.of_same rfl rfl

theorem Attended.submit [Quantity α] (attended : Attended p) (runs : Runs p) (s : Submission) :
    Attended (Admission.submit s p).2 := by
  have plain := runs.orderly.plain
  have ended := Admission.ended_submit s p
  generalize Admission.submit s p = run at ended ⊢
  cases ended with
  | rejected asked =>
      obtain ⟨_, _, _, _, _, rfl⟩ := asked
      rw [Admission.turnedAway_apply]
      exact attended.of_same rfl rfl
  | buffered asked _ _ joined =>
      obtain ⟨_, _, _, _, _, rfl⟩ := asked
      obtain ⟨_, _, _, rfl⟩ := joined.only
      exact attended.of_same rfl rfl
  | accepted asked =>
      obtain ⟨faults, cache, limiter, _, _, rfl⟩ := asked
      have still : Attended (Admission.asked faults cache limiter p) := attended.of_same rfl rfl
      refine still.announce runs.orderly.handler runs.running ?_
      exact opens_put (.new p.backend.ids.fresh s.key (Admission.fitting p.backend s.key s.logs)
        p.now) rfl
  | unsaved _ _ _ cause =>
      rcases cause with planned | failing
      · exact absurd plain.faults planned
      · cases attended.writable.symm.trans failing

structure Tended (p : Pipeline α) : Prop extends Runs p, Attended p

end Pipeline

namespace Service

open Pipeline

variable {α : Type} [Quantity α]

theorem keptByEvents_tended : KeptByEvents (Tended (α := α)) Event.IsHarmless where
  runTask _ _ _ among tended :=
    ⟨tended.toRuns.runTask among, tended.toAttended.runTask tended.orderly tended.running among⟩
  moveTo _ instant tended :=
    ⟨⟨tended.orderly.moveTo instant, tended.running⟩, tended.toAttended.moveTo instant⟩
  setTimer _ _ delay period tended :=
    ⟨tended.toRuns.setTimer period delay, tended.toAttended.setTimer delay _⟩
  submit _ s tended := ⟨tended.toRuns.submit s, tended.toAttended.submit tended.toRuns s⟩
  change _ _ harmless tended :=
    ⟨tended.toRuns.change harmless.isPlain, tended.toAttended.change harmless⟩

/-- As long as a service runs, no batch is pending or in processing unless it is queued, its next
attempt is due, or it waits for that attempt. So a batch without a task has been processed or has
failed. -/
theorem open_batches_have_tasks {c : PipelineConfig} {processors : Nat} {backend : Backend}
    {epoch : Int} {fresh : Service α} (built : build c processors backend epoch = .ok fresh)
    (plain : backend.Plain) (writable : backend.batches.failWrites = false)
    (closed : ∀ id, ¬ backend.Open id) (events : List Event)
    (harmless : ∀ event ∈ events, event.IsHarmless)
    (running : (fresh.after events).state = .running) :
    let p := (fresh.after events).pipeline
    (∀ id, p.backend.Open id → HasTask p id) ∧
      (p.ready = [] → ∀ id, p.backend.Open id →
        id ∈ p.pool.waiting ∧ p.pool.seats ≤ p.pool.seated.length ∨
          id ∈ p.pausing.map Prod.fst) ∧
      ∀ id, ¬ HasTask p id → ∀ batch, p.backend.batches.get? id = some batch →
        batch.status = .processed ∨ batch.status = .failed := by
  intro p
  have start : Tended fresh.pipeline := by
    refine ⟨runs_of_build built plain, ?_⟩
    rw [eq_of_build built]
    exact ⟨writable, fun id opened => absurd opened (closed id)⟩
  have tended : Tended p :=
    (keptByEvents_tended.after (.inr start) harmless).resolve_left (by rw [running]; decide)
  have attends : ∀ id, p.backend.Open id → HasTask p id :=
    fun id opened => tended.toAttended.hasTask tended.orderly opened
  refine ⟨attends, fun settled id opened => (attends id opened).of_settled tended.orderly settled,
    fun id without batch found => ?_⟩
  cases status : batch.status with
  | pending => exact absurd (attends id ⟨batch, found, .inl status⟩) without
  | processing => exact absurd (attends id ⟨batch, found, .inr status⟩) without
  | processed => exact .inl rfl
  | failed => exact .inr rfl

/-- One worker, and a storage that refuses the first batch: it waits for its next attempt, and the
second batch waits for the worker. -/
theorem open_batches_have_tasks_queued :
    let key : Key := ⟨⟨"app"⟩, ⟨"endpoint"⟩⟩
    let log : RawLog := .new "text" .custom ⟨0, 0⟩
    let known := opened ⟨"", 1⟩ .defaults (.put .empty (.new key.app "key" "secret"))
      (.put .empty (.new key.endpoint .custom))
    let events : List Event :=
      [.start, .change (.refuseNext 1), .receive ⟨key, [log], .batch⟩, .turn 0,
        .receive ⟨key, [log, log], .batch⟩, .turn 0]
    ∃ fresh : Service Rat, build .defaults 1 known 0 = .ok fresh ∧
      let p := (fresh.after events).pipeline
      p.ready = [] ∧
        (p.backend.batches.get? known.ids.fresh).map (·.status) = some .processing ∧
        (p.backend.batches.get? known.ids.advance.fresh).map (·.status) = some .pending ∧
        ((∀ id, p.backend.Open id → HasTask p id) ∧
          (p.ready = [] → ∀ id, p.backend.Open id →
            id ∈ p.pool.waiting ∧ p.pool.seats ≤ p.pool.seated.length ∨
              id ∈ p.pausing.map Prod.fst) ∧
          ∀ id, ¬ HasTask p id → ∀ batch, p.backend.batches.get? id = some batch →
            batch.status = .processed ∨ batch.status = .failed) := by
  intro key log known events
  have built : build .defaults 1 known 0 =
      .ok (⟨.defaults, .initialized, PipelineConfig.defaults.pipeline 1 known 0⟩ : Service Rat) :=
    rfl
  have closed : ∀ id, ¬ known.Open id := by
    rintro id ⟨batch, found, -⟩
    cases found
  have harmless : ∀ event ∈ events, event.IsHarmless := by
    simp [events, Event.IsHarmless, Change.IsHarmless, Change.IsPlain]
  have settled : ((⟨.defaults, .initialized, PipelineConfig.defaults.pipeline 1 known 0⟩ :
      Service Rat).after events).pipeline.ready.isEmpty = true := by decide +kernel
  exact ⟨_, built, List.isEmpty_iff.mp settled, by decide +kernel, by decide +kernel,
    open_batches_have_tasks built ⟨rfl, rfl⟩ rfl closed events harmless (by decide +kernel)⟩

end Service

end LogPipeline
