import Mathlib.Data.List.Perm.Basic
import LogPipeline.Proofs.Pipeline.Evolution

namespace LogPipeline

open Backend Pipeline

structure Delivery where
  id : BatchId
  retry : Nat

structure Workers (α : Type) where
  pipeline : Pipeline α
  calls : List Delivery

namespace Workers

/-- What can happen next. The pool is given batches and does its tasks in any order; calls begin,
make attempts and are cut short. Tasks and calls are told by their places. -/
inductive Event where
  | schedule (id : BatchId)
  | turn (place : Nat)
  | call (id : BatchId)
  | attempt (place : Nat)
  | interrupt (place : Nat)
  | outage (outage : Outage)
  | cleanUp (policy : RetentionPolicy)
  | wait (instant : Nat)

def proceed (calls : List Delivery) (place : Nat) (id : BatchId) : Next → List Delivery
  | .done _ => calls.eraseIdx place
  | .wait retry _ => calls.set place ⟨id, retry⟩

variable {α : Type} [Quantity α]

def step (w : Workers α) : Event → Workers α
  | .schedule id => { w with pipeline := (schedule id w.pipeline).2 }
  | .turn place => { w with pipeline := (turn place w.pipeline).2 }
  | .call id => { w with calls := w.calls ++ [⟨id, 0⟩] }
  | .attempt place =>
    match w.calls[place]? with
    | none => w
    | some ⟨id, retry⟩ =>
      let (next, pipeline) := tryDelivery id retry w.pipeline
      ⟨pipeline, proceed w.calls place id next⟩
  | .interrupt place => { w with calls := w.calls.eraseIdx place }
  | .outage outage => { w with pipeline := (change outage.change w.pipeline).2 }
  | .cleanUp policy =>
    { w with pipeline := (onBackend (LogPipeline.cleanUp policy w.pipeline.now) w.pipeline).2 }
  | .wait instant => { w with pipeline := (moveTo instant w.pipeline).2 }

def records (w : Workers α) : Event → List Record
  | .turn place =>
    match w.pipeline.ready[place]? with
    | none => []
    | some task =>
      taskRecords task { w.pipeline with ready := w.pipeline.ready.eraseIdx place }
  | .attempt place =>
    match w.calls[place]? with
    | none => []
    | some ⟨id, retry⟩ => attemptRecords id retry w.pipeline
  | _ => []

def run (w : Workers α) : List Event → List Record × Workers α
  | [] => ([], w)
  | event :: rest =>
    let (later, final) := run (w.step event) rest
    (w.records event ++ later, final)

variable {w : Workers α}

theorem evolved_step (tasks : w.pipeline.PlainTasks) (event : Event) :
    Evolved w.pipeline (w.records event) (w.step event).pipeline := by
  cases event with
  | schedule id =>
      have scheduled := evolved_scheduled tasks id
      simp only [step, schedule_apply]
      exact scheduled
  | turn place =>
      simp only [step, records]
      cases found : w.pipeline.ready[place]? with
      | none =>
          rw [turn_none found]
          exact .refl tasks
      | some task =>
          rw [turn_some found]
          obtain ⟨within, rfl⟩ := List.getElem?_eq_some_iff.mp found
          exact evolved_take tasks (List.getElem_cons_eraseIdx_perm within).symm
  | attempt place =>
      simp only [step, records]
      cases w.calls[place]? with
      | none => exact .refl tasks
      | some delivery =>
          have tried := evolved_tryOnce tasks delivery.id delivery.retry
          simp only [tryDelivery_apply, Observed.tryOnce_shows]
          exact tried
  | outage outage =>
      exact .of_move tasks rfl rfl rfl (.change outage.isPlain_change _ _)
  | cleanUp policy => exact .of_move tasks rfl rfl rfl (.cleanUp policy _ _)
  | wait instant => exact evolved_moveTo tasks instant
  | call id => exact .refl tasks
  | interrupt place => exact .refl tasks

theorem evolved_run (tasks : w.pipeline.PlainTasks) (events : List Event) :
    Evolved w.pipeline (w.run events).1 (w.run events).2.pipeline := by
  induction events generalizing w with
  | nil => exact .refl tasks
  | cons event rest ih =>
      have first := evolved_step tasks event
      exact first.trans (ih first.tasks)

/-- Whatever happens in whatever order, the storage takes a batch at most once; it counts every
batch that it is handed; and it is handed a batch only while that is in processing and the storage
does not have it, with the logs that the preprocessor validates, in their order. -/
theorem stored_at_most_once (w : Workers α) (plain : w.pipeline.backend.Plain)
    (tasks : w.pipeline.PlainTasks) (events : List Event) :
    (∀ id, (w.run events).1.countP (fun r => r.2.stores id) ≤ 1) ∧
      (w.run events).2.pipeline.backend.storage.calls =
        w.pipeline.backend.storage.calls + (w.run events).1.countP (fun r => r.2.isStore) ∧
      ∀ now id logs found answer, (now, .store id logs found answer) ∈ (w.run events).1 →
        HandedOver now id logs found := by
  have history := (evolved_run tasks events).history
  exact ⟨history.stores_le_one plain, history.calls_eq plain, fun _ _ _ _ _ member =>
    history.handedOver plain member⟩

def contested : Workers Rat :=
  ⟨{ (idle (.knowing soleBatch) 0 : Pipeline Rat) with pool := .new ⟨1, 1⟩ 1 }, []⟩

def rivals : List Event :=
  [.call soleBatch.id, .schedule soleBatch.id, .outage (.refuseNext 1), .attempt 0, .turn 0,
    .wait 1, .attempt 0]

theorem stored_at_most_once_by_rivals :
    contested.pipeline.backend.Plain ∧ contested.pipeline.PlainTasks ∧
      (contested.run rivals).1.countP (fun r => r.2.isStore) = 2 ∧
      (contested.run rivals).1.countP (fun r => r.2.stores soleBatch.id) = 1 ∧
      ((∀ id, (contested.run rivals).1.countP (fun r => r.2.stores id) ≤ 1) ∧
        (contested.run rivals).2.pipeline.backend.storage.calls =
          contested.pipeline.backend.storage.calls +
            (contested.run rivals).1.countP (fun r => r.2.isStore) ∧
        ∀ now id logs found answer, (now, .store id logs found answer) ∈ (contested.run rivals).1 →
          HandedOver now id logs found) := by
  have tasks : contested.pipeline.PlainTasks := ⟨List.forall_mem_nil _, List.forall_mem_nil _⟩
  exact ⟨⟨rfl, rfl⟩, tasks, by decide +kernel, by decide +kernel,
    stored_at_most_once contested ⟨rfl, rfl⟩ tasks rivals⟩

end Workers

end LogPipeline
