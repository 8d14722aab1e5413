import LogPipeline.Proofs.Backend.Calls
import LogPipeline.Proofs.Batch.Store

namespace LogPipeline.Backend

variable {α : Type} {b after : Backend}

def OnlyFaults (b after : Backend) : Prop :=
  ∃ faults, after = { b with faults } ∧ (b.faults = .empty → faults = .empty)

theorem take_spared (b : Backend) (p : Port) (spared : b.faults = .empty) :
    (b.faults.take p) = (false, .empty) := by
  rw [spared]
  rfl

def Answers (b : Backend) (value : α) (call : Call α) : Prop :=
  ∃ after, OnlyFaults b after ∧
    (call.on b = (.ok value, after) ∨
      b.faults ≠ .empty ∧ ∃ e, call.on b = (.error e, after))

theorem answers_checkpoint (b : Backend) (p : Port) : Answers b () (checkpoint p) := by
  refine ⟨{ b with faults := (b.faults.take p).2 }, ⟨_, rfl, fun spared => ?_⟩, ?_⟩
  · rw [take_spared b p spared]
  · simp only [checkpoint, goesWrong, Call.on_bind, Call.on_get, Call.on_set, Call.on_pure]
    cases wrong : (b.faults.take p).1 with
    | false => exact .inl rfl
    | true =>
        refine .inr ⟨fun spared => ?_, p.failure, rfl⟩
        rw [take_spared b p spared] at wrong
        cases wrong

theorem answers_read (b : Backend) (p : Port) (read : Backend → α)
    (same : ∀ faults, read { b with faults } = read b) :
    Answers b (read b) (do checkpoint p; return read (← get)) := by
  obtain ⟨_, ⟨faults, rfl, spared⟩, passed | ⟨planned, e, failed⟩⟩ := answers_checkpoint b p
  · refine ⟨_, ⟨faults, rfl, spared⟩, .inl ?_⟩
    simp only [Call.on_bind, passed, Call.on_get, Call.on_pure, same]
  · refine ⟨_, ⟨faults, rfl, spared⟩, .inr ⟨planned, e, ?_⟩⟩
    simp only [Call.on_bind, failed]

theorem answers_findApp (b : Backend) (id : AppId) : Answers b (b.apps.get? id) (findApp id) :=
  answers_read b .findApp (fun b => b.apps.get? id) fun _ => rfl

theorem answers_findAppByKey (b : Backend) (accessKey : String) :
    Answers b (b.apps.values.find? fun app => app.accessKey = accessKey)
      (findAppByKey accessKey) := by
  have read := answers_read b .findAppByKey
    (fun b => b.apps.values.find? fun app => app.accessKey = accessKey) fun _ => rfl
  exact read

theorem answers_findEndpoint (b : Backend) (id : EndpointId) :
    Answers b (b.endpoints.get? id) (findEndpoint id) :=
  answers_read b .findEndpoint (fun b => b.endpoints.get? id) fun _ => rfl

theorem on_saveBatch_cases (b : Backend) (batch : Batch) :
    ∃ after, OnlyFaults b after ∧
      ((∃ e, (saveBatch batch).on b = (.error e, after) ∧
          (b.faults ≠ .empty ∨ b.batches.failWrites = true)) ∨
        (saveBatch batch).on b = (.ok (), { after with batches := b.batches.put batch }) ∧
          b.batches.failWrites = false) := by
  obtain ⟨_, ⟨faults, rfl, spared⟩, passed | ⟨planned, e, failed⟩⟩ :=
    answers_checkpoint b .saveBatch
  · refine ⟨_, ⟨faults, rfl, spared⟩, ?_⟩
    simp only [saveBatch, Call.on_bind, passed, Call.on_get, BatchStore.save]
    cases b.batches.failWrites with
    | true => exact .inl ⟨_, rfl, .inr rfl⟩
    | false => exact .inr ⟨rfl, rfl⟩
  · refine ⟨_, ⟨faults, rfl, spared⟩, .inl ⟨e, ?_, .inl planned⟩⟩
    simp only [saveBatch, Call.on_bind, failed]

end LogPipeline.Backend
