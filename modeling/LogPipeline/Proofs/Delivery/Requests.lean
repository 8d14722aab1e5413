import LogPipeline.Proofs.Delivery.Attempt

namespace LogPipeline

/-- How the storage is handed a batch: the batch is recorded as being in processing, the storage
does not have it, and the logs are what the preprocessor validates of it, in the order of the
batch. -/
structure HandedOver (now : Timestamp) (id : BatchId) (logs : List ProcessedLog)
    (found : Backend) : Prop where
  recorded : ∃ batch, found.batches.get? id = some batch ∧ batch.status = .processing ∧
    logs = (batch.logs.map (found.preprocessor.preprocess batch.key now)).filter (·.validated)
  absent : found.storage.held.contains id = false

def soleBatch : Batch :=
  .new ⟨"batch"⟩ ⟨⟨"app"⟩, ⟨"endpoint"⟩⟩ [.new "text" .custom ⟨0, 0⟩] ⟨0, 0⟩

def Backend.knowing (batch : Batch) : Backend :=
  (Backend.empty ⟨"", 1⟩ .defaults).keep batch

def Backend.copies (b : Backend) (id : BatchId) : Nat :=
  if b.storage.held.contains id then 1 else 0

theorem Backend.copies_le_one (b : Backend) (id : BatchId) : b.copies id ≤ 1 := by
  unfold copies
  split <;> omega

variable {policy : RetryPolicy} {now : Timestamp} {id : BatchId} {retry : Nat} {b : Backend}

theorem Due.handedOver {batch : Batch} (due : Due policy b id batch) {marked : Batch}
    (mark : marked = (startChange retry now).apply batch) {logs : List ProcessedLog}
    (valid : logs = validLogs b.preprocessor batch now) :
    HandedOver now id logs (b.keep marked) := by
  have kept : (b.keep marked).batches.get? id = some marked := by
    rw [mark]
    exact BatchStore.get?_put_apply due.found _
  refine ⟨⟨marked, kept, ?_, ?_⟩, due.absent⟩
  · rw [mark, BatchUpdate.status_apply, target_startChange]
  · rw [valid, mark, BatchUpdate.logs_apply, BatchUpdate.key_apply]
    rfl

section

variable {requests : List Request} {result : Except Failure Outcome} {after : Backend}

theorem Attempted.handedOver (attempted : Attempted policy now id retry b requests result after)
    {asked : BatchId} {logs : List ProcessedLog} {found : Backend}
    {answer : Except Failure StoreAnswer} (member : .store asked logs found answer ∈ requests) :
    asked = id ∧ HandedOver now id logs found := by
  cases attempted with
  | refused due _ mark valid =>
      simp only [List.mem_cons, reduceCtorEq, List.not_mem_nil, or_false, false_or] at member
      cases member
      exact ⟨rfl, due.handedOver mark valid⟩
  | stored _ _ due _ mark valid =>
      simp only [List.mem_cons, reduceCtorEq, List.not_mem_nil, or_false, false_or] at member
      cases member
      exact ⟨rfl, due.handedOver mark valid⟩
  | _ => simp at member

theorem Attempted.stores_le (attempted : Attempted policy now id retry b requests result after)
    (asked : BatchId) :
    requests.countP (Request.stores asked) + b.copies asked ≤ after.copies asked := by
  cases attempted with
  | refused due _ _ _ refusing =>
      rw [Storage.store_of_refusing due.available refusing]
      simp [Request.stores, Backend.copies]
  | stored _ _ due _ _ _ _ accepting =>
      rw [Storage.store_of_accepting due.available accepting]
      simp only [Backend.copies, Table.contains_insert]
      by_cases same : id = asked
      · subst same
        simp [Request.stores, due.absent]
      · simp [Request.stores, same]
  | held => exact Nat.le_of_eq (Nat.zero_add _)
  | empty => exact Nat.le_of_eq (Nat.zero_add _)
  | _ => simp [Request.stores]

theorem Attempted.calls_eq (attempted : Attempted policy now id retry b requests result after) :
    after.storage.calls = b.storage.calls + requests.countP Request.isStore := by
  cases attempted with
  | refused due _ _ _ refusing =>
      rw [Storage.store_of_refusing due.available refusing]
      rfl
  | stored _ _ due _ _ _ _ accepting =>
      rw [Storage.store_of_accepting due.available accepting]
      rfl
  | _ => rfl

end

section

variable {tried : Observed.Tried}

theorem Concluded.handedOver (concluded : Concluded policy now id retry b tried)
    {asked : BatchId} {logs : List ProcessedLog} {found : Backend}
    {answer : Except Failure StoreAnswer}
    (member : .store asked logs found answer ∈ tried.requests) :
    asked = id ∧ HandedOver now id logs found := by
  cases concluded with
  | ended attempted => exact attempted.handedOver member
  | retried attempted => exact attempted.handedOver member
  | unrecorded attempted =>
      exact attempted.handedOver (by simpa using member)
  | failed attempted =>
      exact attempted.handedOver (by simpa using member)

theorem Concluded.stores_le (concluded : Concluded policy now id retry b tried)
    (asked : BatchId) :
    tried.requests.countP (Request.stores asked) + b.copies asked ≤ tried.after.copies asked := by
  cases concluded with
  | ended attempted => exact attempted.stores_le asked
  | retried attempted => exact attempted.stores_le asked
  | unrecorded attempted =>
      rw [List.countP_append]
      exact attempted.stores_le asked
  | failed attempted =>
      rw [List.countP_append]
      exact attempted.stores_le asked

theorem Concluded.calls_eq (concluded : Concluded policy now id retry b tried) :
    tried.after.storage.calls = b.storage.calls + tried.requests.countP Request.isStore := by
  cases concluded with
  | ended attempted => exact attempted.calls_eq
  | retried attempted => exact attempted.calls_eq
  | unrecorded attempted =>
      rw [List.countP_append]
      exact attempted.calls_eq
  | failed attempted =>
      rw [List.countP_append]
      exact attempted.calls_eq

end

end LogPipeline
