import LogPipeline.Delivery.Attempt
import LogPipeline.Proofs.Backend.Calls

/-!
# Observed attempts

The attempts of a delivery once more, with a record of what they ask of the store of batches and
of the storage. Without the record they are the attempts themselves, so what is proved of the
record is proved of them.
-/

namespace LogPipeline

open Backend

def startChange (retry : Nat) (now : Timestamp) : BatchUpdate :=
  .attempt .processing (.ofNat retry) now

def emptyChange (now : Timestamp) : BatchUpdate :=
  .processTime .processed now now

def storedChange (trace : Option String) (now : Timestamp) : BatchUpdate :=
  .processed .processed now now trace true

def failureMessage (policy : RetryPolicy) (error : Failure) : String :=
  "batch processing failed after " ++ toString policy.maxRetries ++ " retries: " ++ error.message

inductive Request where
  | write (id : BatchId) (change : BatchUpdate) (answer : Except Failure Unit)
  | store (id : BatchId) (logs : List ProcessedLog) (found : Backend)
      (answer : Except Failure StoreAnswer)

namespace Request

def isFailedWrite : Request → Bool
  | .write _ _ (.error _) => true
  | _ => false

def isStore : Request → Bool
  | .store .. => true
  | .write .. => false

def stores (id : BatchId) : Request → Bool
  | .store asked _ _ (.ok (.stored _)) => asked = id
  | _ => false

end Request

/-- A call that also keeps a record of its requests, the latest last. -/
abbrev Observed (β : Type) := ExceptT Failure (StateM (Backend × List Request)) β

namespace Observed

variable {α β : Type}

def unseen (call : Call β) : Observed β := fun (b, seen) =>
  let (answer, after) := call.on b
  (answer, (after, seen))

def updateBatch (id : BatchId) (u : BatchUpdate) : Observed Unit := fun (b, seen) =>
  let (answer, after) := (Backend.updateBatch id u).on b
  (answer, (after, seen ++ [.write id u answer]))

def storeBatch (id : BatchId) (logs : List ProcessedLog) : Observed StoreAnswer :=
  fun (b, seen) =>
    let (answer, after) := (Backend.storeBatch id logs).on b
    (answer, (after, seen ++ [.store id logs b answer]))

def attemptQuietly (call : Observed Unit) : Observed Unit :=
  tryCatch call fun _ => pure ()

def storeValid (id : BatchId) (batch : Batch) (valid : List ProcessedLog) (now : Timestamp) :
    Observed Outcome := do
  match ← storeBatch id valid with
  | .refused reason => throw (.refused (reason.getD "no error message"))
  | .stored trace =>
    updateBatch id (storedChange trace now)
    let millis := (Timestamp.millisBetween batch.received now).toNat
    unseen (record fun t => t.batchProcessed batch.key (.ofNat valid.length) (.ofNat millis))
    return .processed trace valid.length

def handOver (id : BatchId) (batch : Batch) (now : Timestamp) : Observed Outcome := do
  let valid := (← unseen (preprocessBatch batch now)).filter (·.validated)
  if valid.isEmpty then
    updateBatch id (emptyChange now)
    return .nothingToStore
  storeValid id batch valid now

def attempt (policy : RetryPolicy) (now : Timestamp) (id : BatchId) (retry : Nat) :
    Observed Outcome := do
  let found ← unseen (findBatch id)
  match settledOutcome? policy found, found with
  | some outcome, _ => return outcome
  | none, none => return .notFound
  | none, some batch =>
    if ← unseen (isStored id) then
      attemptQuietly (updateBatch id (storedChange none now))
      return .alreadyStored
    updateBatch id (startChange retry now)
    handOver id batch now

def giveUp (policy : RetryPolicy) (now : Timestamp) (id : BatchId) (error : Failure) :
    Observed Outcome := do
  let message := failureMessage policy error
  attemptQuietly do
    updateBatch id (.failed policy.maxRetries message now)
    match ← unseen (findBatch id) with
    | none => return
    | some batch => unseen do
      record fun t => t.batchFailed batch.key
      modify fun b => { b with notices := b.notices ++ [(batch.id, message)] }
  return .failed message

/-! ## What a composed call does -/

theorem pure_apply (a : β) (s : Backend × List Request) :
    (pure a : Observed β) s = (.ok a, s) := rfl

theorem bind_apply (x : Observed α) (f : α → Observed β) (s : Backend × List Request) :
    (x >>= f) s =
      match x s with
      | (.ok a, s) => f a s
      | (.error e, s) => (.error e, s) := by
  change (ExceptT.bind x f) s = _
  simp only [ExceptT.bind, ExceptT.mk, bind, StateT.bind]
  rcases x s with ⟨answer, after⟩
  cases answer <;> rfl

theorem tryCatch_apply (x : Observed β) (handle : Failure → Observed β)
    (s : Backend × List Request) :
    (tryCatch x handle : Observed β) s =
      match x s with
      | (.ok a, s) => (.ok a, s)
      | (.error e, s) => handle e s := by
  change (ExceptT.tryCatch x handle) s = _
  simp only [ExceptT.tryCatch, ExceptT.mk, bind, StateT.bind]
  rcases x s with ⟨answer, after⟩
  cases answer <;> rfl

theorem unseen_apply (call : Call β) (b : Backend) (seen : List Request) :
    unseen call (b, seen) = ((call.on b).1, ((call.on b).2, seen)) := rfl

theorem updateBatch_apply (id : BatchId) (u : BatchUpdate) (b : Backend) (seen : List Request) :
    updateBatch id u (b, seen) =
      (((Backend.updateBatch id u).on b).1,
        (((Backend.updateBatch id u).on b).2,
          seen ++ [.write id u ((Backend.updateBatch id u).on b).1])) := rfl

theorem storeBatch_apply (id : BatchId) (logs : List ProcessedLog) (b : Backend)
    (seen : List Request) :
    storeBatch id logs (b, seen) =
      (((Backend.storeBatch id logs).on b).1,
        (((Backend.storeBatch id logs).on b).2,
          seen ++ [.store id logs b ((Backend.storeBatch id logs).on b).1])) := rfl

/-! ## Leaving the record away -/

def Shows (o : Observed β) (call : Call β) : Prop :=
  ∀ b seen, ∃ later, o (b, seen) = ((call.on b).1, ((call.on b).2, later))

namespace Shows

theorem pure (a : β) : Shows (Pure.pure a) (Pure.pure a) :=
  fun _ seen => ⟨seen, rfl⟩

theorem throw (e : Failure) : Shows (β := β) (MonadExcept.throw e) (MonadExcept.throw e) :=
  fun _ seen => ⟨seen, rfl⟩

theorem unseen (call : Call β) : Shows (unseen call) call :=
  fun _ seen => ⟨seen, rfl⟩

theorem updateBatch (id : BatchId) (u : BatchUpdate) :
    Shows (updateBatch id u) (Backend.updateBatch id u) :=
  fun _ _ => ⟨_, rfl⟩

theorem storeBatch (id : BatchId) (logs : List ProcessedLog) :
    Shows (storeBatch id logs) (Backend.storeBatch id logs) :=
  fun _ _ => ⟨_, rfl⟩

theorem bind {x : Observed α} {call : Call α} {f : α → Observed β} {g : α → Call β}
    (first : Shows x call) (rest : ∀ a, Shows (f a) (g a)) : Shows (x >>= f) (call >>= g) := by
  intro b seen
  obtain ⟨later, shown⟩ := first b seen
  rw [Call.on_bind, bind_apply, shown]
  rcases call.on b with ⟨answer, after⟩
  cases answer with
  | error e => exact ⟨later, rfl⟩
  | ok a => exact rest a after later

theorem tryCatch {x : Observed β} {call : Call β} {f : Failure → Observed β}
    {g : Failure → Call β} (first : Shows x call) (rest : ∀ e, Shows (f e) (g e)) :
    Shows (MonadExcept.tryCatch x f) (MonadExcept.tryCatch call g) := by
  intro b seen
  obtain ⟨later, shown⟩ := first b seen
  rw [Call.on_tryCatch, tryCatch_apply, shown]
  rcases call.on b with ⟨answer, after⟩
  cases answer with
  | error e => exact rest e after later
  | ok a => exact ⟨later, rfl⟩

theorem storeValid (id : BatchId) (batch : Batch) (valid : List ProcessedLog) (now : Timestamp) :
    Shows (storeValid id batch valid now) (LogPipeline.storeValid id batch valid now) := by
  refine bind (storeBatch id valid) fun answer => ?_
  cases answer with
  | refused reason => exact throw _
  | stored trace =>
      exact bind (updateBatch _ _) fun _ => bind (unseen _) fun _ => pure _

theorem attempt (policy : RetryPolicy) (now : Timestamp) (id : BatchId) (retry : Nat) :
    Shows (attempt policy now id retry) (LogPipeline.attempt policy now id retry) := by
  refine bind (unseen _) fun found => ?_
  cases settledOutcome? policy found with
  | some outcome => exact pure _
  | none =>
      cases found with
      | none => exact pure _
      | some batch =>
          refine bind (unseen _) fun held => ?_
          cases held with
          | true => exact bind (tryCatch (updateBatch _ _) fun _ => pure _) fun _ => pure _
          | false =>
              refine bind (updateBatch _ _) fun _ => bind (unseen _) fun logs => ?_
              dsimp only
              split
              · exact bind (updateBatch _ _) fun _ => pure _
              · exact storeValid _ _ _ _

theorem giveUp (policy : RetryPolicy) (now : Timestamp) (id : BatchId) (error : Failure) :
    Shows (giveUp policy now id error) (LogPipeline.giveUp policy now id error) := by
  refine bind (tryCatch (bind (updateBatch _ _) fun _ => bind (unseen _) fun found => ?_)
    fun _ => pure _) fun _ => pure _
  cases found with
  | none => exact pure _
  | some batch => exact unseen _

end Shows

/-! ## One attempt and what follows -/

structure Tried where
  result : Except Failure Outcome
  next : Next
  requests : List Request
  after : Backend

def tryOnce (policy : RetryPolicy) (now : Timestamp) (id : BatchId) (retry : Nat) (b : Backend) :
    Tried :=
  match attempt policy now id retry (b, []) with
  | (.ok outcome, b, seen) => ⟨.ok outcome, .done outcome, seen, b⟩
  | (.error e, b, seen) =>
    if policy.maxRetries.toNat < retry + 1 then
      match giveUp policy now id e (b, seen) with
      | (.ok outcome, b, seen) => ⟨.error e, .done outcome, seen, b⟩
      | (.error other, b, seen) => ⟨.error e, .done (.failed other.message), seen, b⟩
    else
      ⟨.error e, .wait (retry + 1) (policy.backoff (retry + 1)), seen, ((countRetry id).on b).2⟩

theorem tryOnce_shows (policy : RetryPolicy) (now : Timestamp) (id : BatchId) (retry : Nat)
    (b : Backend) :
    LogPipeline.tryOnce policy now id retry b =
      ((tryOnce policy now id retry b).next, (tryOnce policy now id retry b).after) := by
  obtain ⟨seen, shown⟩ := Shows.attempt policy now id retry b []
  simp only [LogPipeline.tryOnce, tryOnce, shown]
  rcases (LogPipeline.attempt policy now id retry).on b with ⟨result, after⟩
  cases result with
  | ok outcome => rfl
  | error e =>
      by_cases last : policy.maxRetries.toNat < retry + 1
      · obtain ⟨later, given⟩ := Shows.giveUp policy now id e after seen
        simp only [last, if_true, given]
        rcases (LogPipeline.giveUp policy now id e).on after with ⟨answer, final⟩
        cases answer <;> rfl
      · simp only [last, if_false]

end Observed

end LogPipeline
