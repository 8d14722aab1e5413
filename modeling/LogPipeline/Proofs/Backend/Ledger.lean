import LogPipeline.Proofs.Delivery.Requests
import LogPipeline.Proofs.Identity
import LogPipeline.Proofs.Retention

/-!
# An account of all batches

While nothing fails, every batch that was made waits for its delivery or has been delivered: then
the storage has exactly what the preprocessor validates of it. Making a batch, delivering one and
cleaning up keep this account.
-/

namespace LogPipeline

open Backend

structure Made where
  id : BatchId
  key : Key
  logs : List RawLog
  deriving DecidableEq

def Made.outputs (made : Made) (preprocessor : Preprocessor) (now : Timestamp) :
    List ProcessedLog :=
  (made.logs.map (preprocessor.preprocess made.key now)).filter (·.validated)

def entryOf (logs : List ProcessedLog) : Option (List ProcessedLog) :=
  if logs.isEmpty then none else some logs

/-- The storage is there and takes everything, and the store of batches can write. -/
structure Reliable (preprocessor : Preprocessor) (b : Backend) : Prop extends Plain b where
  writable : b.batches.failWrites = false
  available : b.storage.unavailable = false
  accepting : b.storage.refuseNext = 0
  processes : b.preprocessor = preprocessor

structure Pending (b : Backend) (made : Made) : Prop where
  recorded : ∃ batch, b.batches.get? made.id = some batch ∧ batch.status = .pending ∧
    batch.key = made.key ∧ batch.logs = made.logs
  absent : b.storage.held.get? made.id = none

def Delivered (preprocessor : Preprocessor) (b : Backend) (made : Made) : Prop :=
  ∃ now, b.storage.held.get? made.id = entryOf (made.outputs preprocessor now)

/-- Every batch that was made waits for its delivery or has been delivered, and there are no
others. -/
structure Accounted (preprocessor : Preprocessor) (made : List Made) (waiting : List BatchId)
    (b : Backend) : Prop where
  distinct : (made.map Made.id).Nodup
  issued : ∀ m ∈ made, ∃ serial < b.ids.next, m.id = b.ids.id serial
  once : waiting.Nodup
  pending : ∀ id ∈ waiting, ∃ m ∈ made, m.id = id ∧ Pending b m
  settled : ∀ m ∈ made, m.id ∈ waiting ∨ Delivered preprocessor b m
  known : ∀ id, b.storage.held.contains id = true → ∃ m ∈ made, m.id = id
  statuses : ∀ id batch, b.batches.get? id = some batch →
    batch.status = .pending ∨ batch.status = .processed

variable {preprocessor : Preprocessor} {made : List Made} {waiting : List BatchId}
  {b after : Backend}

theorem Reliable.of_same (reliable : Reliable preprocessor b) (faults : after.faults = b.faults)
    (script : after.script = b.script) (writes : after.batches.failWrites = b.batches.failWrites)
    (storage : after.storage = b.storage) (processes : after.preprocessor = b.preprocessor) :
    Reliable preprocessor after :=
  ⟨⟨faults.trans reliable.faults, script.trans reliable.script⟩, writes.trans reliable.writable,
    by rw [storage]; exact reliable.available, by rw [storage]; exact reliable.accepting,
    processes.trans reliable.processes⟩

theorem Accounted.of_same (accounted : Accounted preprocessor made waiting b)
    (ids : after.ids = b.ids) (batches : after.batches = b.batches)
    (held : after.storage.held = b.storage.held) : Accounted preprocessor made waiting after where
  distinct := accounted.distinct
  issued := by rw [ids]; exact accounted.issued
  once := accounted.once
  pending id waits := by
    obtain ⟨m, member, named, recorded, absent⟩ := accounted.pending id waits
    exact ⟨m, member, named, by rw [batches]; exact recorded, by rw [held]; exact absent⟩
  settled m member := by
    rcases accounted.settled m member with waits | ⟨now, delivered⟩
    · exact .inl waits
    · exact .inr ⟨now, by rw [held]; exact delivered⟩
  known := by rw [held]; exact accounted.known
  statuses := by rw [batches]; exact accounted.statuses

theorem Accounted.perm {other : List Made} (accounted : Accounted preprocessor made waiting b)
    (same : made.Perm other) : Accounted preprocessor other waiting b where
  distinct := (same.map Made.id).nodup_iff.mp accounted.distinct
  issued m member := accounted.issued m (same.mem_iff.mpr member)
  once := accounted.once
  pending id waits := by
    obtain ⟨m, member, rest⟩ := accounted.pending id waits
    exact ⟨m, same.mem_iff.mp member, rest⟩
  settled m member := accounted.settled m (same.mem_iff.mpr member)
  known id held := by
    obtain ⟨m, member, named⟩ := accounted.known id held
    exact ⟨m, same.mem_iff.mp member, named⟩
  statuses := accounted.statuses

/-! ## Making a batch -/

theorem Accounted.fresh_ne (accounted : Accounted preprocessor made waiting b) {m : Made}
    (member : m ∈ made) : m.id ≠ b.ids.fresh := by
  intro same
  obtain ⟨serial, below, named⟩ := accounted.issued m member
  have serials := b.ids.id_injective (named.symm.trans same)
  omega

theorem Accounted.fresh_absent (accounted : Accounted preprocessor made waiting b) :
    b.storage.held.get? b.ids.fresh = none := by
  cases held : b.storage.held.get? b.ids.fresh with
  | none => rfl
  | some logs =>
      obtain ⟨m, member, named⟩ := accounted.known b.ids.fresh (by simp [Table.contains, held])
      exact absurd named (accounted.fresh_ne member)

def Backend.withNew (b : Backend) (key : Key) (logs : List RawLog) (now : Timestamp) : Backend :=
  ({ b with ids := b.ids.advance } : Backend).keep (.new b.ids.fresh key logs now)

theorem on_saveBatch_new (reliable : Reliable preprocessor b) (key : Key) (logs : List RawLog)
    (now : Timestamp) :
    (saveBatch (.new b.ids.fresh key logs now)).on { b with ids := b.ids.advance } =
      (.ok (), b.withNew key logs now) := by
  have plain : ({ b with ids := b.ids.advance } : Backend).Plain :=
    ⟨reliable.faults, reliable.script⟩
  rw [on_saveBatch plain]
  simp only [BatchStore.save, reliable.writable, Bool.false_eq_true, if_false]
  rfl

theorem Reliable.withNew (reliable : Reliable preprocessor b) (key : Key) (logs : List RawLog)
    (now : Timestamp) : Reliable preprocessor (b.withNew key logs now) :=
  reliable.of_same rfl rfl rfl rfl rfl

theorem Accounted.withNew (accounted : Accounted preprocessor made waiting b) (key : Key)
    (logs : List RawLog) (now : Timestamp) :
    Accounted preprocessor (made ++ [⟨b.ids.fresh, key, logs⟩]) (waiting ++ [b.ids.fresh])
      (b.withNew key logs now) := by
  have record : ∀ id, (b.withNew key logs now).batches.get? id =
      if b.ids.fresh = id then some (.new b.ids.fresh key logs now) else b.batches.get? id :=
    BatchStore.get?_put b.batches _
  have differs : ∀ id ∈ waiting, b.ids.fresh ≠ id := by
    intro id waits same
    obtain ⟨m, member, named, -⟩ := accounted.pending id waits
    exact accounted.fresh_ne member (named.trans same.symm)
  refine ⟨?_, ?_, ?_, ?_, ?_, ?_, ?_⟩
  · rw [List.map_append, List.nodup_append]
    refine ⟨accounted.distinct, by simp, ?_⟩
    rintro id early _ late same
    obtain ⟨m, member, rfl⟩ := List.mem_map.mp early
    rw [List.map_singleton, List.mem_singleton] at late
    exact accounted.fresh_ne member (same.trans late)
  · intro m member
    rcases List.mem_append.mp member with early | new
    · obtain ⟨serial, below, named⟩ := accounted.issued m early
      exact ⟨serial, Nat.lt_succ_of_lt below, named⟩
    · rw [List.mem_singleton.mp new]
      exact ⟨b.ids.next, Nat.lt_succ_self _, rfl⟩
  · rw [List.nodup_append]
    refine ⟨accounted.once, by simp, ?_⟩
    rintro id early _ new same
    rw [List.mem_singleton] at new
    exact differs id early (new.symm.trans same.symm)
  · intro id member
    rcases List.mem_append.mp member with early | new
    · obtain ⟨m, among, named, recorded, absent⟩ := accounted.pending id early
      refine ⟨m, List.mem_append_left _ among, named, ?_, absent⟩
      rw [record, if_neg (named ▸ differs id early)]
      exact recorded
    · rw [List.mem_singleton.mp new]
      refine ⟨_, List.mem_append_right _ List.mem_cons_self, rfl, ?_, accounted.fresh_absent⟩
      exact ⟨_, (record _).trans (if_pos rfl), rfl, rfl, rfl⟩
  · intro m member
    rcases List.mem_append.mp member with early | new
    · rcases accounted.settled m early with waits | delivered
      · exact .inl (List.mem_append_left _ waits)
      · exact .inr delivered
    · rw [List.mem_singleton.mp new]
      exact .inl (List.mem_append_right _ List.mem_cons_self)
  · intro id held
    obtain ⟨m, member, named⟩ := accounted.known id held
    exact ⟨m, List.mem_append_left _ member, named⟩
  · intro id batch found
    rw [record] at found
    split at found
    · cases found
      exact .inl rfl
    · exact accounted.statuses id batch found

/-! ## Delivering a batch -/

structure DeliveredIn (preprocessor : Preprocessor) (m : Made) (b after : Backend) : Prop where
  reliable : Reliable preprocessor after
  ids : after.ids = b.ids
  others : ∀ id, id ≠ m.id → after.batches.get? id = b.batches.get? id ∧
    after.storage.held.get? id = b.storage.held.get? id
  processed : ∀ batch, after.batches.get? m.id = some batch → batch.status = .processed
  delivered : Delivered preprocessor after m

theorem get?_keep_other (b : Backend) {batch : Batch} {id : BatchId} (differs : batch.id ≠ id) :
    (b.keep batch).batches.get? id = b.batches.get? id :=
  (BatchStore.get?_put _ _ _).trans (if_neg differs)

theorem get?_keep_processed (b : Backend) {marked : Batch} {name : BatchId}
    (named : marked.id = name) {change : BatchUpdate} (ends : change.target = .processed) :
    (∀ id, id ≠ name →
      ((b.keep marked).keep (change.apply marked)).batches.get? id = b.batches.get? id) ∧
      ∀ batch, ((b.keep marked).keep (change.apply marked)).batches.get? name = some batch →
        batch.status = .processed := by
  have same : (change.apply marked).id = name := (BatchUpdate.id_apply _ _).trans named
  refine ⟨fun id differs => ?_, fun batch found => ?_⟩
  · rw [get?_keep_other _ (by rw [same]; exact differs.symm),
      get?_keep_other _ (by rw [named]; exact differs.symm)]
  · have kept := (BatchStore.get?_put _ _ _).symm.trans found
    rw [if_pos same] at kept
    cases kept
    rw [BatchUpdate.status_apply, ends]

theorem deliveredIn_of_attempted {policy : RetryPolicy} {now : Timestamp} {retry : Nat} {m : Made}
    {requests : List Request} {result : Except Failure Outcome}
    (reliable : Reliable preprocessor b) (pending : Pending b m)
    (attempted : Attempted policy now m.id retry b requests result after) :
    DeliveredIn preprocessor m b after ∧ ∃ outcome, result = .ok outcome := by
  obtain ⟨batch, recorded, open', key, logs⟩ := pending.recorded
  have unheld : b.storage.held.contains m.id = false := by
    simp [Table.contains, pending.absent]
  have outputs : ∀ other, b.batches.get? m.id = some other →
      validLogs b.preprocessor other now = m.outputs preprocessor now := by
    intro other found
    cases recorded.symm.trans found
    rw [validLogs, Made.outputs, ← key, ← logs, ← reliable.processes]
    rfl
  cases attempted with
  | settled known =>
      simp [recorded, settledOutcome?, open'] at known
  | outage _ unavailable => cases reliable.available.symm.trans unavailable
  | heldUnrecorded _ held => cases unheld.symm.trans held
  | held _ held => cases unheld.symm.trans held
  | unmarked _ failing => cases reliable.writable.symm.trans failing
  | refused _ _ _ _ refusing => exact absurd refusing (by rw [reliable.accepting]; omega)
  | @empty other marked due writable mark nothing =>
      have named : marked.id = m.id := by
        rw [mark, BatchUpdate.id_apply, BatchStore.id_of_get? due.found]
      obtain ⟨others, processed⟩ := get?_keep_processed b named (target_emptyChange now)
      refine ⟨⟨reliable.of_same rfl rfl rfl rfl rfl, rfl,
        fun id differs => ⟨others id differs, rfl⟩, processed, now, ?_⟩, _, rfl⟩
      rw [← outputs other due.found, nothing]
      exact pending.absent
  | @stored other marked stored trace elapsed due writable mark valid nonempty accepting =>
      have named : marked.id = m.id := by
        rw [mark, BatchUpdate.id_apply, BatchStore.id_of_get? due.found]
      obtain ⟨others, processed⟩ := get?_keep_processed b named (target_storedChange trace now)
      rw [Storage.store_of_accepting due.available accepting]
      refine ⟨⟨⟨⟨reliable.faults, reliable.script⟩, writable, due.available, accepting,
        reliable.processes⟩, rfl, fun id differs => ⟨others id differs, ?_⟩, processed, now, ?_⟩,
        _, rfl⟩
      · exact (Table.get?_insert _ _ _ _).trans (if_neg differs.symm)
      · have full : entryOf stored = some stored := by simp [entryOf, nonempty]
        rw [← outputs other due.found, ← valid, full]
        exact (Table.get?_insert _ _ _ _).trans (if_pos rfl)

theorem Accounted.same_of_id (accounted : Accounted preprocessor made waiting b) {m other : Made}
    (member : m ∈ made) (among : other ∈ made) (named : m.id = other.id) : m = other := by
  have first := find?_eq_some_of_mem Made.id accounted.distinct member
  have second := find?_eq_some_of_mem Made.id accounted.distinct among
  rw [named] at first
  exact Option.some.inj (first.symm.trans second)

theorem Accounted.after_delivery {m : Made}
    (accounted : Accounted preprocessor made (m.id :: waiting) b) (member : m ∈ made)
    (went : DeliveredIn preprocessor m b after) : Accounted preprocessor made waiting after := by
  obtain ⟨fresh, once⟩ := List.nodup_cons.mp accounted.once
  refine ⟨accounted.distinct, ?_, once, ?_, ?_, ?_, ?_⟩
  · rw [went.ids]
    exact accounted.issued
  · intro id waits
    obtain ⟨other, among, named, pending⟩ := accounted.pending id (List.mem_cons_of_mem _ waits)
    have differs : other.id ≠ m.id := fun same => fresh (same ▸ named ▸ waits)
    have unchanged := went.others other.id differs
    refine ⟨other, among, named, ?_, unchanged.2.trans pending.absent⟩
    rw [unchanged.1]
    exact pending.recorded
  · intro other among
    by_cases same : other.id = m.id
    · rw [accounted.same_of_id among member same]
      exact .inr went.delivered
    · rcases accounted.settled other among with waits | ⟨now, delivered⟩
      · exact .inl ((List.mem_cons.mp waits).resolve_left same)
      · exact .inr ⟨now, (went.others other.id same).2.trans delivered⟩
  · intro id held
    by_cases same : id = m.id
    · exact ⟨m, member, same.symm⟩
    · rw [Table.contains, (went.others id same).2] at held
      exact accounted.known id held
  · intro id batch found
    by_cases same : id = m.id
    · exact .inr (went.processed batch (same ▸ found))
    · exact accounted.statuses id batch ((went.others id same).1.symm.trans found)

theorem Accounted.tryOnce {id : BatchId}
    (accounted : Accounted preprocessor made (id :: waiting) b)
    (reliable : Reliable preprocessor b) (policy : RetryPolicy) (now : Timestamp) (retry : Nat) :
    ∃ outcome after, LogPipeline.tryOnce policy now id retry b = (.done outcome, after) ∧
      Reliable preprocessor after ∧ Accounted preprocessor made waiting after := by
  obtain ⟨m, member, rfl, pending⟩ := accounted.pending id List.mem_cons_self
  rw [Observed.tryOnce_shows]
  have concluded := concluded_tryOnce reliable.toPlain policy now m.id retry
  generalize Observed.tryOnce policy now m.id retry b = tried at concluded
  cases concluded with
  | ended attempted =>
      have went := (deliveredIn_of_attempted reliable pending attempted).1
      exact ⟨_, _, rfl, went.reliable, accounted.after_delivery member went⟩
  | retried attempted =>
      obtain ⟨_, outcome, succeeded⟩ := deliveredIn_of_attempted reliable pending attempted
      cases succeeded
  | unrecorded attempted =>
      obtain ⟨_, outcome, succeeded⟩ := deliveredIn_of_attempted reliable pending attempted
      cases succeeded
  | failed attempted =>
      obtain ⟨_, outcome, succeeded⟩ := deliveredIn_of_attempted reliable pending attempted
      cases succeeded

/-! ## Cleaning up -/

theorem Accounted.not_waiting (accounted : Accounted preprocessor made waiting b) {id : BatchId}
    {batch : Batch} (found : b.batches.get? id = some batch) (processed : batch.status = .processed) :
    id ∉ waiting := by
  intro waits
  obtain ⟨m, _, rfl, pending⟩ := accounted.pending id waits
  obtain ⟨other, recorded, open', -⟩ := pending.recorded
  cases recorded.symm.trans found
  cases open'.symm.trans processed

theorem Accounted.erase (accounted : Accounted preprocessor made waiting b) {id : BatchId}
    (absent : id ∉ waiting) :
    Accounted preprocessor made waiting { b with batches := b.batches.erase id } where
  distinct := accounted.distinct
  issued := accounted.issued
  once := accounted.once
  pending other waits := by
    obtain ⟨m, member, rfl, pending⟩ := accounted.pending other waits
    have differs : id ≠ m.id := fun same => absent (same ▸ waits)
    refine ⟨m, member, rfl, ?_, pending.absent⟩
    rw [BatchStore.get?_erase, if_neg differs]
    exact pending.recorded
  settled := accounted.settled
  known := accounted.known
  statuses other batch found := by
    rw [BatchStore.get?_erase] at found
    split at found
    · cases found
    · exact accounted.statuses other batch found

theorem on_deleteBatch_reliable (reliable : Reliable preprocessor b) (id : BatchId) :
    ((deleteBatch id).on b).2 = { b with batches := b.batches.erase id } := by
  rw [on_deleteBatch reliable.toPlain]
  simp only [BatchStore.delete, reliable.writable, Bool.false_eq_true, if_false]

theorem Accounted.cleanUp (accounted : Accounted preprocessor made waiting b)
    (reliable : Reliable preprocessor b) (policy : RetentionPolicy) (now : Timestamp) :
    Reliable preprocessor (cleanUp policy now b).2 ∧
      Accounted preprocessor made waiting (cleanUp policy now b).2 := by
  have kept : KeptByCleanup fun c =>
      Reliable preprocessor c ∧ Accounted preprocessor made waiting c :=
    { plain := fun b holds => holds.1.toPlain
      deleteProcessed := by
        intro b holds bound batch member c later
        obtain ⟨found, processed⟩ := BatchStore.mem_withStatus_iff.mp (List.mem_filter.mp member).1
        rw [on_deleteBatch_reliable later.1]
        exact ⟨later.1.of_same rfl rfl rfl rfl rfl,
          later.2.erase (holds.2.not_waiting found processed)⟩
      deleteFailed := by
        intro b holds bound batch member
        obtain ⟨found, failed⟩ := BatchStore.mem_withStatus_iff.mp (List.mem_filter.mp member).1
        rcases holds.2.statuses _ _ found with open' | processed
        · cases open'.symm.trans failed
        · cases processed.symm.trans failed
      timeOut := by
        intro b holds bound batch member
        obtain ⟨found, processing⟩ := BatchStore.mem_withStatus_iff.mp (List.mem_filter.mp member).1
        rcases holds.2.statuses _ _ found with open' | processed
        · cases open'.symm.trans processing
        · cases processed.symm.trans processing
      count := fun b holds telemetry _ =>
        ⟨holds.1.of_same rfl rfl rfl rfl rfl, holds.2.of_same rfl rfl rfl⟩ }
  exact kept.cleanUp ⟨reliable, accounted⟩ policy now

end LogPipeline
