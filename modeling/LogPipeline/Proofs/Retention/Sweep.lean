import Mathlib.Data.List.Nodup
import LogPipeline.Proofs.Delivery.Requests
import LogPipeline.Proofs.Retention
import LogPipeline.Proofs.Time.Timestamp

namespace LogPipeline

open Backend

variable {b : Backend} {act : BatchId → Call Bool}

/-! ## Tallies -/

def Tally.count (tally : Tally) : Except Failure Bool → Tally
  | .ok true => { tally with done := tally.done + 1 }
  | .ok false => tally
  | .error _ => { tally with errors := tally.errors + 1 }

theorem tally_tallyEach_cons (act : BatchId → Call Bool) (batch : Batch) (rest : List Batch)
    (b : Backend) :
    (tallyEach act (batch :: rest) b).1 =
      (tallyEach act rest ((act batch.id).on b).2).1.count ((act batch.id).on b).1 := by
  rw [tallyEach, state_bind, state_bind, Call.on]
  rcases (act batch.id).run b with ⟨answer, after⟩
  cases answer with
  | error e => rfl
  | ok counted => cases counted <;> rfl

theorem tally_of_counting {f : Option Batch → Option Batch} (acts : ActsBy act f)
    {found : List Batch}
    (counts : ∀ batch ∈ found, ∀ b : Backend, b.Writable →
      b.batches.get? batch.id = some batch → ((act batch.id).on b).1 = .ok true)
    (writable : b.Writable) (distinct : (found.map Batch.id).Nodup)
    (recorded : ∀ batch ∈ found, b.batches.get? batch.id = some batch) :
    (tallyEach act found b).1 = ⟨found.length, 0⟩ := by
  induction found generalizing b with
  | nil => rfl
  | cons batch rest ih =>
      obtain ⟨fresh, distinct⟩ := List.nodup_cons.mp distinct
      have still := acts.writable b batch.id writable
      have later : ∀ other ∈ rest,
          ((act batch.id).on b).2.batches.get? other.id = some other := by
        intro other member
        have differs : batch.id ≠ other.id := fun same =>
          fresh (same ▸ List.mem_map_of_mem member)
        rw [acts.shows b batch.id writable, if_neg differs]
        exact recorded other (List.mem_cons_of_mem _ member)
      have counted := counts batch List.mem_cons_self b writable (recorded batch List.mem_cons_self)
      rw [tally_tallyEach_cons, counted,
        ih (fun other member => counts other (List.mem_cons_of_mem _ member)) still distinct later]
      rfl

theorem tallyEach_of_failing (fails : ∀ id, ∃ e, (act id).on b = (.error e, b))
    (found : List Batch) :
    (tallyEach act found b).1 = ⟨0, found.length⟩ ∧ (tallyEach act found b).2 = b := by
  induction found with
  | nil => exact ⟨rfl, rfl⟩
  | cons batch rest ih =>
      obtain ⟨e, answered⟩ := fails batch.id
      rw [tally_tallyEach_cons, tallyEach_cons, answered]
      refine ⟨?_, ih.2⟩
      rw [ih.1]
      rfl

/-! ## The batches of one pass -/

namespace BatchStore

def lapsed (s : BatchStore) (now : Timestamp) (status : BatchStatus)
    (time : Batch → Option Timestamp) (span : Nanos) : List Batch :=
  s.kept.values.filter fun batch => batch.status = status && now.lapsed span (time batch)

/-- The times that are recorded can be kept. -/
def Dated (s : BatchStore) (time : Batch → Option Timestamp) : Prop :=
  ∀ batch ∈ s.kept.values, ∀ t ∈ time batch, t.inRange = true

variable {s t : BatchStore} {status : BatchStatus} {time : Batch → Option Timestamp}
  {bound now : Timestamp} {span : Nanos} {batch : Batch}

theorem isBefore_before {taken : Option Timestamp} (kept : ∀ t ∈ taken, t.inRange = true)
    (now : Timestamp) (span : Nanos) :
    isBefore taken (now.before span) = now.lapsed span taken := by
  cases taken with
  | none => rfl
  | some t =>
      have first := Timestamp.firstSecond_le_of_inRange (kept t rfl)
      rw [Bool.eq_iff_iff]
      simp only [isBefore, decide_eq_true_iff, Timestamp.lt_before_iff first, Timestamp.lapsed,
        Option.any_some, Option.any_eq_true]

theorem past_eq_lapsed (dated : s.Dated time) (now : Timestamp) (status : BatchStatus)
    (span : Nanos) : s.past status time (now.before span) = s.lapsed now status time span := by
  rw [past, withStatus, List.filter_filter, lapsed]
  refine List.filter_congr fun batch member => ?_
  rw [isBefore_before (dated batch member), Bool.and_comm]

theorem nodup_ids_past (s : BatchStore) (status : BatchStatus) (time : Batch → Option Timestamp)
    (bound : Timestamp) : ((s.past status time bound).map Batch.id).Nodup :=
  nodup_filter_keys Batch.id _ (nodup_filter_keys Batch.id _ s.kept.distinct)

theorem length_past_congr
    (same : ∀ id, (s.get? id).filter (Batch.isPast status time bound) =
      (t.get? id).filter (Batch.isPast status time bound)) :
    (s.past status time bound).length = (t.past status time bound).length := by
  have perm : (s.past status time bound).Perm (t.past status time bound) := by
    rw [List.perm_ext_iff_of_nodup (List.Nodup.of_map Batch.id (nodup_ids_past s _ _ _))
      (List.Nodup.of_map Batch.id (nodup_ids_past t _ _ _))]
    intro batch
    rw [mem_past_iff, mem_past_iff, ← Option.filter_eq_some_iff, ← Option.filter_eq_some_iff,
      same batch.id]
  exact perm.length_eq

theorem length_past_of_deleted {other : BatchStatus} {ended : Batch → Option Timestamp}
    {limit : Timestamp} (deleted : ∀ id, t.get? id =
      if (s.get? id).any (Batch.isPast other ended limit) then none else s.get? id)
    (differs : status ≠ other) (time : Batch → Option Timestamp) (bound : Timestamp) :
    (t.past status time bound).length = (s.past status time bound).length := by
  refine length_past_congr fun id => ?_
  rw [deleted id]
  cases s.get? id with
  | none => rfl
  | some batch =>
      rw [Option.any_some]
      split
      · rename_i gone
        have shown : batch.status = other :=
          of_decide_eq_true (Bool.and_eq_true_iff.mp gone).1
        have recent : batch.isPast status time bound = false := by
          simp [Batch.isPast, shown, differs.symm]
        simp [Option.filter_some, recent]
      · rfl

theorem mem_lapsed_iff : batch ∈ s.lapsed now status time span ↔
    s.get? batch.id = some batch ∧ batch.status = status ∧
      now.lapsed span (time batch) = true := by
  rw [lapsed, List.mem_filter, Bool.and_eq_true, decide_eq_true_iff, mem_values_iff]

theorem lapsed_of_far (far : now.nanos < Timestamp.earliest.nanos + span) :
    s.lapsed now status time span = [] := by
  simp [lapsed, Timestamp.lapsed_of_far far]

end BatchStore

/-! ## The report -/

variable {id : BatchId} {batch : Batch}

theorem deleteBatch_counts (writable : b.Writable) (found : b.batches.get? id = some batch) :
    ((deleteBatch id).on b).1 = .ok true := by
  have there : b.batches.kept.contains id = true := Option.isSome_iff_exists.mpr ⟨batch, found⟩
  rw [on_deleteBatch writable.toPlain, BatchStore.delete, writable.writes, there]
  rfl

theorem timeOut_counts (writable : b.Writable) (found : b.batches.get? id = some batch)
    (unprocessed : batch.status ≠ .processed) : ((timeOut id).on b).1 = .ok true := by
  have marked := BatchStore.update_of_open writable.writes found unprocessed
    (u := .status .failed (some timeoutMessage)) (by simp [BatchUpdate.target])
  simp only [timeOut, Call.on_bind, on_updateBatch writable.toPlain, marked]
  rfl

variable {query : Call (List Batch)} {status : BatchStatus} {time : Batch → Option Timestamp}
  {bound : Timestamp}

theorem tally_tallyFound
    (answer : query.on b = (.ok (b.batches.past status time bound), b))
    {f : Option Batch → Option Batch} (acts : ActsBy act f)
    (counts : ∀ (b : Backend) (batch : Batch), batch.status = status → b.Writable →
      b.batches.get? batch.id = some batch → ((act batch.id).on b).1 = .ok true)
    (writable : b.Writable) :
    (tallyFound query act b).1 = ⟨(b.batches.past status time bound).length, 0⟩ := by
  have recorded : ∀ batch ∈ b.batches.past status time bound,
      b.batches.get? batch.id = some batch ∧ batch.status = status := by
    intro batch member
    obtain ⟨found, old⟩ := BatchStore.mem_past_iff.mp member
    rw [Batch.isPast, Bool.and_eq_true, decide_eq_true_iff] at old
    exact ⟨found, old.1⟩
  rw [tallyFound_of_found answer]
  exact tally_of_counting acts (fun batch member b => counts b batch (recorded batch member).2)
    writable (BatchStore.nodup_ids_past _ _ _ _) fun batch member => (recorded batch member).1

theorem tallyFound_deletes (answer : query.on b = (.ok (b.batches.past status time bound), b))
    (writable : b.Writable) :
    (tallyFound query deleteBatch b).1 = ⟨(b.batches.past status time bound).length, 0⟩ ∧
      (tallyFound query deleteBatch b).2.Writable ∧
      ∀ id, (tallyFound query deleteBatch b).2.batches.get? id =
        if (b.batches.get? id).any (Batch.isPast status time bound) then none
        else b.batches.get? id := by
  refine ⟨tally_tallyFound answer actsBy_deleteBatch ?_ writable,
    get?_tallyFound answer actsBy_deleteBatch (fun _ => rfl) writable⟩
  exact fun b batch _ still found => deleteBatch_counts still found

theorem tally_timesOut (answer : query.on b = (.ok (b.batches.past .processing time bound), b))
    (writable : b.Writable) :
    (tallyFound query timeOut b).1 = ⟨(b.batches.past .processing time bound).length, 0⟩ := by
  refine tally_tallyFound answer actsBy_timeOut ?_ writable
  intro b batch shown still found
  exact timeOut_counts still found (by simp [shown])

theorem report_of_writable (writable : b.Writable) (policy : RetentionPolicy) (now : Timestamp) :
    (cleanUp policy now b).1 =
      { processedDeleted := (b.batches.past .processed Batch.processed
          (now.before policy.processedRetention)).length
        failedDeleted := (b.batches.past .failed Batch.lastProcess
          (now.before policy.failedRetention)).length
        timedOut := (b.batches.past .processing Batch.lastProcess
          (now.before policy.processingTimeout)).length
        errors := 0 } := by
  obtain ⟨one, first, processed⟩ := tallyFound_deletes (on_batchesProcessedBefore
    writable.toPlain .processed (now.before policy.processedRetention)) writable
  simp only [cleanUp]
  rw [state_bind]
  generalize tallyFound _ _ b = run at one first processed ⊢
  obtain ⟨two, second, failed⟩ := tallyFound_deletes (on_batchesLastProcessBefore
    first.toPlain .failed (now.before policy.failedRetention)) first
  rw [state_bind]
  generalize tallyFound _ _ run.2 = next at two second failed ⊢
  have three := tally_timesOut (on_batchesLastProcessBefore
    second.toPlain .processing (now.before policy.processingTimeout)) second
  rw [state_bind]
  generalize tallyFound _ _ next.2 = last at three ⊢
  -- What one pass deletes is of another status than what the passes after it look for.
  have failedThen := BatchStore.length_past_of_deleted processed
    (by decide : BatchStatus.failed ≠ .processed) Batch.lastProcess
    (now.before policy.failedRetention)
  have stuckThen := BatchStore.length_past_of_deleted failed
    (by decide : BatchStatus.processing ≠ .failed) Batch.lastProcess
    (now.before policy.processingTimeout)
  have stuckNow := BatchStore.length_past_of_deleted processed
    (by decide : BatchStatus.processing ≠ .processed) Batch.lastProcess
    (now.before policy.processingTimeout)
  change CleanupReport.mk run.1.done next.1.done last.1.done
    (run.1.errors + next.1.errors + last.1.errors) = _
  rw [one, two, three, failedThen, stuckThen, stuckNow]
  rfl

theorem deleteBatch_fails (plain : b.Plain) (failing : b.batches.failWrites = true)
    (id : BatchId) : ∃ e, (deleteBatch id).on b = (.error e, b) := by
  rw [on_deleteBatch plain, BatchStore.delete, failing]
  exact ⟨_, rfl⟩

theorem timeOut_fails (plain : b.Plain) (failing : b.batches.failWrites = true) (id : BatchId) :
    ∃ e, (timeOut id).on b = (.error e, b) := by
  simp only [timeOut, Call.on_bind, on_updateBatch plain, BatchStore.update_of_failing _ failing]
  exact ⟨_, rfl⟩

theorem tallyFound_of_failing (answer : query.on b = (.ok (b.batches.past status time bound), b))
    (fails : ∀ id, ∃ e, (act id).on b = (.error e, b)) :
    tallyFound query act b = (⟨0, (b.batches.past status time bound).length⟩, b) := by
  obtain ⟨counted, stays⟩ := tallyEach_of_failing fails (b.batches.past status time bound)
  rw [tallyFound_of_found answer]
  exact Prod.ext counted stays

theorem report_of_failing (plain : b.Plain) (failing : b.batches.failWrites = true)
    (policy : RetentionPolicy) (now : Timestamp) :
    (cleanUp policy now b).1 =
      { processedDeleted := 0
        failedDeleted := 0
        timedOut := 0
        errors := (b.batches.past .processed Batch.processed
            (now.before policy.processedRetention)).length +
          (b.batches.past .failed Batch.lastProcess (now.before policy.failedRetention)).length +
          (b.batches.past .processing Batch.lastProcess
            (now.before policy.processingTimeout)).length } := by
  have deletes := deleteBatch_fails plain failing
  simp only [cleanUp]
  rw [state_bind, tallyFound_of_failing (on_batchesProcessedBefore plain _ _) deletes, state_bind,
    tallyFound_of_failing (on_batchesLastProcessBefore plain _ _) deletes, state_bind,
    tallyFound_of_failing (on_batchesLastProcessBefore plain _ _) (timeOut_fails plain failing)]
  rfl

/-! ## What is left -/

theorem RetentionPolicy.leaves_eq (policy : RetentionPolicy) (now : Timestamp)
    (ended : ∀ t ∈ batch.processed, t.inRange = true)
    (attempted : ∀ t ∈ batch.lastProcess, t.inRange = true) :
    policy.leaves now batch =
      if batch.status = .processed ∧ now.lapsed policy.processedRetention batch.processed ∨
          batch.status = .failed ∧ now.lapsed policy.failedRetention batch.lastProcess then none
      else if batch.status = .processing ∧
          now.lapsed policy.processingTimeout batch.lastProcess then some batch.timedOut
      else some batch := by
  unfold leaves
  simp only [BatchStore.isBefore_before ended, BatchStore.isBefore_before attempted]
  cases status : batch.status <;> simp

theorem get?_cleanUp_of_dated (writable : b.Writable) (ends : b.batches.Dated Batch.processed)
    (attempts : b.batches.Dated Batch.lastProcess) (policy : RetentionPolicy) (now : Timestamp)
    (id : BatchId) :
    (cleanUp policy now b).2.batches.get? id = (b.batches.get? id).bind fun batch =>
      if batch ∈ b.batches.lapsed now .processed Batch.processed policy.processedRetention ∨
          batch ∈ b.batches.lapsed now .failed Batch.lastProcess policy.failedRetention then none
      else if batch ∈ b.batches.lapsed now .processing Batch.lastProcess policy.processingTimeout
        then some batch.timedOut
      else some batch := by
  refine ((cleanUp_of_writable writable policy now).2 id).trans ?_
  refine Option.bind_congr fun batch found => ?_
  have named := BatchStore.id_of_get? found
  have listed : batch ∈ b.batches.kept.values :=
    BatchStore.mem_values_iff.mpr (named.symm ▸ found)
  rw [policy.leaves_eq now (ends batch listed) (attempts batch listed)]
  simp only [BatchStore.mem_lapsed_iff, named, found, true_and]

/-- A cleanup that can write deletes what has been kept for long enough and marks what has been in
processing for too long. One that cannot write counts a failure for each of these batches. -/
theorem cleanUp_sweeps (plain : b.Plain) (ends : b.batches.Dated Batch.processed)
    (attempts : b.batches.Dated Batch.lastProcess) (policy : RetentionPolicy) (now : Timestamp) :
    let outdated := b.batches.lapsed now .processed Batch.processed policy.processedRetention
    let spent := b.batches.lapsed now .failed Batch.lastProcess policy.failedRetention
    let stuck := b.batches.lapsed now .processing Batch.lastProcess policy.processingTimeout
    let report := (cleanUp policy now b).1
    let after := (cleanUp policy now b).2.batches
    (b.batches.failWrites = false →
      report = ⟨outdated.length, spent.length, stuck.length, 0⟩ ∧
      (∀ id, after.get? id = (b.batches.get? id).bind fun batch =>
        if batch ∈ outdated ∨ batch ∈ spent then none
        else if batch ∈ stuck then some batch.timedOut
        else some batch) ∧
      ∀ batch ∈ stuck, after.get? batch.id = some batch.timedOut) ∧
    (b.batches.failWrites = true →
      report = ⟨0, 0, 0, outdated.length + spent.length + stuck.length⟩ ∧ after = b.batches) ∧
    (now.nanos < Timestamp.earliest.nanos + policy.processedRetention → outdated = []) ∧
    (now.nanos < Timestamp.earliest.nanos + policy.failedRetention → spent = []) ∧
    (now.nanos < Timestamp.earliest.nanos + policy.processingTimeout → stuck = []) := by
  intro outdated spent stuck report after
  have outdatedNow := BatchStore.past_eq_lapsed ends now .processed policy.processedRetention
  have spentNow := BatchStore.past_eq_lapsed attempts now .failed policy.failedRetention
  have stuckNow := BatchStore.past_eq_lapsed attempts now .processing policy.processingTimeout
  refine ⟨fun writes => ?_, fun failing => ?_, fun far => ?_, fun far => ?_, fun far => ?_⟩
  · have left := get?_cleanUp_of_dated ⟨plain, writes⟩ ends attempts policy now
    refine ⟨?_, left, fun batch late => ?_⟩
    · have counted := report_of_writable ⟨plain, writes⟩ policy now
      rwa [outdatedNow, spentNow, stuckNow] at counted
    · obtain ⟨found, status, -⟩ := BatchStore.mem_lapsed_iff.mp late
      rw [left, found, Option.bind_some, if_neg, if_pos late]
      rintro (member | member)
      · cases status.symm.trans (BatchStore.mem_lapsed_iff.mp member).2.1
      · cases status.symm.trans (BatchStore.mem_lapsed_iff.mp member).2.1
  · have counted := report_of_failing plain failing policy now
    rw [outdatedNow, spentNow, stuckNow] at counted
    exact ⟨counted, cleanUp_of_failing plain failing policy now⟩
  · exact BatchStore.lapsed_of_far far
  · exact BatchStore.lapsed_of_far far
  · exact BatchStore.lapsed_of_far far

def unswept : Backend :=
  let early : Batch := { soleBatch with lastProcess := some ⟨0, 0⟩ }
  [{ early with id := ⟨"outdated"⟩, status := .processed, processed := some ⟨0, 0⟩ },
    { early with id := ⟨"spent"⟩, status := .failed },
    { early with id := ⟨"stuck"⟩, status := .processing },
    { early with id := ⟨"recent"⟩, status := .processed, processed := some ⟨1, 0⟩ }].foldl
      Backend.keep (.empty ⟨"", 1⟩ .defaults)

theorem cleanUp_sweeps_unswept :
    (cleanUp ⟨10, 10, 10⟩ ⟨1, 10⟩ unswept).1 = ⟨1, 1, 1, 0⟩ ∧
      ["outdated", "spent", "stuck", "recent"].map (fun name =>
        ((cleanUp ⟨10, 10, 10⟩ ⟨1, 10⟩ unswept).2.batches.get? ⟨name⟩).map fun batch =>
          (batch.status, batch.error)) =
        [none, none, some (.failed, some "processing timeout"), some (.processed, none)] := by
  have ends : unswept.batches.Dated Batch.processed := by
    unfold BatchStore.Dated
    decide
  have attempts : unswept.batches.Dated Batch.lastProcess := by
    unfold BatchStore.Dated
    decide
  obtain ⟨swept, -⟩ := cleanUp_sweeps ⟨rfl, rfl⟩ ends attempts ⟨10, 10, 10⟩ ⟨1, 10⟩
  obtain ⟨report, left, -⟩ := swept rfl
  refine ⟨report.trans (by decide), ?_⟩
  simp only [left]
  decide

end LogPipeline
