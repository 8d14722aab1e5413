import LogPipeline.Proofs.Backend.Ledger

namespace LogPipeline

open Backend

inductive Deed where
  | make (id : BatchId)
  | attempt (id : BatchId) (retry : Nat)
  | cleanUp
  deriving DecidableEq, Repr

def Deed.made? : Deed → Option BatchId
  | .make id => some id
  | _ => none

def Deed.attempted? : Deed → Option (BatchId × Nat)
  | .attempt id retry => some (id, retry)
  | _ => none

def madeIn (deeds : List Deed) : List BatchId :=
  deeds.filterMap Deed.made?

def attemptsIn (deeds : List Deed) : List (BatchId × Nat) :=
  deeds.filterMap Deed.attempted?

theorem madeIn_append (first rest : List Deed) :
    madeIn (first ++ rest) = madeIn first ++ madeIn rest :=
  List.filterMap_append

theorem attemptsIn_append (first rest : List Deed) :
    attemptsIn (first ++ rest) = attemptsIn first ++ attemptsIn rest :=
  List.filterMap_append

/-! ## What attempts and cleanups leave alone -/

section Attempts

variable {policy : RetryPolicy} {now : Timestamp} {id : BatchId} {retry : Nat} {b : Backend}

def Concerns (id : BatchId) (b after : Backend) : Prop :=
  after.ids = b.ids ∧ ∀ other ≠ id, after.batches.get? other = b.batches.get? other

theorem concerns_keep {batch : Batch} (named : batch.id = id) : Concerns id b (b.keep batch) :=
  ⟨rfl, fun _ differs => get?_keep_other b (by rw [named]; exact differs.symm)⟩

theorem Concerns.keep {after : Backend} {batch : Batch} (concerns : Concerns id b after)
    (named : batch.id = id) : Concerns id b (after.keep batch) :=
  ⟨concerns.1, fun other differs =>
    ((concerns_keep (b := after) named).2 other differs).trans (concerns.2 other differs)⟩

theorem Attempted.concerns {requests : List Request} {result : Except Failure Outcome}
    {after : Backend} (attempted : Attempted policy now id retry b requests result after) :
    Concerns id b after := by
  have named : ∀ {batch : Batch}, b.batches.get? id = some batch → ∀ u : BatchUpdate,
      (u.apply batch).id = id :=
    fun found u => (BatchUpdate.id_apply u _).trans (BatchStore.id_of_get? found)
  cases attempted with
  | settled | outage | heldUnrecorded | unmarked => exact ⟨rfl, fun _ _ => rfl⟩
  | held undecided => exact concerns_keep (named undecided.found _)
  | empty due _ mark =>
      subst mark
      exact (concerns_keep (named due.found _)).keep
        ((BatchUpdate.id_apply _ _).trans (named due.found _))
  | refused due _ mark =>
      subst mark
      exact concerns_keep (b := b) (named due.found _)
  | stored _ _ due _ mark =>
      subst mark
      exact (concerns_keep (b := b) (named due.found _)).keep
        ((BatchUpdate.id_apply _ _).trans (named due.found _))

theorem Concluded.concerns {tried : Observed.Tried}
    (concluded : Concluded policy now id retry b tried) : Concerns id b tried.after := by
  cases concluded with
  | ended attempted => exact attempted.concerns
  | retried attempted => exact attempted.concerns
  | unrecorded attempted => exact attempted.concerns
  | failed attempted _ _ found =>
      exact attempted.concerns.keep
        ((BatchUpdate.id_apply _ _).trans (BatchStore.id_of_get? found))

theorem concerns_tryOnce (plain : b.Plain) (policy : RetryPolicy) (now : Timestamp) (id : BatchId)
    (retry : Nat) : Concerns id b (tryOnce policy now id retry b).2 := by
  rw [Observed.tryOnce_shows]
  exact (concluded_tryOnce plain policy now id retry).concerns

theorem plain_tryOnce (plain : b.Plain) (policy : RetryPolicy) (now : Timestamp) (id : BatchId)
    (retry : Nat) : (tryOnce policy now id retry b).2.Plain := by
  rw [Observed.tryOnce_shows]
  exact (concluded_tryOnce plain policy now id retry).plain_after plain

end Attempts

/-- What cleanups leave of what is recorded of a batch. A pending batch is left as it is. -/
inductive Swept : Option Batch → Option Batch → Prop where
  | kept (found : Option Batch) : Swept found found
  | timedOut {batch : Batch} (processing : batch.status = .processing) :
      Swept (some batch) (some { batch with status := .failed, error := some timeoutMessage })
  | deleted {batch : Batch} (begun : batch.status ≠ .pending) : Swept (some batch) none

namespace Swept

variable {found left : Option Batch} {current : Batch}

theorem status (swept : Swept found (some current)) :
    found = some current ∨ current.status = .failed := by
  cases swept with
  | kept => exact .inl rfl
  | timedOut => exact .inr rfl

theorem begun (swept : Swept found (some current)) (begun : current.status ≠ .pending) :
    ∃ batch, found = some batch ∧ batch.status ≠ .pending := by
  cases swept with
  | kept => exact ⟨_, rfl, begun⟩
  | timedOut processing => exact ⟨_, rfl, by rw [processing]; decide⟩

theorem trans {later : Option Batch} (one : Swept found left) (other : Swept left later) :
    Swept found later := by
  cases other with
  | kept => exact one
  | timedOut processing =>
      rcases one.status with same | failed
      · rw [same]
        exact .timedOut processing
      · rw [failed] at processing
        cases processing
  | deleted begun =>
      obtain ⟨_, rfl, before⟩ := one.begun begun
      exact .deleted before

end Swept

theorem Backend.OnlyBatches.plain {b after : Backend} (only : OnlyBatches b after)
    (plain : b.Plain) : after.Plain := by
  obtain ⟨_, rfl⟩ := only
  exact ⟨plain.faults, plain.script⟩

theorem swept_leaves (policy : RetentionPolicy) (now : Timestamp) (batch : Batch) :
    Swept (some batch) (policy.leaves now batch) := by
  unfold RetentionPolicy.leaves
  split
  · exact .kept _
  · next processing =>
      split
      · exact .timedOut processing
      · exact .kept _
  · next processed =>
      split
      · exact .deleted (by rw [processed]; decide)
      · exact .kept _
  · next failed =>
      split
      · exact .deleted (by rw [failed]; decide)
      · exact .kept _

theorem swept_cleanUp {b : Backend} (plain : b.Plain) (policy : RetentionPolicy) (now : Timestamp)
    (id : BatchId) :
    Swept (b.batches.get? id) ((LogPipeline.cleanUp policy now b).2.batches.get? id) := by
  rw [get?_cleanUp plain]
  cases b.batches.get? id with
  | none => exact .kept _
  | some batch =>
      rw [Option.bind_some]
      split
      · exact .kept _
      · exact swept_leaves policy now batch

namespace Backend

/-- The deeds, one after another, with counts and batches that could not be saved among them. -/
inductive Course (policy : RetryPolicy) (retention : RetentionPolicy) (now : Timestamp) :
    Backend → List Deed → Backend → Prop where
  | still (b : Backend) : Course policy retention now b [] b
  | make {b after c : Backend} {rest : List Deed} (key : Key) (logs : List RawLog)
      (saved : (saveBatch (.new b.ids.fresh key logs now)).on { b with ids := b.ids.advance } =
        (.ok (), after))
      (later : Course policy retention now after rest c) :
      Course policy retention now b (.make b.ids.fresh :: rest) c
  | lose {b after c : Backend} {rest : List Deed} {e : Failure} (key : Key) (logs : List RawLog)
      (failed : (saveBatch (.new b.ids.fresh key logs now)).on { b with ids := b.ids.advance } =
        (.error e, after))
      (later : Course policy retention now after rest c) : Course policy retention now b rest c
  | attempt {b c : Backend} {rest : List Deed} (id : BatchId) (retry : Nat)
      (later : Course policy retention now (tryOnce policy now id retry b).2 rest c) :
      Course policy retention now b (.attempt id retry :: rest) c
  | cleanUp {b c : Backend} {rest : List Deed}
      (later : Course policy retention now (LogPipeline.cleanUp retention now b).2 rest c) :
      Course policy retention now b (.cleanUp :: rest) c
  | count {b c : Backend} {rest : List Deed} (telemetry : Telemetry)
      (later : Course policy retention now { b with telemetry } rest c) :
      Course policy retention now b rest c

variable {policy : RetryPolicy} {retention : RetentionPolicy} {now : Timestamp}
  {a b c : Backend} {deeds first rest : List Deed}

theorem Course.trans (one : Course policy retention now a first b)
    (other : Course policy retention now b rest c) :
    Course policy retention now a (first ++ rest) c := by
  induction one with
  | still => exact other
  | make key logs saved _ ih => exact .make key logs saved (ih other)
  | lose key logs failed _ ih => exact .lose key logs failed (ih other)
  | attempt id retry _ ih => exact .attempt id retry (ih other)
  | cleanUp _ ih => exact .cleanUp (ih other)
  | count telemetry _ ih => exact .count telemetry (ih other)

theorem onlyBatches_new (plain : a.Plain) {key : Key} {logs : List RawLog}
    {answer : Except Failure Unit}
    (saved : (saveBatch (.new a.ids.fresh key logs now)).on { a with ids := a.ids.advance } =
      (answer, b)) :
    b.Plain ∧ b.ids = a.ids.advance ∧
      ∀ id, a.ids.Spent id → b.batches.get? id = a.batches.get? id := by
  have shape := on_saveBatch (b := { a with ids := a.ids.advance }) ⟨plain.faults, plain.script⟩
    (.new a.ids.fresh key logs now)
  rw [saved, BatchStore.save] at shape
  cases failing : a.batches.failWrites with
  | true =>
      simp only [failing, if_true] at shape
      cases shape
      exact ⟨⟨plain.faults, plain.script⟩, rfl, fun _ _ => rfl⟩
  | false =>
      simp only [failing, Bool.false_eq_true, if_false] at shape
      cases shape
      exact ⟨⟨plain.faults, plain.script⟩, rfl, fun id spent =>
        (BatchStore.get?_put _ _ _).trans (if_neg spent.ne_fresh.symm)⟩

theorem plain_cleanUp (plain : b.Plain) (policy : RetentionPolicy) (now : Timestamp) :
    (LogPipeline.cleanUp policy now b).2.Plain ∧
      (LogPipeline.cleanUp policy now b).2.ids = b.ids := by
  obtain ⟨_, _, -, cleaned⟩ := cleanUp_writes plain policy now
  rw [cleaned]
  exact ⟨⟨plain.faults, plain.script⟩, rfl⟩

theorem Course.plain (course : Course policy retention now a deeds b) (plain : a.Plain) :
    b.Plain := by
  induction course with
  | still => exact plain
  | make key logs saved _ ih => exact ih (onlyBatches_new plain saved).1
  | lose key logs failed _ ih => exact ih (onlyBatches_new plain failed).1
  | attempt id retry _ ih => exact ih (plain_tryOnce plain policy now id retry)
  | cleanUp _ ih => exact ih (plain_cleanUp plain retention now).1
  | count telemetry _ ih => exact ih ⟨plain.faults, plain.script⟩

theorem Course.made (course : Course policy retention now a deeds b) (plain : a.Plain) :
    (∀ id, a.ids.Spent id → b.ids.Spent id) ∧ (madeIn deeds).Nodup ∧
      ∀ id ∈ madeIn deeds, ¬ a.ids.Spent id ∧ b.ids.Spent id := by
  -- No identity is given back, so one that is given later was not spent before.
  induction course with
  | still => exact ⟨fun _ => id, .nil, List.forall_mem_nil _⟩
  | @make a _ _ rest key logs saved _ ih =>
      obtain ⟨plain, ids, -⟩ := onlyBatches_new plain saved
      obtain ⟨stays, distinct, fresh⟩ := ih plain
      rw [ids] at stays fresh
      refine ⟨fun id spent => stays id spent.advance, List.nodup_cons.mpr ⟨?_, distinct⟩,
        List.forall_mem_cons.mpr ⟨⟨fun spent => spent.ne_fresh rfl, stays _ a.ids.spent_fresh⟩,
          fun id member => ⟨fun spent => (fresh id member).1 spent.advance, (fresh id member).2⟩⟩⟩
      exact fun member => (fresh _ member).1 a.ids.spent_fresh
  | lose key logs failed _ ih =>
      obtain ⟨plain, ids, -⟩ := onlyBatches_new plain failed
      obtain ⟨stays, distinct, fresh⟩ := ih plain
      rw [ids] at stays fresh
      exact ⟨fun id spent => stays id spent.advance, distinct, fun id member =>
        ⟨fun spent => (fresh id member).1 spent.advance, (fresh id member).2⟩⟩
  | attempt id retry _ ih =>
      have tried := ih (plain_tryOnce plain policy now id retry)
      rw [(concerns_tryOnce plain policy now id retry).1] at tried
      exact tried
  | cleanUp _ ih =>
      obtain ⟨plain, ids⟩ := plain_cleanUp plain retention now
      have cleaned := ih plain
      rw [ids] at cleaned
      exact cleaned
  | count telemetry _ ih => exact ih ⟨plain.faults, plain.script⟩

theorem Course.spares (course : Course policy retention now a deeds b) (plain : a.Plain)
    {id : BatchId} (known : a.ids.Spent id) (without : id ∉ (attemptsIn deeds).map Prod.fst) :
    Swept (a.batches.get? id) (b.batches.get? id) ∧
      (Deed.cleanUp ∉ deeds → b.batches.get? id = a.batches.get? id) := by
  induction course with
  | still => exact ⟨.kept _, fun _ => rfl⟩
  | make key logs saved _ ih =>
      obtain ⟨plain, ids, same⟩ := onlyBatches_new plain saved
      obtain ⟨swept, kept⟩ := ih plain (by rw [ids]; exact known.advance) without
      rw [same id known] at swept kept
      exact ⟨swept, fun never => kept fun late => never (List.mem_cons_of_mem _ late)⟩
  | lose key logs failed _ ih =>
      obtain ⟨plain, ids, same⟩ := onlyBatches_new plain failed
      obtain ⟨swept, kept⟩ := ih plain (by rw [ids]; exact known.advance) without
      rw [same id known] at swept kept
      exact ⟨swept, kept⟩
  | attempt other retry _ ih =>
      obtain ⟨differs, later⟩ := not_or.mp (mt List.mem_cons.mpr without)
      obtain ⟨ids, same⟩ := concerns_tryOnce plain policy now other retry
      obtain ⟨swept, kept⟩ := ih (plain_tryOnce plain policy now other retry)
        (by rw [ids]; exact known) later
      rw [same id differs] at swept kept
      exact ⟨swept, fun never => kept fun late => never (List.mem_cons_of_mem _ late)⟩
  | cleanUp _ ih =>
      obtain ⟨cleaned, ids⟩ := plain_cleanUp plain retention now
      obtain ⟨swept, -⟩ := ih cleaned (by rw [ids]; exact known) without
      exact ⟨(swept_cleanUp plain retention now id).trans swept,
        fun never => absurd List.mem_cons_self never⟩
  | count telemetry _ ih => exact ih ⟨plain.faults, plain.script⟩ known without

end Backend

end LogPipeline
