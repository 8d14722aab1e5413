import LogPipeline.Proofs.Admission.LastStage
import LogPipeline.Proofs.Service.Lifetime

namespace LogPipeline.Admission

open Backend Pipeline

variable {α : Type} [Quantity α]

def allConditions (p : Pipeline α) (s : Submission) : List Condition :=
  conditions p s ++ [(s.kind = .single || ! p.backend.batches.failWrites, .internal "save")]

/-- The logs are behind the others of the key, the first of which may have left the buffer. -/
structure JoinsBuffer (s : Submission) (logs : List RawLog) (p q : Pipeline α) : Prop where
  joined : ∃ groups : List (List RawLog), q.ready = p.ready ++ groups.map (.flush s.key) ∧
    groups.flatten ++ q.buffers.logsOf s.key = p.buffers.logsOf s.key ++ logs
  others : ∀ key ≠ s.key, q.buffers.logsOf key = p.buffers.logsOf key
  batches : q.backend.batches = p.backend.batches
  announced : q.announced = p.announced
  pool : q.pool = p.pool

structure BecomesBatch (batch : Batch) (p q : Pipeline α) : Prop where
  found : ∀ id, q.backend.batches.get? id =
    if batch.id = id then some batch else p.backend.batches.get? id
  added : p.backend.batches.get? batch.id = none →
    q.backend.batches.kept.values = p.backend.batches.kept.values ++ [batch]
  announced : q.announced = (announce batch.id p).2.announced
  pool : q.pool = (announce batch.id p).2.pool
  ready : q.ready = (announce batch.id p).2.ready
  buffers : q.buffers = p.buffers

def Admitted (s : Submission) (logs : List RawLog) (answer : Reception) (p q : Pipeline α) :
    Prop :=
  match s.kind with
  | .single => answer = .buffered ∧ JoinsBuffer s logs p q
  | .batch => answer = .accepted p.backend.ids.fresh (s.logs.length - logs.length) ∧
      BecomesBatch (.new p.backend.ids.fresh s.key logs p.now) p q

variable {p q r : Pipeline α} {s : Submission}

theorem Asked.joinsBuffer {logs : List RawLog} {outcome : Option Rejection}
    (asked : Asked s p outcome q) (joined : Buffered s.key logs q r) : JoinsBuffer s logs p r := by
  obtain ⟨_, _, _, _, _, rfl⟩ := asked
  obtain ⟨⟨_, _, _, rfl⟩, groups, others⟩ := joined
  exact ⟨groups, others, rfl, rfl, rfl⟩

theorem Asked.becomesBatch {logs : List RawLog} {outcome : Option Rejection} {faults : FaultPlan}
    (asked : Asked s p outcome q) :
    BecomesBatch (.new p.backend.ids.fresh s.key logs p.now) p (accepted s.key logs faults q) := by
  obtain ⟨_, _, _, _, _, rfl⟩ := asked
  obtain ⟨_, _, _, told⟩ := announce_only p.backend.ids.fresh p
  have alone := told p.backend p.gateway
  unfold accepted
  dsimp only [Admission.asked]
  rw [told]
  exact ⟨fun id => BatchStore.get?_put _ _ id, Catalogue.values_put_of_absent,
    (congrArg Pipeline.announced alone).symm, (congrArg Pipeline.pool alone).symm,
    (congrArg Pipeline.ready alone).symm, rfl⟩

theorem firstFailing_allConditions (p : Pipeline α) (s : Submission)
    (fine : firstFailing (conditions p s) = none) :
    firstFailing (allConditions p s) =
      if s.kind = .single ∨ p.backend.batches.failWrites = false then none
      else some (.internal "save") := by
  rw [allConditions, firstFailing_append, fine, firstFailing_cons]
  cases s.kind <;> cases p.backend.batches.failWrites <;> rfl

theorem submit_of_plain (plain : p.backend.Plain) (s : Submission) :
    (∃ reason, firstFailing (allConditions p s) = some reason ∧
        (submit s p).1 = .rejected reason) ∨
      firstFailing (allConditions p s) = none ∧ (submit s p).1.isSuccess = true ∧
        Admitted s (fitting p.backend s.key s.logs) (submit s p).1 p (submit s p).2 := by
  have ended := ended_submit s p
  have calm : ¬ p.backend.faults ≠ .empty := fun planned => planned plain.faults
  generalize submit s p = run at ended
  unfold Admitted
  cases ended with
  | @rejected q reason asked explained =>
      have fails := explained.resolve_right fun broke => calm broke.1
      refine .inl ⟨reason, ?_, rfl⟩
      rw [allConditions, firstFailing_append, fails, Option.some_or]
  | buffered asked fine kind joined =>
      rw [firstFailing_allConditions p s fine, kind]
      exact .inr ⟨rfl, rfl, rfl, asked.joinsBuffer joined⟩
  | accepted asked fine kind writable =>
      rw [firstFailing_allConditions p s fine, kind, writable]
      exact .inr ⟨rfl, rfl, rfl, asked.becomesBatch⟩
  | unsaved asked fine kind cause =>
      have failing := cause.resolve_left calm
      rw [firstFailing_allConditions p s fine, kind, failing]
      exact .inl ⟨_, rfl, rfl⟩

/-- A submission is admitted if and only if all conditions hold, and otherwise rejected for the
first that fails; what is admitted is buffered or becomes one batch. -/
theorem submit_decides {p : Pipeline α} (plain : p.backend.Plain) (s : Submission) :
    ((submit s p).1.isSuccess = true ↔ ∀ c ∈ allConditions p s, c.1 = true) ∧
      (∀ early reason late, allConditions p s = early ++ (false, reason) :: late →
        (∀ c ∈ early, c.1 = true) → (submit s p).1 = .rejected reason) ∧
      ((submit s p).1.isSuccess = true →
        Admitted s (fitting p.backend s.key s.logs) (submit s p).1 p (submit s p).2) := by
  have first : ∀ early reason late, allConditions p s = early ++ (false, reason) :: late →
      (∀ c ∈ early, c.1 = true) → firstFailing (allConditions p s) = some reason :=
    fun early reason late split holds =>
      (firstFailing_eq_some_iff _ _).mpr ⟨early, late, split, holds⟩
  rw [← firstFailing_eq_none_iff]
  rcases submit_of_plain plain s with ⟨reason, fails, rejected⟩ | ⟨fine, success, admitted⟩
  · rw [rejected, fails]
    refine ⟨⟨nofun, nofun⟩, fun early other late split holds => ?_, nofun⟩
    rw [Option.some.inj (fails.symm.trans (first early other late split holds))]
  · rw [success, fine]
    refine ⟨⟨fun _ => rfl, fun _ => rfl⟩, fun early reason late split holds => ?_, fun _ => admitted⟩
    cases fine.symm.trans (first early reason late split holds)

/-- Of two logs one has another format than the endpoint, and is left out of the batch. If nothing
fits, that is the reason only because all conditions before it hold. -/
theorem submit_decides_for_batch :
    let key : Key := ⟨⟨"app"⟩, ⟨"endpoint"⟩⟩
    let fits : RawLog := .new "text" .custom ⟨0, 0⟩
    let other : RawLog := .new "text" .xml ⟨0, 0⟩
    let known := opened ⟨"", 1⟩ .defaults (.put .empty (.new key.app "key" "secret"))
      (.put .empty (.new key.endpoint .custom))
    let p : Pipeline Rat := PipelineConfig.defaults.pipeline 1 known 0
    let s : Submission := ⟨key, [other, fits], .batch⟩
    let unfit : Submission := ⟨key, [other], .batch⟩
    p.backend.Plain ∧ (submit s p).1 = .accepted known.ids.fresh 1 ∧
      Admitted s [fits] (submit s p).1 p (submit s p).2 ∧
      (submit unfit p).1 = .rejected .allLogsInvalid := by
  intro key fits other known p s unfit
  have plain : p.backend.Plain := ⟨rfl, rfl⟩
  have answer : (submit s p).1 = .accepted known.ids.fresh 1 := by decide +kernel
  have left : fitting p.backend s.key s.logs = [fits] := by decide +kernel
  have split : allConditions p unfit =
      (allConditions p unfit).take 8 ++ (false, .allLogsInvalid) :: [(true, .internal "save")] := by
    decide +kernel
  refine ⟨plain, answer, ?_, ?_⟩
  · have admitted := (submit_decides plain s).2.2 (by rw [answer]; rfl)
    rwa [left] at admitted
  · exact (submit_decides plain unfit).2.1 _ _ _ split (by decide +kernel)

end LogPipeline.Admission
