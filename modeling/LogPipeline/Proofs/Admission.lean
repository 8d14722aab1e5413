import LogPipeline.Admission.Stages
import LogPipeline.Proofs.Pipeline.Steps

namespace LogPipeline

open Backend

namespace Pipeline

variable {α β γ : Type}

def OnlyGateway (p q : Pipeline α) : Prop :=
  ∃ gateway telemetry, q = { p with gateway, backend := { p.backend with telemetry } }

theorem OnlyGateway.refl (p : Pipeline α) : OnlyGateway p p :=
  ⟨p.gateway, p.backend.telemetry, rfl⟩

theorem OnlyGateway.trans {p q r : Pipeline α} (one : OnlyGateway p q) (other : OnlyGateway q r) :
    OnlyGateway p r := by
  obtain ⟨_, _, rfl⟩ := one
  obtain ⟨gateway, telemetry, rfl⟩ := other
  exact ⟨gateway, telemetry, rfl⟩

theorem OnlyGateway.plain {p q : Pipeline α} (only : OnlyGateway p q) (plain : p.backend.Plain) :
    q.backend.Plain := by
  obtain ⟨_, _, rfl⟩ := only
  exact ⟨plain.faults, plain.script⟩

/-! ## Steps aside -/

def Aside (step : Step α β) : Prop :=
  ∀ p, p.backend.Plain → OnlyGateway p (step p).2

namespace Aside

theorem pure (b : β) : Aside (α := α) (pure b) := fun p _ => .refl p

theorem get : Aside (α := α) get := fun p _ => .refl p

theorem bind {x : Step α β} {f : β → Step α γ} (first : Aside x) (rest : ∀ b, Aside (f b)) :
    Aside (x >>= f) := by
  intro p plain
  rw [bind_apply]
  have early := first p plain
  exact early.trans (rest _ _ (early.plain plain))

theorem findApp (id : AppId) : Aside (α := α) (call (Backend.findApp id)) := by
  intro p plain
  rw [call_apply, on_findApp plain]
  exact .refl p

theorem cached? (q : Question) : Aside (α := α) (cached? q) := fun p _ => .refl p

theorem remember (q : Question) (allowed : Bool) : Aside (α := α) (remember q allowed) :=
  fun p _ => ⟨_, p.backend.telemetry, rfl⟩

theorem onLimiter (f : Limiter α → β × Limiter α) : Aside (onLimiter f) :=
  fun p _ => ⟨_, p.backend.telemetry, rfl⟩

theorem authorizeEndpoint (key : Key) (clientIp : String) :
    Aside (α := α) (authorizeEndpoint key clientIp) := by
  refine bind (cached? _) fun known => ?_
  cases known with
  | some allowed => exact pure _
  | none =>
      refine bind (findApp _) fun answer => ?_
      rcases answer with e | app?
      · exact pure _
      · cases app? with
        | none => exact pure _
        | some app => exact bind get fun _ => bind (remember _ _) fun _ => pure _

theorem allowsIp (app : AppId) (clientIp : String) : Aside (α := α) (allowsIp app clientIp) := by
  unfold Pipeline.allowsIp
  split
  · exact pure _
  · refine bind (findApp _) fun answer => ?_
    rcases answer with e | app?
    · exact pure _
    · cases app? <;> exact pure _

theorem isRateLimited [Quantity α] (key : Key) (tokens : UInt32) :
    Aside (α := α) (isRateLimited key tokens) := by
  refine bind (findApp _) fun answer => ?_
  rcases answer with e | app?
  · exact pure _
  · cases app? with
    | none => exact bind (onLimiter _) fun _ => pure _
    | some app =>
        exact bind get fun _ => bind (onLimiter _) fun _ => bind (onLimiter _) fun _ => pure _

end Aside

end Pipeline

namespace Admission

open Pipeline

variable {α β : Type} {p : Pipeline α} {s : Submission}

/-! ## Stages that check -/

def Checks (p : Pipeline α) (holds : Found → Prop) (step : Step α Result) : Prop :=
  OnlyGateway p (step p).2 ∧
    ((∃ reason, (step p).1 = .halt (.rejected reason)) ∨
      ∃ found, (step p).1 = .goOn found ∧ holds found)

theorem checks_reject (p : Pipeline α) (holds : Found → Prop) (reason : Rejection) :
    Checks p holds (reject reason) := by
  unfold reject
  cases reason.label? with
  | none => exact ⟨.refl p, .inl ⟨reason, rfl⟩⟩
  | some label => exact ⟨⟨p.gateway, _, rfl⟩, .inl ⟨reason, rfl⟩⟩

theorem checks_goOn {holds : Found → Prop} {found : Found} (fine : holds found) :
    Checks p holds (pure (.goOn found)) :=
  ⟨.refl p, .inr ⟨found, rfl, fine⟩⟩

theorem Checks.aside_bind {holds : Found → Prop} {x : Step α β} {f : β → Step α Result}
    (plain : p.backend.Plain) (first : Aside x)
    (rest : ∀ b q, q.backend.Plain → Checks q holds (f b)) : Checks p holds (x >>= f) := by
  have early := first p plain
  obtain ⟨late, verdict⟩ := rest (x p).1 (x p).2 (early.plain plain)
  exact ⟨early.trans late, verdict⟩

theorem checks_checked {holds : Found → Prop} {next : Step α Result} (operation : String)
    (answer : Except Failure Bool) (reason : Rejection) (expected : Bool)
    (fine : Checks p holds next) : Checks p holds (checked operation answer reason expected next) := by
  unfold checked
  split
  · exact checks_reject p holds _
  · split
    · exact fine
    · exact checks_reject p holds _

theorem checks_basic (plain : p.backend.Plain) (found : Found) :
    Checks p (fun after => ∃ endpoint, p.backend.endpoints.get? s.key.endpoint = some endpoint ∧
      after = { found with endpoint := some endpoint }) (basic s found) := by
  unfold basic
  split
  · exact checks_reject p _ _
  · have asked : (call (findEndpoint s.key.endpoint) : Step α _) p =
        (.ok (p.backend.endpoints.get? s.key.endpoint), p) := by
      rw [call_apply, on_findEndpoint plain]
    unfold Checks
    rw [bind_apply, asked]
    dsimp only
    cases known : p.backend.endpoints.get? s.key.endpoint with
    | none => exact checks_reject p _ _
    | some endpoint =>
        dsimp only
        split
        · exact checks_reject p _ _
        · split
          · exact checks_reject p _ _
          · exact checks_goOn ⟨endpoint, rfl, rfl⟩

theorem checks_accessAndRate [Quantity α] (plain : p.backend.Plain) (found : Found) :
    Checks p (fun after => after = found) (accessAndRate s found) := by
  refine .aside_bind plain (.authorizeEndpoint s.key s.clientIp) fun _ q plain => ?_
  refine checks_checked _ _ _ _ ?_
  refine .aside_bind plain (.allowsIp s.key.app s.clientIp) fun _ q plain => ?_
  refine checks_checked _ _ _ _ ?_
  refine .aside_bind plain (.isRateLimited s.key 1) fun _ q plain => ?_
  exact checks_checked _ _ _ _ (checks_goOn rfl)

theorem checks_formatAndSize {found : Found} {endpoint : Endpoint}
    (known : found.endpoint = some endpoint) :
    Checks p (fun after => after.valid = s.logs.filter (fits endpoint) ∧ after.valid ≠ [])
      (formatAndSize s found) := by
  unfold formatAndSize
  rw [known]
  dsimp only
  split
  · exact checks_reject p _ _
  · split
    · exact checks_reject p _ _
    · rename_i some
      exact checks_goOn ⟨rfl, fun nothing => some (List.isEmpty_iff.mpr nothing)⟩

/-! ## The whole chain -/

theorem runStages_cons {finish : Found → Reception}
    (stage : Stage (Step α) Submission Found Reception)
    (rest : List (Stage (Step α) Submission Found Reception)) (found : Found) (p : Pipeline α) :
    Chain.runStages finish s (stage :: rest) found p =
      match stage.run s found p with
      | (.goOn found, q) => Chain.runStages finish s rest found q
      | (.halt result, q) => (result, q) := by
  rw [Chain.runStages, bind_apply]
  rcases stage.run s found p with ⟨verdict, q⟩
  cases verdict <;> rfl

theorem Checks.runStages {finish : Found → Reception} {holds : Found → Prop} {found : Found}
    (stage : Stage (Step α) Submission Found Reception)
    (checks : Checks p holds (stage.run s found))
    (rest : List (Stage (Step α) Submission Found Reception)) :
    ∃ q, OnlyGateway p q ∧
      ((∃ reason, Chain.runStages finish s (stage :: rest) found p = (.rejected reason, q)) ∨
        ∃ after, holds after ∧
          Chain.runStages finish s (stage :: rest) found p =
            Chain.runStages finish s rest after q) := by
  rw [runStages_cons]
  obtain ⟨only, verdict⟩ := checks
  generalize stage.run s found p = ran at only verdict
  obtain ⟨_, q⟩ := ran
  refine ⟨q, only, ?_⟩
  rcases verdict with ⟨reason, rfl⟩ | ⟨after, rfl, fine⟩
  · exact .inl ⟨reason, rfl⟩
  · exact .inr ⟨after, fine, rfl⟩

def lastStage (s : Submission) (found : Found) : Step α Result :=
  match s.kind with
  | .single => intoBuffer s found
  | .batch => intoBatch s found

theorem runStages_lastStage {finish : Found → Reception} {found : Found} {answer : Reception}
    {after : Pipeline α} (halts : lastStage s found p = (.halt answer, after)) :
    Chain.runStages finish s
      [match s.kind with
        | .single => ⟨"buffer_single", intoBuffer⟩
        | .batch => ⟨"create_batch", intoBatch⟩] found p = (answer, after) := by
  rw [runStages_cons]
  unfold lastStage at halts
  cases kind : s.kind with
  | single =>
      rw [kind] at halts
      dsimp only at halts ⊢
      rw [halts]
  | batch =>
      rw [kind] at halts
      dsimp only at halts ⊢
      rw [halts]

theorem submit_cases [Quantity α] (plain : p.backend.Plain) (s : Submission) :
    ∃ q, OnlyGateway p q ∧
      ((∃ reason, submit s p = (.rejected reason, q)) ∨
        ∃ endpoint found, p.backend.endpoints.get? s.key.endpoint = some endpoint ∧
          found.valid = s.logs.filter (fits endpoint) ∧ found.valid ≠ [] ∧
          ∀ answer after, lastStage s found q = (.halt answer, after) →
            submit s p = (answer, after)) := by
  unfold submit Chain.run chain
  obtain ⟨q, basicOnly, ⟨reason, rejected⟩ | ⟨_, ⟨endpoint, known, rfl⟩, went⟩⟩ :=
    Checks.runStages ⟨"basic", basic⟩ (checks_basic plain .nothing) _
  · exact ⟨q, basicOnly, .inl ⟨reason, rejected⟩⟩
  rw [went]
  obtain ⟨r, accessOnly, ⟨reason, rejected⟩ | ⟨_, rfl, went⟩⟩ :=
    Checks.runStages ⟨"auth_limit", accessAndRate⟩
      (checks_accessAndRate (basicOnly.plain plain) _) _
  · exact ⟨r, basicOnly.trans accessOnly, .inl ⟨reason, rejected⟩⟩
  rw [went]
  have resolved : ({ Found.nothing with endpoint := some endpoint } : Found).endpoint =
      some endpoint := rfl
  obtain ⟨t, formatOnly, ⟨reason, rejected⟩ | ⟨found, ⟨valid, some⟩, went⟩⟩ :=
    Checks.runStages ⟨"format_size", formatAndSize⟩ (checks_formatAndSize resolved) _
  · exact ⟨t, (basicOnly.trans accessOnly).trans formatOnly, .inl ⟨reason, rejected⟩⟩
  rw [went]
  exact ⟨t, (basicOnly.trans accessOnly).trans formatOnly, .inr ⟨endpoint, found, known, valid,
    some, fun _ _ halts => runStages_lastStage halts⟩⟩

end Admission

end LogPipeline
