import LogPipeline.Proofs.Backend.Failing
import LogPipeline.Proofs.Pipeline.Intake

/-!
# The conditions of admission

What a submission has to satisfy, in the order in which the stages ask for it, and what the stages
make of these conditions whatever faults are planned. Asking leaves the decision that was
remembered and the bucket that was charged behind, and nothing else.
-/

namespace LogPipeline

open Backend Pipeline

/-- The app may use the endpoint from the address, where no address is any address. -/
def App.admitsUse (app : App) (endpoint : EndpointId) (clientIp : String) (now : Timestamp) : Bool :=
  app.isActive && ! app.isExpiredAt now && (clientIp.isEmpty || app.allowsIp clientIp) &&
    app.allowsEndpoint endpoint

theorem may_ofApp (app : App) (clientIp : String) (endpoint : EndpointId) (now : Timestamp) :
    (AuthContext.ofApp app clientIp .none now).may (.endpoint endpoint) now =
      app.admitsUse endpoint clientIp now := by
  have unexpired : (AuthContext.ofApp app clientIp .none now).isActiveAt now =
      (app.isActive && ! app.isExpiredAt now) := by
    simp only [AuthContext.isActiveAt, AuthContext.ofApp, App.isActive, App.isExpiredAt]
    cases app.expiry with
    | none => rfl
    | some expiry => exact congrArg _ (Bool.not_not _).symm
  rw [AuthContext.may, unexpired]
  rfl

def Submission.question (s : Submission) : Question :=
  ⟨s.key.app, .endpoint s.key.endpoint, s.clientIp⟩

def Key.question (key : Key) (clientIp : String) : Question :=
  ⟨key.app, .endpoint key.endpoint, clientIp⟩

namespace Admission

open Quantity

variable {α : Type}

abbrev Condition := Bool × Rejection

def firstFailing (conditions : List Condition) : Option Rejection :=
  (conditions.find? fun c => ! c.1).map (·.2)

def basicConditions (p : Pipeline α) (s : Submission) : List Condition :=
  let endpoint := p.backend.endpoints.get? s.key.endpoint
  [(! (s.logs.isEmpty || s.key.app.isBlank || s.key.endpoint.isBlank), .emptyParameters),
    (endpoint.isSome, .endpointNotFound),
    (endpoint.any (·.isActive), .endpointInactive),
    (endpoint.any (·.allowsApp s.key.app), .appNotAllowed)]

def isAuthorized (p : Pipeline α) (s : Submission) : Bool :=
  match p.gateway.cache.get? p.instant s.question with
  | some allowed => allowed
  | none => (p.backend.apps.get? s.key.app).any (·.admitsUse s.key.endpoint s.clientIp p.now)

def isFromAllowedIp (p : Pipeline α) (s : Submission) : Bool :=
  s.clientIp.isEmpty || (p.backend.apps.get? s.key.app).any (·.allowsIp s.clientIp)

def accessConditions (p : Pipeline α) (s : Submission) : List Condition :=
  [(isAuthorized p s, .unauthorized), (isFromAllowedIp p s, .ipNotAllowed)]

def formatConditions (p : Pipeline α) (s : Submission) : List Condition :=
  let endpoint := p.backend.endpoints.get? s.key.endpoint
  [(s.kind = .single || ! endpoint.any (·.isTooMany s.logs.length), .tooManyLogs),
    (endpoint.any fun endpoint => s.logs.any (fits endpoint), .allLogsInvalid)]

def syncedLimiter [Quantity α] (p : Pipeline α) (s : Submission) : Limiter α :=
  match p.backend.apps.get? s.key.app with
  | none => p.gateway.limiter
  | some app => (p.gateway.limiter.sync s.key app.rateLimit app.burstCapacity p.instant).2

def hasToken [Quantity α] (p : Pipeline α) (s : Submission) : Bool :=
  ((syncedLimiter p s).buckets.get? s.key).all fun bucket => atMost (ofNat 1) bucket.tokens

def chargedLimiter [Quantity α] (p : Pipeline α) (s : Submission) : Limiter α :=
  ((syncedLimiter p s).tryAcquire s.key 1).2

def accessible (p : Pipeline α) (s : Submission) : List Condition :=
  basicConditions p s ++ accessConditions p s

def conditions [Quantity α] (p : Pipeline α) (s : Submission) : List Condition :=
  accessible p s ++ (hasToken p s, .rateLimited) :: formatConditions p s

theorem firstFailing_append (early late : List Condition) :
    firstFailing (early ++ late) = (firstFailing early).or (firstFailing late) := by
  simp only [firstFailing, List.find?_append, Option.map_or]

theorem firstFailing_cons (holds : Bool) (reason : Rejection) (rest : List Condition) :
    firstFailing ((holds, reason) :: rest) = if holds then firstFailing rest else some reason := by
  cases holds <;> rfl

theorem firstFailing_eq_none_iff (conditions : List Condition) :
    firstFailing conditions = none ↔ ∀ c ∈ conditions, c.1 = true := by
  simp [firstFailing]

theorem firstFailing_eq_some_iff (conditions : List Condition) (reason : Rejection) :
    firstFailing conditions = some reason ↔
      ∃ early late, conditions = early ++ (false, reason) :: late ∧ ∀ c ∈ early, c.1 = true := by
  simp only [firstFailing, Option.map_eq_some_iff, List.find?_eq_some_iff_append]
  constructor
  · rintro ⟨⟨holds, _⟩, ⟨fails, early, late, split, fine⟩, rfl⟩
    cases holds with
    | true => cases fails
    | false => exact ⟨early, late, split, by simpa using fine⟩
  · rintro ⟨early, late, split, fine⟩
    exact ⟨(false, reason), ⟨rfl, early, late, split, by simpa using fine⟩, rfl⟩

/-! ## What asking leaves behind -/

def asked (faults : FaultPlan) (cache : DecisionCache) (limiter : Limiter α) (p : Pipeline α) :
    Pipeline α :=
  { p with
    backend := { p.backend with faults }
    gateway := { p.gateway with cache, limiter } }

def Spares (p q : Pipeline α) : Prop :=
  p.backend.faults = .empty → q.backend.faults = .empty

def Tells {β : Type} (left : Pipeline α → Prop) (value : β) (p : Pipeline α)
    (step : Step α (Except Failure β)) : Prop :=
  ∃ q, left q ∧ Spares p q ∧
    (step p = (.ok value, q) ∨ p.backend.faults ≠ .empty ∧ ∃ e, step p = (.error e, q))

/-- The reason is the first condition that fails, or a call that failed. -/
def Explains (p : Pipeline α) (conditions : List Condition) (reason : Rejection) : Prop :=
  firstFailing conditions = some reason ∨
    p.backend.faults ≠ .empty ∧ ∃ operation, reason = .internal operation

def Settles (left : Option Rejection → Pipeline α → Prop) (conditions : List Condition)
    (after : Found) (p : Pipeline α) (stage : Step α Result) : Prop :=
  ∃ q, Spares p q ∧
    ((left none q ∧ firstFailing conditions = none ∧ stage p = (.goOn after, q)) ∨
      ∃ reason, left (some reason) q ∧ Explains p conditions reason ∧ stage p = reject reason q)

variable {p : Pipeline α} {left later : Option Rejection → Pipeline α → Prop}
  {conditions : List Condition} {after : Found}

theorem tells_call {β : Type} {value : β} {c : Call β} (answers : Answers p.backend value c) :
    Tells (fun q => ∃ faults, q = asked faults p.gateway.cache p.gateway.limiter p) value p
      (call c) := by
  obtain ⟨_, ⟨faults, rfl, spared⟩, answer | ⟨planned, e, failed⟩⟩ := answers
  · exact ⟨_, ⟨faults, rfl⟩, spared, .inl (by rw [call_apply, answer]; rfl)⟩
  · exact ⟨_, ⟨faults, rfl⟩, spared, .inr ⟨planned, e, by rw [call_apply, failed]; rfl⟩⟩

theorem Settles.checked {known : Pipeline α → Prop} {value expected : Bool}
    {step : Step α (Except Failure Bool)} {next : Step α Result} (told : Tells known value p step)
    {operation : String} {reason : Rejection}
    (refused : ∀ q, known q → left (some reason) q ∧ left (some (.internal operation)) q)
    (rest : value = expected → ∀ q, known q → Settles left conditions after q next) :
    Settles left ((value = expected, reason) :: conditions) after p (do
      Admission.checked operation (← step) reason expected next) := by
  unfold Settles Explains
  obtain ⟨q, knows, spared, answer | ⟨planned, e, failed⟩⟩ := told
  · rw [bind_apply, answer, firstFailing_cons]
    by_cases holds : value = expected
    · obtain ⟨r, spares, verdict⟩ := rest holds q knows
      simp only [Admission.checked, holds, decide_true, if_true]
      refine ⟨r, spares ∘ spared, verdict.imp_right ?_⟩
      rintro ⟨cause, leaves, explained, rejected⟩
      exact ⟨cause, leaves, explained.imp_right fun broke => ⟨broke.1 ∘ spared, broke.2⟩, rejected⟩
    · simp only [Admission.checked, holds, decide_false, Bool.false_eq_true, if_false]
      exact ⟨q, spared, .inr ⟨reason, (refused q knows).1, .inl rfl, rfl⟩⟩
  · rw [bind_apply, failed]
    exact ⟨q, spared, .inr ⟨_, (refused q knows).2, .inr ⟨planned, operation, rfl⟩, rfl⟩⟩

/-! ## Access -/

theorem authorizeEndpoint_apply (key : Key) (clientIp : String) (p : Pipeline α) :
    authorizeEndpoint key clientIp p =
      match p.gateway.cache.get? p.instant (key.question clientIp) with
      | some allowed => (.ok allowed, p)
      | none =>
        match call (findApp key.app) p with
        | (.error e, q) => (.error e, q)
        | (.ok none, q) => (.ok false, q)
        | (.ok (some app), q) =>
          let allowed := app.admitsUse key.endpoint clientIp q.now
          (.ok allowed, { q with gateway := { q.gateway with
            cache := q.gateway.cache.insert q.instant (key.question clientIp) allowed } }) := by
  have known : (cached? (key.question clientIp) : Step α _) p =
      (p.gateway.cache.get? p.instant (key.question clientIp), p) := rfl
  simp only [authorizeEndpoint, ← may_ofApp]
  change (cached? (key.question clientIp) >>= _) p = _
  rw [bind_apply, known]
  cases p.gateway.cache.get? p.instant (key.question clientIp) with
  | some allowed => rfl
  | none =>
      dsimp only
      rw [bind_apply]
      rcases call (findApp key.app) p with ⟨e | _ | app, q⟩ <;> rfl

def Remembers (key : Key) (clientIp : String) (p : Pipeline α) (cache : DecisionCache) : Prop :=
  cache = p.gateway.cache ∨ ∃ app, p.backend.apps.get? key.app = some app ∧
    cache = p.gateway.cache.insert p.instant (key.question clientIp)
      (app.admitsUse key.endpoint clientIp p.now)

theorem Remembers.ttl {key : Key} {clientIp : String} {p : Pipeline α} {cache : DecisionCache}
    (remembers : Remembers key clientIp p cache) : cache.ttl = p.gateway.cache.ttl := by
  rcases remembers with rfl | ⟨_, _, rfl⟩ <;> rfl

theorem Remembers.get?_decisions {key : Key} {clientIp : String} {p : Pipeline α}
    {cache : DecisionCache} (remembers : Remembers key clientIp p cache) {question : Question}
    (differs : question ≠ key.question clientIp) :
    cache.decisions.get? question = p.gateway.cache.decisions.get? question := by
  rcases remembers with rfl | ⟨_, _, rfl⟩
  · rfl
  · exact (Table.get?_insert _ _ _ _).trans (if_neg differs.symm)

def mayUse (key : Key) (clientIp : String) (p : Pipeline α) : Bool :=
  match p.gateway.cache.get? p.instant (key.question clientIp) with
  | some allowed => allowed
  | none => (p.backend.apps.get? key.app).any (·.admitsUse key.endpoint clientIp p.now)

theorem isAuthorized_eq (s : Submission) (p : Pipeline α) :
    isAuthorized p s = mayUse s.key s.clientIp p := rfl

theorem tells_authorizeEndpoint (key : Key) (clientIp : String) (p : Pipeline α) :
    Tells (fun q => ∃ faults cache, Remembers key clientIp p cache ∧
        q = asked faults cache p.gateway.limiter p)
      (mayUse key clientIp p) p (authorizeEndpoint key clientIp) := by
  obtain ⟨_, ⟨faults, rfl⟩, spared, found⟩ := tells_call (answers_findApp p.backend key.app)
  unfold Tells mayUse
  rw [authorizeEndpoint_apply]
  cases p.gateway.cache.get? p.instant (key.question clientIp) with
  | some allowed =>
      exact ⟨p, ⟨p.backend.faults, p.gateway.cache, .inl rfl, rfl⟩, id, .inl rfl⟩
  | none =>
      rcases found with found | ⟨planned, e, failed⟩
      · rw [found]
        cases known : p.backend.apps.get? key.app with
        | none => exact ⟨_, ⟨faults, p.gateway.cache, .inl rfl, rfl⟩, spared, .inl rfl⟩
        | some app => exact ⟨_, ⟨faults, _, .inr ⟨app, known, rfl⟩, rfl⟩, spared, .inl rfl⟩
      · rw [failed]
        exact ⟨_, ⟨faults, p.gateway.cache, .inl rfl, rfl⟩, spared, .inr ⟨planned, e, rfl⟩⟩

theorem tells_allowsIp (s : Submission) (p : Pipeline α) :
    Tells (fun q => ∃ faults, q = asked faults p.gateway.cache p.gateway.limiter p)
      (isFromAllowedIp p s) p (allowsIp s.key.app s.clientIp) := by
  obtain ⟨_, ⟨faults, rfl⟩, spared, found⟩ := tells_call (answers_findApp p.backend s.key.app)
  unfold Tells isFromAllowedIp allowsIp
  cases s.clientIp.isEmpty with
  | true => exact ⟨p, ⟨p.backend.faults, rfl⟩, id, .inl rfl⟩
  | false =>
      refine ⟨_, ⟨faults, rfl⟩, spared, ?_⟩
      simp only [Bool.false_eq_true, if_false, Bool.false_or]
      rw [bind_apply]
      rcases found with found | ⟨planned, e, failed⟩
      · rw [found]
        cases p.backend.apps.get? s.key.app <;> exact .inl rfl
      · rw [failed]
        exact .inr ⟨planned, e, rfl⟩

variable [Quantity α]

theorem tryAcquire_one (limiter : Limiter α) (key : Key) :
    (limiter.tryAcquire key 1).1 =
      (limiter.buckets.get? key).all fun bucket => atMost (ofNat 1) bucket.tokens := by
  unfold Limiter.tryAcquire
  cases limiter.buckets.get? key with
  | none => rfl
  | some bucket =>
      simp only [TokenBucket.tryTake, Option.all_some]
      split <;> rename_i enough
      · exact enough.symm
      · exact (Bool.eq_false_iff.mpr enough).symm

theorem tells_isRateLimited (s : Submission) (p : Pipeline α) :
    Tells (fun q => ∃ faults limiter, (limiter = p.gateway.limiter ∨ limiter = chargedLimiter p s) ∧
        q = asked faults p.gateway.cache limiter p)
      (! hasToken p s) p (isRateLimited s.key 1) := by
  obtain ⟨_, ⟨faults, rfl⟩, spared, found⟩ := tells_call (answers_findApp p.backend s.key.app)
  unfold Tells isRateLimited hasToken chargedLimiter syncedLimiter
  rw [bind_apply, ← tryAcquire_one]
  rcases found with found | ⟨planned, e, failed⟩
  · rw [found]
    cases p.backend.apps.get? s.key.app <;>
    exact ⟨_, ⟨faults, _, .inr rfl, rfl⟩, spared, .inl rfl⟩
  · rw [failed]
    exact ⟨_, ⟨faults, _, .inl rfl, rfl⟩, spared, .inr ⟨planned, e, rfl⟩⟩

/-! ## Stages -/

def earlyReasons : List Rejection :=
  [.emptyParameters, .internal "find_endpoint_by_id", .endpointNotFound, .endpointInactive,
    .appNotAllowed, .internal "authorize_endpoint", .unauthorized, .internal "is_ip_whitelisted",
    .ipNotAllowed]

def IsLate (outcome : Option Rejection) : Prop :=
  ∀ reason ∈ outcome, reason ∉ earlyReasons

theorem isLate_none : IsLate none := nofun

omit [Quantity α] in
theorem settles_basic (s : Submission) (found : Found) (p : Pipeline α) :
    Settles (fun _ q => ∃ faults, q = asked faults p.gateway.cache p.gateway.limiter p)
      (basicConditions p s)
      { found with endpoint := p.backend.endpoints.get? s.key.endpoint } p (basic s found) := by
  obtain ⟨_, ⟨faults, rfl⟩, spared, answer⟩ :=
    tells_call (answers_findEndpoint p.backend s.key.endpoint)
  unfold Settles basicConditions basic
  cases (s.logs.isEmpty || s.key.app.isBlank || s.key.endpoint.isBlank) with
  | true => exact ⟨p, id, .inr ⟨_, ⟨p.backend.faults, rfl⟩, .inl rfl, rfl⟩⟩
  | false =>
      refine ⟨_, spared, ?_⟩
      simp only [Bool.false_eq_true, if_false]
      rw [bind_apply]
      rcases answer with known | ⟨planned, e, failed⟩
      · rw [known]
        cases p.backend.endpoints.get? s.key.endpoint with
        | none => exact .inr ⟨_, ⟨faults, rfl⟩, .inl rfl, rfl⟩
        | some endpoint =>
            simp only [Option.any_some]
            cases endpoint.isActive with
            | false => exact .inr ⟨_, ⟨faults, rfl⟩, .inl rfl, rfl⟩
            | true =>
                cases endpoint.allowsApp s.key.app with
                | false => exact .inr ⟨_, ⟨faults, rfl⟩, .inl rfl, rfl⟩
                | true => exact .inl ⟨⟨faults, rfl⟩, rfl, rfl⟩
      · rw [failed]
        exact .inr ⟨_, ⟨faults, rfl⟩, .inr ⟨planned, _, rfl⟩, rfl⟩

def Charged (s : Submission) (p : Pipeline α) (outcome : Option Rejection) (q : Pipeline α) :
    Prop :=
  ∃ faults cache limiter, Remembers s.key s.clientIp p cache ∧
    (limiter = p.gateway.limiter ∨ firstFailing (accessConditions p s) = none ∧ IsLate outcome ∧
      limiter = chargedLimiter p s) ∧
    q = asked faults cache limiter p

theorem settles_accessAndRate (s : Submission) (found : Found) (p : Pipeline α) :
    Settles (Charged s p) (accessConditions p s ++ [(hasToken p s, .rateLimited)]) found p
      (accessAndRate s found) := by
  have checks : Settles (Charged s p)
      [(isAuthorized p s = true, .unauthorized), (isFromAllowedIp p s = true, .ipNotAllowed),
        ((! hasToken p s) = false, .rateLimited)] found p (accessAndRate s found) := by
    refine .checked (tells_authorizeEndpoint s.key s.clientIp p) ?_ fun authorized q known => ?_
    · rintro _ ⟨faults, cache, remembers, rfl⟩
      exact ⟨⟨faults, cache, _, remembers, .inl rfl, rfl⟩,
        ⟨faults, cache, _, remembers, .inl rfl, rfl⟩⟩
    obtain ⟨first, cache, remembers, rfl⟩ := known
    refine .checked (tells_allowsIp s _) ?_ fun allowed r known => ?_
    · rintro _ ⟨faults, rfl⟩
      exact ⟨⟨faults, cache, _, remembers, .inl rfl, rfl⟩,
        ⟨faults, cache, _, remembers, .inl rfl, rfl⟩⟩
    obtain ⟨second, rfl⟩ := known
    have access : firstFailing (accessConditions p s) = none := by
      have allowed : isFromAllowedIp p s = true := allowed
      rw [accessConditions, isAuthorized_eq, authorized, allowed]
      rfl
    -- From here on the bucket may be charged, so no reason may be one of the early ones.
    have charged : ∀ outcome, IsLate outcome → ∀ q, (∃ faults limiter,
        (limiter = p.gateway.limiter ∨ limiter = chargedLimiter p s) ∧
          q = asked faults cache limiter p) → Charged s p outcome q := by
      rintro outcome late _ ⟨faults, limiter, charge, rfl⟩
      exact ⟨faults, cache, limiter, remembers,
        charge.imp_right fun same => ⟨access, late, same⟩, rfl⟩
    refine .checked (tells_isRateLimited s _) (fun q known => ⟨charged _ ?_ q known,
      charged _ ?_ q known⟩) fun _ q known => ⟨q, id, .inl ⟨charged _ isLate_none q known, rfl, rfl⟩⟩
    · rintro _ ⟨⟩
      decide
    · rintro _ ⟨⟩
      decide
  simp only [Bool.decide_eq_true, Bool.not_eq_false'] at checks
  exact checks

omit [Quantity α] in
theorem settles_formatAndSize (s : Submission) {found : Found} {endpoint : Endpoint}
    (known : p.backend.endpoints.get? s.key.endpoint = some endpoint)
    (resolved : found.endpoint = some endpoint) :
    Settles (fun outcome q => IsLate outcome ∧ q = p) (formatConditions p s)
      { found with
        valid := fitting p.backend s.key s.logs
        invalid := s.logs.length - (fitting p.backend s.key s.logs).length }
      p (formatAndSize s found) := by
  have none : (s.logs.filter (fits endpoint)).isEmpty = ! s.logs.any (fits endpoint) := by
    rw [Bool.eq_iff_iff]
    simp
  have few : (s.kind = .single || ! endpoint.isTooMany s.logs.length : Bool) =
      ! decide (s.kind = .batch ∧ endpoint.isTooMany s.logs.length) := by
    cases s.kind <;> simp
  refine ⟨p, id, ?_⟩
  unfold formatConditions formatAndSize fitting Explains
  rw [known, resolved]
  simp only [Option.any_some, firstFailing_cons, few, none]
  by_cases many : s.kind = .batch ∧ endpoint.isTooMany s.logs.length
  · simp only [many, and_self, decide_true]
    refine .inr ⟨_, ⟨?_, trivial⟩, .inl rfl, rfl⟩
    rintro _ ⟨⟩
    decide
  · simp only [many, decide_false]
    cases s.logs.any (fits endpoint) with
    | false =>
        refine .inr ⟨_, ⟨?_, trivial⟩, .inl rfl, rfl⟩
        rintro _ ⟨⟩
        decide
    | true => exact .inl ⟨⟨isLate_none, trivial⟩, rfl, rfl⟩

/-! ## The whole chain -/

def Asked (s : Submission) (p : Pipeline α) (outcome : Option Rejection) (q : Pipeline α) : Prop :=
  ∃ faults cache limiter, Remembers s.key s.clientIp p cache ∧
    (limiter = p.gateway.limiter ∨ firstFailing (accessible p s) = none ∧ IsLate outcome ∧
      limiter = chargedLimiter p s) ∧
    q = asked faults cache limiter p

def foundFor (s : Submission) (p : Pipeline α) : Found :=
  { endpoint := p.backend.endpoints.get? s.key.endpoint
    valid := fitting p.backend s.key s.logs
    invalid := s.logs.length - (fitting p.backend s.key s.logs).length }

def turnedAway (reason : Rejection) (q : Pipeline α) : Reception × Pipeline α :=
  (.rejected reason, (reject reason q).2)

def rejectionCounted (reason : Rejection) (t : Telemetry) : Telemetry :=
  reason.label?.elim t t.rejected

omit [Quantity α] in
theorem turnedAway_apply (reason : Rejection) (q : Pipeline α) :
    turnedAway reason q = (.rejected reason, { q with backend := { q.backend with
      telemetry := rejectionCounted reason q.backend.telemetry } }) := by
  unfold turnedAway reject rejectionCounted
  cases reason.label? <;> rfl

def Leads (left : Option Rejection → Pipeline α → Prop) (conditions : List Condition)
    (p : Pipeline α) (next : Pipeline α → Reception × Pipeline α)
    (run : Reception × Pipeline α) : Prop :=
  ∃ q, Spares p q ∧
    ((left none q ∧ firstFailing conditions = none ∧ run = next q) ∨
      ∃ reason, left (some reason) q ∧ Explains p conditions reason ∧ run = turnedAway reason q)

section Stages

variable {s : Submission} {found : Found} {finish : Found → Reception}

omit [Quantity α] in
theorem reject_apply (reason : Rejection) (q : Pipeline α) :
    reject reason q = (.halt (.rejected reason), (reject reason q).2) := by
  unfold reject
  cases reason.label? <;> rfl

omit [Quantity α] in
theorem Settles.leads (stage : Stage (Step α) Submission Found Reception)
    (settles : Settles left conditions after p (stage.run s found))
    (rest : List (Stage (Step α) Submission Found Reception)) :
    Leads left conditions p (Chain.runStages finish s rest after)
      (Chain.runStages finish s (stage :: rest) found p) := by
  obtain ⟨q, spares, ⟨leaves, holds, ran⟩ | ⟨reason, leaves, explained, ran⟩⟩ := settles
  · refine ⟨q, spares, .inl ⟨leaves, holds, ?_⟩⟩
    rw [runStages_cons, ran]
  · refine ⟨q, spares, .inr ⟨reason, leaves, explained, ?_⟩⟩
    rw [runStages_cons, ran, reject_apply]
    rfl

omit [Quantity α] in
theorem Leads.weaken {run : Reception × Pipeline α} {next : Pipeline α → Reception × Pipeline α}
    (leads : Leads left conditions p next run)
    (weaker : ∀ outcome q, left outcome q → later outcome q) :
    Leads later conditions p next run := by
  obtain ⟨q, spares, ⟨leaves, wentOn⟩ | ⟨reason, leaves, rejected⟩⟩ := leads
  · exact ⟨q, spares, .inl ⟨weaker none q leaves, wentOn⟩⟩
  · exact ⟨q, spares, .inr ⟨reason, weaker _ q leaves, rejected⟩⟩

omit [Quantity α] in
theorem Leads.trans {more : List Condition} {run : Reception × Pipeline α}
    {middle next : Pipeline α → Reception × Pipeline α}
    (leads : Leads left conditions p middle run)
    (rejects : ∀ reason q, left (some reason) q → later (some reason) q)
    (rest : firstFailing conditions = none → ∀ q, left none q → Leads later more q next (middle q)) :
    Leads later (conditions ++ more) p next run := by
  unfold Leads Explains
  rw [firstFailing_append]
  obtain ⟨q, spares, ⟨leaves, holds, ran⟩ | ⟨reason, leaves, explained, ran⟩⟩ := leads
  · obtain ⟨r, spared, verdict⟩ := rest holds q leaves
    rw [holds, Option.none_or, ran]
    refine ⟨r, spared ∘ spares, verdict.imp_right ?_⟩
    rintro ⟨cause, left, explained, rejected⟩
    exact ⟨cause, left, explained.imp_right fun broke => ⟨broke.1 ∘ spares, broke.2⟩, rejected⟩
  · refine ⟨q, spares, .inr ⟨reason, rejects reason q leaves, explained.imp_left ?_, ran⟩⟩
    intro fails
    rw [fails, Option.some_or]

omit [Quantity α] in
theorem exists_endpoint (fine : firstFailing (basicConditions p s) = none) :
    ∃ endpoint, p.backend.endpoints.get? s.key.endpoint = some endpoint := by
  rw [firstFailing_eq_none_iff] at fine
  exact Option.isSome_iff_exists.mp
    (fine (_, .endpointNotFound) (List.mem_cons_of_mem _ List.mem_cons_self))

end Stages

def finalStage (s : Submission) : Stage (Step α) Submission Found Reception :=
  match s.kind with
  | .single => ⟨"buffer_single", intoBuffer⟩
  | .batch => ⟨"create_batch", intoBatch⟩

theorem submit_leads (s : Submission) (p : Pipeline α) :
    Leads (Asked s p) (Admission.conditions p s) p
      (Chain.runStages (chain (α := α) s.kind).finish s [finalStage s] (foundFor s p))
      (submit s p) := by
  have whole : Admission.conditions p s = basicConditions p s ++
      ((accessConditions p s ++ [(hasToken p s, .rateLimited)]) ++ formatConditions p s) := by
    simp only [Admission.conditions, accessible, List.append_assoc, List.cons_append,
      List.nil_append]
  have start : submit s p = Chain.runStages (chain (α := α) s.kind).finish s
      [⟨"basic", basic⟩, ⟨"auth_limit", accessAndRate⟩, ⟨"format_size", formatAndSize⟩,
        finalStage s] .nothing p := rfl
  rw [whole, start]
  refine (Settles.leads ⟨"basic", basic⟩ (settles_basic s .nothing p) _).trans ?_
    fun basics q left => ?_
  · rintro _ _ ⟨faults, rfl⟩
    exact ⟨faults, _, _, .inl rfl, .inl rfl, rfl⟩
  obtain ⟨first, rfl⟩ := left
  -- The second stage asks of what the first has left; that is told of the beginning here.
  have weaker : ∀ outcome q, Charged s (asked first p.gateway.cache p.gateway.limiter p) outcome q →
      Asked s p outcome q := by
    rintro _ _ ⟨faults, cache, limiter, remembers, charged, rfl⟩
    refine ⟨faults, cache, limiter, remembers, charged.imp_right fun paid => ⟨?_, paid.2⟩, rfl⟩
    rw [accessible, firstFailing_append, basics]
    exact paid.1
  refine (Settles.leads ⟨"auth_limit", accessAndRate⟩ (settles_accessAndRate s _ _) _).trans
    (fun reason => weaker (some reason)) fun _ r left => ?_
  obtain ⟨endpoint, known⟩ := exists_endpoint basics
  have resolved : ({ Found.nothing with
      endpoint := p.backend.endpoints.get? s.key.endpoint } : Found).endpoint = some endpoint :=
    known
  obtain ⟨faults, cache, limiter, remembers, charged, rfl⟩ := weaker none r left
  have settled := settles_formatAndSize (p := asked faults cache limiter p) s known resolved
  refine (Settles.leads ⟨"format_size", formatAndSize⟩ settled _).weaken ?_
  rintro outcome _ ⟨late, rfl⟩
  exact ⟨faults, cache, limiter, remembers,
    charged.imp_right fun paid => ⟨paid.1, late, paid.2.2⟩, rfl⟩

end Admission

end LogPipeline
