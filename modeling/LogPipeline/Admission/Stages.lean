import LogPipeline.Admission.Answer
import LogPipeline.Admission.Chain
import LogPipeline.Pipeline.Work

namespace LogPipeline.Admission

open Pipeline

variable {α : Type}

structure Found where
  endpoint : Option Endpoint
  valid : List RawLog
  invalid : Nat

def Found.nothing : Found := ⟨none, [], 0⟩

abbrev Result := Verdict Found Reception

def reject (reason : Rejection) : Step α Result := do
  if let some label := reason.label? then
    record fun t => t.rejected label
  return .halt (.rejected reason)

def checked (operation : String) (answer : Except Failure Bool) (reason : Rejection)
    (expected : Bool) (next : Step α Result) : Step α Result :=
  match answer with
  | .error _ => reject (.internal operation)
  | .ok b => if b = expected then next else reject reason

def basic (s : Submission) (found : Found) : Step α Result := do
  if s.logs.isEmpty || s.key.app.isBlank || s.key.endpoint.isBlank then reject .emptyParameters
  else
    match ← call (Backend.findEndpoint s.key.endpoint) with
    | .error _ => reject (.internal "find_endpoint_by_id")
    | .ok none => reject .endpointNotFound
    | .ok (some endpoint) =>
      if ! endpoint.isActive then reject .endpointInactive
      else if ! endpoint.allowsApp s.key.app then reject .appNotAllowed
      else return .goOn { found with endpoint := some endpoint }

def accessAndRate [Quantity α] (s : Submission) (found : Found) : Step α Result := do
  checked "authorize_endpoint" (← authorizeEndpoint s.key s.clientIp) .unauthorized true do
    checked "is_ip_whitelisted" (← allowsIp s.key.app s.clientIp) .ipNotAllowed true do
      checked "is_rate_limited" (← isRateLimited s.key 1) .rateLimited false do
        return .goOn found

def fits (endpoint : Endpoint) (log : RawLog) : Bool :=
  log.format = endpoint.format && ! endpoint.isTooLarge log.size

def formatAndSize (s : Submission) (found : Found) : Step α Result := do
  match found.endpoint with
  | none => reject (.internal "format_size")
  | some endpoint =>
    if s.kind = .batch ∧ endpoint.isTooMany s.logs.length then reject .tooManyLogs
    else
      let valid := s.logs.filter (fits endpoint)
      if valid.isEmpty then reject .allLogsInvalid
      else return .goOn { found with valid, invalid := s.logs.length - valid.length }

def intoBuffer (s : Submission) (found : Found) : Step α Result := do
  found.valid.forM fun log => discard (addLog s.key log)
  record fun t => t.logsReceived s.key (.ofNat found.valid.length)
  return .halt .buffered

def intoBatch (s : Submission) (found : Found) : Step α Result := do
  let now := (← get).now
  match ← call (Backend.newBatch s.key found.valid now) with
  | .error _ => reject (.internal "save")
  | .ok batch =>
    match ← call (Backend.saveBatch batch) with
    | .error _ => reject (.internal "save")
    | .ok () =>
      record fun t => (t.batchReceived s.key).logsReceived s.key (.ofNat found.valid.length)
      announce batch.id
      return .halt (.accepted batch.id found.invalid)

def chain [Quantity α] (kind : SubmissionKind) : Chain (Step α) Submission Found Reception :=
  { name := match kind with
      | .single => "reception_single"
      | .batch => "reception_batch"
    stages :=
      [⟨"basic", basic⟩, ⟨"auth_limit", accessAndRate⟩, ⟨"format_size", formatAndSize⟩,
        match kind with
        | .single => ⟨"buffer_single", intoBuffer⟩
        | .batch => ⟨"create_batch", intoBatch⟩]
    finish := fun _ => .rejected .noTerminalStage }

def submit [Quantity α] (s : Submission) : Step α Reception :=
  (chain s.kind).run s .nothing

def checkAccess (key : Key) (clientIp : String) : Step α (Except Denial Unit) := do
  if key.app.isBlank || key.endpoint.isBlank then return throw .emptyParameters
  match ← call (Backend.findApp key.app) with
  | .error _ => return throw .lookupFailed
  | .ok none => return throw .appNotFound
  | .ok (some app) =>
    let now := (← get).now
    return do
      if ! app.isActive then throw .appNotActive
      if app.isExpiredAt now then throw .appExpired
      if ! clientIp.isEmpty ∧ ! app.allowsIp clientIp then throw .ipNotAllowed
      if ! app.allowsEndpoint key.endpoint then throw .endpointNotAllowed

end LogPipeline.Admission
