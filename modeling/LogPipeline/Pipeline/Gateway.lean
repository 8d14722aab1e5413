import LogPipeline.Access.Authentication
import LogPipeline.Pipeline.State

namespace LogPipeline.Pipeline

open Backend

variable {α : Type}

def authenticateAt (request : AuthRequest) (now : Timestamp) :
    Step α (Except Failure (Except AuthRefusal AuthContext)) := do
  match ← call (findAppByKey request.accessKey) with
  | .error e => return .error e
  | .ok app? => return .ok (authenticate app? request (← get).gateway.validityMs now)

def cached? (q : Question) : Step α (Option Bool) := do
  let p ← get
  return p.gateway.cache.get? p.instant q

def remember (q : Question) (allowed : Bool) : Step α Unit :=
  modify fun p => { p with gateway := { p.gateway with
    cache := p.gateway.cache.insert p.instant q allowed } }

def authorize (context : AuthContext) (permission : Permission) : Step α Bool := do
  let q : Question := ⟨context.app, permission, context.clientIp⟩
  match ← cached? q with
  | some allowed => return allowed
  | none =>
    let allowed := context.may permission (← get).now
    remember q allowed
    return allowed

/-- Decides whether an app may use an endpoint. An app that is not known may not, and that is not
remembered. -/
def authorizeEndpoint (key : Key) (clientIp : String) : Step α (Except Failure Bool) := do
  let q : Question := ⟨key.app, .endpoint key.endpoint, clientIp⟩
  match ← cached? q with
  | some allowed => return .ok allowed
  | none =>
    match ← call (findApp key.app) with
    | .error e => return .error e
    | .ok none => return .ok false
    | .ok (some app) =>
      let now := (← get).now
      let allowed := (AuthContext.ofApp app clientIp .none now).may q.permission now
      remember q allowed
      return .ok allowed

def allowsIp (app : AppId) (clientIp : String) : Step α (Except Failure Bool) := do
  if clientIp.isEmpty then return .ok true
  match ← call (findApp app) with
  | .error e => return .error e
  | .ok none => return .ok false
  | .ok (some app) => return .ok (app.allowsIp clientIp)

def onLimiter {β : Type} (f : Limiter α → β × Limiter α) : Step α β := fun p =>
  let (answer, limiter) := f p.gateway.limiter
  (answer, { p with gateway := { p.gateway with limiter } })

def isRateLimited [Quantity α] (key : Key) (tokens : UInt32) : Step α (Except Failure Bool) := do
  match ← call (findApp key.app) with
  | .error e => return .error e
  | .ok app? =>
    if let some app := app? then
      let instant := (← get).instant
      let _ ← onLimiter fun l => l.sync key app.rateLimit app.burstCapacity instant
    let ok ← onLimiter fun l => l.tryAcquire key tokens
    return .ok (! ok)

def evictDecisions : Step α Nat := fun p =>
  let (count, cache) := p.gateway.cache.evict p.instant
  (count, { p with gateway := { p.gateway with cache } })

def refillLimiter [Quantity α] : Step α Unit :=
  modify fun p => { p with gateway := { p.gateway with
    limiter := p.gateway.limiter.refillAll p.instant } }

end LogPipeline.Pipeline
