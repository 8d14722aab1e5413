import LogPipeline.Collections.Dict
import LogPipeline.Failure
import LogPipeline.Identity
import LogPipeline.Time.Timestamp

namespace LogPipeline

inductive AppStatus where
  | active
  | inactive
  | blocked
  | expired
  deriving DecidableEq, Repr, Inhabited

namespace AppStatus

/-- The name in documents. -/
def name : AppStatus → String
  | .active => "ACTIVE"
  | .inactive => "INACTIVE"
  | .blocked => "BLOCKED"
  | .expired => "EXPIRED"

/-- The name in messages. -/
def label : AppStatus → String
  | .active => "Active"
  | .inactive => "Inactive"
  | .blocked => "Blocked"
  | .expired => "Expired"

def all : List AppStatus := [.active, .inactive, .blocked, .expired]

def named : List (String × AppStatus) := all.map fun s => (s.name, s)

end AppStatus

structure App where
  id : AppId
  accessKey : String
  secretKey : String
  status : AppStatus
  /-- The access ends here; without it, it never ends. -/
  expiry : Option Timestamp
  allowedIps : NameSet
  allowedEndpoints : NameSet
  /-- Requests per second. -/
  rateLimit : UInt32
  /-- Requests at once. -/
  burstCapacity : UInt32
  deriving DecidableEq, Inhabited

namespace App

def defaultRateLimit : UInt32 := 100

def defaultBurstCapacity : UInt32 := 200

def new (id : AppId) (accessKey secretKey : String) : App :=
  { id, accessKey, secretKey
    status := .active
    expiry := none
    allowedIps := .empty
    allowedEndpoints := .empty
    rateLimit := defaultRateLimit
    burstCapacity := defaultBurstCapacity }

def withExpiry (app : App) (expiry : Timestamp) : App :=
  { app with expiry := some expiry }

def withAllowedIps (app : App) (ips : List String) : App :=
  { app with allowedIps := .ofList ips }

def withAllowedEndpoints (app : App) (endpoints : List EndpointId) : App :=
  { app with allowedEndpoints := .ofList (endpoints.map (·.text)) }

def withStatus (app : App) (status : AppStatus) : App :=
  { app with status }

def isActive (app : App) : Bool :=
  app.status = .active

def isExpiredAt (app : App) (now : Timestamp) : Bool :=
  match app.expiry with
  | none => false
  | some expiry => ! (now < expiry)

def allowsIp (app : App) (ip : String) : Bool :=
  app.allowedIps.admits ip

def allowsEndpoint (app : App) (endpoint : EndpointId) : Bool :=
  app.allowedEndpoints.admits endpoint.text

/-- Changes an app where it is kept. What was changed before a failure stays changed. -/
abbrev Edit := ExceptT Failure (StateM App)

def edited (app : App) (edit : Edit Unit) : Except Failure Unit × App :=
  edit.run.run app

def moveTo (target : AppStatus) : Edit Unit := do
  let app ← get
  if app.status = .blocked then
    throw (.invalidState
      ("app " ++ app.id.text ++ " is blocked and cannot become " ++ target.label))
  set (app.withStatus target)

def activate : Edit Unit := moveTo .active

def deactivate : Edit Unit := moveTo .inactive

def block (app : App) : App :=
  app.withStatus .blocked

def markExpired (app : App) : App :=
  if app.status = .blocked then app else app.withStatus .expired

def setLimits (rateLimit burstCapacity : UInt32) : Edit Unit := do
  if burstCapacity < rateLimit then
    throw (.invalidState
      ("burst capacity " ++ toString burstCapacity ++ " is below rate limit " ++
        toString rateLimit))
  modify fun app => { app with rateLimit, burstCapacity }

def withRateLimit (app : App) (rateLimit burstCapacity : UInt32) : Except Failure App :=
  let (answer, changed) := app.edited (setLimits rateLimit burstCapacity)
  answer.map fun _ => changed

inductive Call where
  | activate
  | deactivate
  | block
  | markExpired
  | setLimits (rateLimit burstCapacity : UInt32)
  deriving DecidableEq, Repr

def Call.edit : Call → Edit Unit
  | .activate => App.activate
  | .deactivate => App.deactivate
  | .block => modify App.block
  | .markExpired => modify App.markExpired
  | .setLimits rateLimit burstCapacity => App.setLimits rateLimit burstCapacity

end App

end LogPipeline
