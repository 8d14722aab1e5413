import LogPipeline.Log.Basic

namespace LogPipeline

inductive EndpointStatus where
  | active
  | inactive
  | overloaded
  | error
  deriving DecidableEq, Repr, Inhabited

namespace EndpointStatus

def name : EndpointStatus → String
  | .active => "ACTIVE"
  | .inactive => "INACTIVE"
  | .overloaded => "OVERLOADED"
  | .error => "ERROR"

def all : List EndpointStatus := [.active, .inactive, .overloaded, .error]

def named : List (String × EndpointStatus) := all.map fun s => (s.name, s)

end EndpointStatus

structure Endpoint where
  id : EndpointId
  name : String
  format : LogFormat
  /-- The most bytes of a log. -/
  maxPayload : UInt64
  /-- The most logs of a submitted batch, zero for any number. -/
  maxBatch : UInt64
  status : EndpointStatus
  bufferingEnabled : Bool
  bufferingTimeMs : UInt64
  bufferingSize : UInt64
  allowedApps : NameSet
  deriving DecidableEq, Inhabited

namespace Endpoint

def new (id : EndpointId) (format : LogFormat) : Endpoint :=
  { id, format
    name := id.text
    maxPayload := 1048576
    maxBatch := 1000
    status := .active
    bufferingEnabled := true
    bufferingTimeMs := 5000
    bufferingSize := 100
    allowedApps := .empty }

def isActive (e : Endpoint) : Bool :=
  e.status = .active

def allowsApp (e : Endpoint) (app : AppId) : Bool :=
  e.allowedApps.admits app.text

def isTooLarge (e : Endpoint) (bytes : Nat) : Bool :=
  e.maxPayload.toNat < bytes

def isTooMany (e : Endpoint) (count : Nat) : Bool :=
  e.maxBatch ≠ 0 && e.maxBatch.toNat < count

end Endpoint

end LogPipeline
