import LogPipeline.Registry.App

/-!
# Permissions

What an app may ask to do, and what is known of an app when it asks. A context is a copy: later
changes of the app do not reach it.
-/

namespace LogPipeline

inductive Permission where
  | endpoint (id : EndpointId)
  | api (name : String)
  | resource (name operation : String)
  | feature (name : String)
  deriving DecidableEq, Repr

def Permission.text : Permission → String
  | .endpoint id => "endpoint:" ++ id.text
  | .api name => "api:" ++ name
  | .resource name operation => "resource:" ++ name ++ ":" ++ operation
  | .feature name => "feature:" ++ name

inductive AuthMethod where
  | signature
  | apiKey
  | ipBased
  | none
  deriving DecidableEq, Repr

def AuthMethod.label : AuthMethod → String
  | .signature => "HmacSignature"
  | .apiKey => "ApiKey"
  | .ipBased => "IpBased"
  | .none => "None"

structure AuthContext where
  app : AppId
  clientIp : String
  authenticatedAt : Timestamp
  method : AuthMethod
  status : AppStatus
  expiry : Option Timestamp
  allowedEndpoints : NameSet
  allowedIps : NameSet
  rateLimit : UInt32
  burstCapacity : UInt32
  deriving DecidableEq

namespace AuthContext

def ofApp (app : App) (clientIp : String) (method : AuthMethod) (now : Timestamp) : AuthContext :=
  { app := app.id
    clientIp, method
    authenticatedAt := now
    status := app.status
    expiry := app.expiry
    allowedEndpoints := app.allowedEndpoints
    allowedIps := app.allowedIps
    rateLimit := app.rateLimit
    burstCapacity := app.burstCapacity }

def isActiveAt (c : AuthContext) (now : Timestamp) : Bool :=
  c.status = .active &&
    match c.expiry with
    | .none => true
    | some expiry => now < expiry

def allowsIp (c : AuthContext) (ip : String) : Bool :=
  c.allowedIps.admits ip

def allowsEndpoint (c : AuthContext) (endpoint : EndpointId) : Bool :=
  c.allowedEndpoints.admits endpoint.text

/-- Decides whether the app may do what it asks. Only the use of endpoints is restricted further
than to active apps at allowed addresses. -/
def may (c : AuthContext) (permission : Permission) (now : Timestamp) : Bool :=
  c.isActiveAt now && (c.clientIp.isEmpty || c.allowsIp c.clientIp) &&
    match permission with
    | .endpoint id => c.allowsEndpoint id
    | _ => true

end AuthContext

end LogPipeline
