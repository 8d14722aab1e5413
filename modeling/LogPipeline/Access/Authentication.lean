import LogPipeline.Access.Permission
import LogPipeline.Access.Signature
import LogPipeline.Log.Instant

namespace LogPipeline

structure AuthRequest where
  accessKey : String
  signature : String
  /-- Milliseconds of the epoch, as sent. -/
  timestamp : String
  clientIp : String
  method : AuthMethod
  body : String

inductive AuthRefusal where
  | accessKey
  | status (status : AppStatus)
  | expired
  | timestampFormat
  | timestamp
  | signature
  deriving DecidableEq, Repr

namespace AuthRefusal

def code : AuthRefusal → String
  | .accessKey => "AUTH_001"
  | .status _ => "AUTH_002"
  | .expired => "AUTH_003"
  | .timestamp => "AUTH_004"
  | .timestampFormat => "AUTH_005"
  | .signature => "AUTH_006"

def summary : AuthRefusal → String
  | .accessKey => "invalid access key"
  | .status _ => "invalid app status"
  | .expired => "app access expired"
  | .timestamp => "timestamp outside validity window"
  | .timestampFormat => "timestamp is not epoch milliseconds"
  | .signature => "signature validation failed"

def message (r : AuthRefusal) : String :=
  match r with
  | .status s => r.summary ++ ": " ++ s.label
  | r => r.summary

def text (r : AuthRefusal) : String :=
  r.code ++ ": " ++ r.summary

end AuthRefusal

def authenticate (app? : Option App) (request : AuthRequest) (validityMs : UInt64)
    (now : Timestamp) : Except AuthRefusal AuthContext := do
  let some app := app? | throw .accessKey
  if ! app.isActive then throw (.status app.status)
  if app.isExpiredAt now then throw .expired
  let trimmed := String.ofList (Text.trim request.timestamp.toList)
  let some sent := readInt64? trimmed | throw .timestampFormat
  if validityMs.toNat < (now.millis - sent).natAbs then throw .timestamp
  if request.method = .signature ∧
      ! Signature.verify request.signature app.secretKey request.accessKey request.timestamp
        request.body then
    throw .signature
  return AuthContext.ofApp app request.clientIp request.method now

end LogPipeline
