import LogPipeline.Registry.Endpoint

namespace LogPipeline

inductive SubmissionKind where
  | single
  | batch
  deriving DecidableEq, Repr

structure Submission where
  key : Key
  logs : List RawLog
  kind : SubmissionKind

def Submission.clientIp (s : Submission) : String :=
  match s.logs with
  | [] => ""
  | log :: _ => log.clientIp

inductive Rejection where
  | notRunning
  | emptyParameters
  | endpointNotFound
  | endpointInactive
  | appNotAllowed
  | unauthorized
  | ipNotAllowed
  | rateLimited
  | tooManyLogs
  | allLogsInvalid
  | noTerminalStage
  | internal (operation : String)
  deriving DecidableEq, Repr

namespace Rejection

def message : Rejection → String
  | .notRunning => "service not running"
  | .emptyParameters => "parameters must not be empty"
  | .endpointNotFound => "endpoint not found"
  | .endpointInactive => "endpoint not active"
  | .appNotAllowed => "app not allowed for endpoint"
  | .unauthorized => "app not authorized for endpoint"
  | .ipNotAllowed => "IP not whitelisted"
  | .rateLimited => "rate limited"
  | .tooManyLogs => "batch count exceeded"
  | .allLogsInvalid => "all logs invalid"
  | .noTerminalStage => "admission chain has no terminal stage"
  | .internal operation => "internal error: " ++ operation

/-- The name under which rejections are counted. Only those of a stage are. -/
def label? : Rejection → Option String
  | .notRunning | .noTerminalStage => none
  | .emptyParameters => some "invalid_parameters"
  | .endpointNotFound => some "endpoint_not_found"
  | .endpointInactive => some "endpoint_inactive"
  | .appNotAllowed => some "app_not_allowed"
  | .unauthorized => some "unauthorized"
  | .ipNotAllowed => some "ip_not_whitelisted"
  | .rateLimited => some "rate_limited"
  | .tooManyLogs => some "batch_count_exceeded"
  | .allLogsInvalid => some "all_logs_invalid"
  | .internal _ => some "internal_error"

end Rejection

inductive Reception where
  | buffered
  /-- A batch was made; so many logs were left out as invalid. -/
  | accepted (batch : BatchId) (invalid : Nat)
  | rejected (reason : Rejection)
  deriving DecidableEq, Repr

namespace Reception

def isSuccess : Reception → Bool
  | .rejected _ => false
  | _ => true

def message : Reception → String
  | .buffered => "log buffered"
  | .accepted .. => "batch accepted"
  | .rejected reason => reason.message

end Reception

inductive Denial where
  | emptyParameters
  | appNotFound
  | lookupFailed
  | appNotActive
  | appExpired
  | ipNotAllowed
  | endpointNotAllowed
  deriving DecidableEq, Repr

def Denial.message : Denial → String
  | .emptyParameters => "parameters must not be empty"
  | .appNotFound => "app not found"
  | .lookupFailed => "app lookup failed"
  | .appNotActive => "app not active"
  | .appExpired => "app access expired"
  | .ipNotAllowed => "IP not whitelisted"
  | .endpointNotAllowed => "endpoint not allowed"

end LogPipeline
