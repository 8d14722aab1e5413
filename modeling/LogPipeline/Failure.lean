namespace LogPipeline

inductive Failure where
  | config (field reason : String)
  | repository (operation reason : String)
  | gateway (system reason : String)
  | batchNotFound (id : String)
  | refused (reason : String)
  | invalidState (reason : String)
  | interrupted
  deriving DecidableEq, Repr, Inhabited

def Failure.message : Failure → String
  | .config field reason => "config error: " ++ field ++ ": " ++ reason
  | .repository operation reason => "repository error: " ++ operation ++ ": " ++ reason
  | .gateway system reason => "gateway error: " ++ system ++ ": " ++ reason
  | .batchNotFound id => "batch not found: " ++ id
  | .refused reason => "storage rejected batch: " ++ reason
  | .invalidState reason => "invalid state: " ++ reason
  | .interrupted => "processing interrupted"

inductive SettingsError where
  | fileNotFound (path : String)
  | unparsable
  | invalidValue (field reason : String)
  deriving DecidableEq, Repr

def SettingsError.message : SettingsError → String
  | .fileNotFound path => "config file not found: " ++ path
  | .unparsable => "failed to parse config"
  | .invalidValue field reason => "invalid config value for '" ++ field ++ "': " ++ reason

inductive LifecycleError where
  | initFailed (reason : String)
  | alreadyRunning
  | notRunning
  deriving DecidableEq, Repr

def LifecycleError.message : LifecycleError → String
  | .initFailed reason => "pipeline init failed: " ++ reason
  | .alreadyRunning => "pipeline is already running"
  | .notRunning => "pipeline is not running"

inductive StorageError where
  | unavailable (reason : String)
  | rejected (reason : String)
  deriving DecidableEq, Repr

def StorageError.message : StorageError → String
  | .unavailable reason => "storage unavailable: " ++ reason
  | .rejected reason => "storage rejected write: " ++ reason

inductive ServiceError where
  | settings (cause : SettingsError)
  | lifecycle (cause : LifecycleError)
  | storage (cause : StorageError)
  | io (reason : String)
  deriving DecidableEq, Repr

namespace ServiceError

def causeMessage : ServiceError → String
  | .settings cause => cause.message
  | .lifecycle cause => cause.message
  | .storage cause => cause.message
  | .io reason => reason

def message : ServiceError → String
  | .settings cause => "config error: " ++ cause.message
  | .lifecycle cause => "pipeline error: " ++ cause.message
  | .storage cause => "storage error: " ++ cause.message
  | .io reason => "io error: " ++ reason

def chain (e : ServiceError) : List String :=
  [e.message, e.causeMessage]

end ServiceError

def Failure.toServiceError : Failure → ServiceError
  | .refused reason => .storage (.rejected reason)
  | .gateway system reason =>
    if system = "storage" then .storage (.unavailable reason)
    else .lifecycle (.initFailed (Failure.gateway system reason).message)
  | other => .lifecycle (.initFailed other.message)

end LogPipeline
