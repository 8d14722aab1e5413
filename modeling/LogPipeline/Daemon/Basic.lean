import LogPipeline.Net.Listen
import LogPipeline.Service
import LogPipeline.Settings.Reader

namespace LogPipeline

inductive OutputFormat where
  | json
  | pretty
  deriving DecidableEq, Repr

inductive DaemonError where
  | loading (path : String) (cause : ServiceError)
  | overridden (cause : SettingsError)
  | settings (cause : SettingsError)
  | pipelineConfig (cause : Failure)
  | outputFormat (name : String)
  | listen (cause : ListenError)
  | starting (cause : ServiceError)
  | stopping (cause : ServiceError)
  deriving DecidableEq, Repr

namespace DaemonError

def chain : DaemonError → List String
  | .loading path cause => ("failed to load config from " ++ path) :: cause.chain
  | .overridden cause => "invalid configuration" :: (ServiceError.settings cause).chain
  | .settings cause => "config validation failed" :: (ServiceError.settings cause).chain
  | .pipelineConfig cause => ["reception config validation failed", cause.message]
  | .outputFormat name =>
    ["unknown log format '" ++ name ++ "', expected 'json' or 'pretty'"]
  | .listen (.invalidAddress address) =>
    [(ListenError.invalidAddress address).message, "invalid socket address syntax"]
  | .listen cause => [cause.message]
  | .starting cause => "failed to start reception service" :: cause.chain
  | .stopping cause => "failed to stop reception service" :: cause.chain

def line (e : DaemonError) : String :=
  ": ".intercalate e.chain

def indented (first margin text : String) : String :=
  first ++ ("\n" ++ margin).intercalate (text.splitOn "\n") ++ "\n"

def numbered : Nat → List String → String
  | _, [] => ""
  | n, cause :: rest =>
    indented ("    " ++ toString n ++ ": ") "       " cause ++ numbered (n + 1) rest

def report (e : DaemonError) : String :=
  match e.chain with
  | [] => ""
  | [message] => "Error: " ++ message ++ "\n"
  | [message, cause] =>
    "Error: " ++ message ++ "\n\nCaused by:\n" ++ indented "    " "    " cause
  | message :: causes => "Error: " ++ message ++ "\n\nCaused by:\n" ++ numbered 0 causes

end DaemonError

def OutputFormat.ofName (name : String) : Except DaemonError OutputFormat :=
  if name = "json" then .ok .json
  else if name = "pretty" then .ok .pretty
  else .error (.outputFormat name)

structure Daemon (α : Type) where
  settings : Settings
  service : Service α

namespace Daemon

variable {α : Type}

def check (s : Settings) : Except DaemonError Unit := do
  s.validate.mapError .settings
  (PipelineConfig.ofSettings s).validate.mapError .pipelineConfig
  if s.metrics.enabled then
    let _ ← s.metrics.listenAddress.mapError .listen

def ofSettings (s : Settings) (processors : Nat) (ids : IdSource) (epoch : Int) :
    Except DaemonError (Daemon α) := do
  check s
  let backend := Backend.empty ids .defaults
  let service ← (Service.build (.ofSettings s) processors backend epoch).mapError .pipelineConfig
  return ⟨s, service⟩

def load (path : String) (file : FileRead) (env : Environment) (processors : Nat) (ids : IdSource)
    (epoch : Int) : Except DaemonError (Daemon α) := do
  ofSettings (← (Settings.load path file env).mapError (.loading path)) processors ids epoch

def onService {β : Type} (act : StateM (Service α) β) : StateM (Daemon α) β := fun d =>
  let (answer, service) := act d.service
  (answer, { d with service })

def runFor [Quantity α] (millis : Nat) : StateM (Daemon α) (Except DaemonError Unit) :=
  onService do
    match ← Service.start with
    | .error cause => return .error (.starting cause)
    | .ok () =>
      Service.onPipeline (Pipeline.advance millis)
      match ← Service.stop with
      | .error cause => return .error (.stopping cause)
      | .ok () => return .ok ()

def components (d : Daemon α) : List ComponentHealth :=
  [⟨"reception", d.service.health⟩]

def health (d : Daemon α) : Health :=
  ComponentHealth.overall d.components

end Daemon

end LogPipeline
