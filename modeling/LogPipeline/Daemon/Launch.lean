import LogPipeline.Daemon.Basic
import LogPipeline.Daemon.CommandLine

namespace LogPipeline

inductive Launch where
  | finished (output : String)
  | refused (reason : CliStop)
  | failed (error : DaemonError)
  | runs (settings : Settings)

namespace Launch

def settings (c : CommandLine) (files : String → FileRead) (env : Environment) :
    Except DaemonError Settings := do
  let loaded ← (Settings.load c.configPath (files c.configPath) env).mapError
    (.loading c.configPath)
  let s := c.override loaded
  s.validate.mapError .overridden
  return s

def ofArgs (args : List String) (files : String → FileRead) (env : Environment) : Launch :=
  match CommandLine.parse args with
  | .error (.help long) => .finished (CommandLine.helpText long)
  | .error .version => .finished CommandLine.versionText
  | .error reason => .refused reason
  | .ok c =>
    match settings c files env with
    | .error e => .failed e
    | .ok s =>
      if c.validateOnly then .finished ("configuration OK: " ++ c.configPath ++ "\n")
      else
        match OutputFormat.ofName s.general.logFormat, Daemon.check s with
        | .error e, _ => .failed e
        | .ok _, .error e => .failed e
        | .ok _, .ok () => .runs s

end Launch

end LogPipeline
