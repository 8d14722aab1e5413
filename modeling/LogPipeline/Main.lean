import LogPipeline.Daemon.Launch

namespace LogPipeline.Program

def systemMessage (code : UInt32) (details : String) : String :=
  details ++ " (os error " ++ toString code ++ ")"

def readFile (path : String) : IO FileRead := do
  try
    return .content (← IO.FS.readBinFile path)
  catch
    | .noFileOrDirectory .. => return .missing
    | .inappropriateType _ code details => return .failed (systemMessage code details)
    | .permissionDenied _ code details => return .failed (systemMessage code details)
    | .invalidArgument _ code details => return .failed (systemMessage code details)
    | .resourceExhausted _ code details => return .failed (systemMessage code details)
    | .otherError code details => return .failed (systemMessage code details)
    | e => return .failed (toString e)

def readEnvironment : IO Environment := do
  let values ← Setting.all.mapM fun x => do
    return (x.variableName, ← IO.getEnv x.variableName)
  return fun name => (values.lookup name).join

def serve (daemon : Daemon Float) : IO (Except DaemonError Unit) := do
  let begun ← IO.monoMsNow
  discard (← IO.getStdin).readToEnd
  let ended ← IO.monoMsNow
  return (daemon.runFor (ended - begun)).1

def seedLimit : Nat := 0xFFFFFFFFFFFFFFFFFF

def fail (e : DaemonError) : IO UInt32 := do
  IO.eprint e.report
  return 1

end LogPipeline.Program

open LogPipeline Program

def main (args : List String) : IO UInt32 := do
  let file ← match CommandLine.parse args with
    | .ok c => readFile c.configPath
    | .error _ => pure .missing
  match Launch.ofArgs args (fun _ => file) (← readEnvironment) with
  | .finished output => IO.print output; return 0
  | .refused reason => IO.eprintln ("error: " ++ reason.kind); return 2
  | .failed e => fail e
  | .runs settings =>
    match Daemon.ofSettings settings 1 (.ofSeed (← IO.rand 0 seedLimit)) 0 with
    | .error e => fail e
    | .ok daemon =>
      match ← serve daemon with
      | .error e => fail e
      | .ok () => return 0
