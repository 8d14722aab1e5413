import LogPipeline.Net.Address
import LogPipeline.Settings.Basic

namespace LogPipeline

inductive ListenError where
  | unsupportedEndpoint (endpoint : String)
  | invalidAddress (address : String)
  deriving DecidableEq, Repr

def ListenError.message : ListenError → String
  | .unsupportedEndpoint endpoint =>
    "unsupported metrics endpoint '" ++ endpoint ++ "': only '/metrics' is currently supported"
  | .invalidAddress address => "invalid metrics listen address '" ++ address ++ "'"

def MetricsSettings.listenAddress (s : MetricsSettings) : Except ListenError Net.SocketAddress :=
  if s.endpoint ≠ "/metrics" then .error (.unsupportedEndpoint s.endpoint)
  else
    match Net.SocketAddress.ofText? (s.listenAddr ++ ":" ++ toString s.port) with
    | some address => .ok address
    | none => .error (.invalidAddress s.listenAddr)

end LogPipeline
