import Telemetry.Network

namespace Telemetry.Tcp

/-- The timeout in seconds where nothing else is asked for. -/
def defaultTimeout : Binary64 := .ofRatio false 3 1

inductive Outcome where
  | connected
  | unknownHost (message : String)
  | timedOut
  | refused (message : String)
deriving DecidableEq, Repr

/-- Was the server reached? What went wrong is reported. -/
def reached (attempt : Ping) (outcome : Outcome) : Log.Noting Bool := do
  let port := toString attempt.port
  match outcome with
  | .connected => pure true
  | .unknownHost message =>
    Log.note ⟨.error, .tcp, "Host " ++ attempt.host ++ " is unknown/can not be resolved: " ++ message⟩
    pure false
  | .timedOut =>
    Log.note ⟨.warning, .tcp, "Connect to " ++ attempt.host ++ ":" ++ port ++ " timed out after " ++
      attempt.seconds.toText ++ "s"⟩
    pure false
  | .refused message =>
    Log.note ⟨.warning, .tcp, "Host " ++ attempt.host ++ " is not reachable on port " ++ port ++ ": " ++
      message⟩
    pure false

end Telemetry.Tcp
