import Telemetry.Binary64.Basic
import Telemetry.Log
import Telemetry.Pattern
import Telemetry.Text.Quoted
import Telemetry.Url

namespace Telemetry

/-- What ends the building or the matching of a profile. -/
inductive Fault where
  | url (fault : Url.Fault)
  | pattern (fault : Pattern.Fault)
  | timeoutTooLong
deriving DecidableEq, Repr

/-- Milliseconds as seconds. Floating-point numbers do not reach all whole numbers. -/
def seconds (millis : Int) : Except Fault Binary64 :=
  match Binary64.ofInt? millis with
  | some x => .ok (x.div Binary64.thousand)
  | none => .error .timeoutTooLong

/-- A computation that reports and may end with a fault. What was reported before it stays. -/
abbrev Building := ExceptT Fault Log.Noting

namespace Building

/-- The pattern that a text stands for. A malformed one is reported, and then there is none. -/
def pattern (source context : String) : Building (Option Pattern) := do
  match Pattern.compile source with
  | .ok pattern => pure (some pattern)
  | .error .malformed =>
    Log.note ⟨.error, .profile, "Invalid regular expression " ++ Text.quoted source ++ " for " ++
      context ++ ": <re.error>"⟩
    pure none
  | .error fault => throw (.pattern fault)

def url (text : String) : Building Url :=
  match Url.read text with
  | .ok url => pure url
  | .error fault => throw (.url fault)

end Building

end Telemetry
