import Telemetry.Fault
import Telemetry.Profile

namespace Telemetry

/-- A probe: the page to fetch, the pattern of a line on it, and the port to reach first. -/
structure Probe where
  url : Option String
  pattern : Option Pattern
  port : Option Int
deriving DecidableEq, Repr

namespace Probe

/-- The pattern of a probe. An empty text gives none. -/
def patternOf (expr : Option String) (name : String) : Building (Option Pattern) :=
  match expr with
  | none => pure none
  | some expr =>
    if expr = "" then pure none else Building.pattern (unquote expr) (name ++ " test.expr")

/-- The port of a probe. A text that is no number is reported. -/
def portOf (port : Option String) (name : String) : Log.Noting (Option Int) := do
  match port with
  | none => pure none
  | some text =>
    match Text.readInt text with
    | some port => pure (some port)
    | none =>
      Log.note ⟨.error, .profile, "test.port=" ++ text ++ " in " ++ name ++ " is not a port number"⟩
      pure none

/-- The probe that a profile's properties give. -/
def ofProperties (properties : Properties) (name : String) : Building Probe := do
  let pattern ← patternOf (properties.lookup "test.expr") name
  let port ← portOf (properties.lookup "test.port") name
  let url := ((properties.lookup "test.url").filter (· ≠ "")).map Text.strip
  pure ⟨url, pattern, port⟩

/-- The port to reach before the page at a url is fetched: the probe's own, else the url's. -/
def portFor (probe : Probe) (url : String) : Except Url.Fault Int :=
  match probe.port with
  | some port => .ok port
  | none => (Url.read url).map fun url => url.port

end Probe

end Telemetry
