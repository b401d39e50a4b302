import Telemetry.Library
import Telemetry.Poller

namespace Telemetry

structure Service where
  library : Library
  registry : Registry
  config : Option Config := none

namespace Service

/-- A service over a library, without a configuration. -/
def ofLibrary (library : Library) (preferStrong : Bool) : Service where
  library
  registry := { library := library.ordered, preferStrong }

/-- A service over the profiles that come with the program and those of the user. -/
def start (packaged : List Profile) (files : Files) (folders : Folders) (preferStrong : Bool) :
    ExceptT FileFault Log.Noting Service := do
  pure (ofLibrary (← Library.load packaged files folders) preferStrong)

def warnings (service : Service) : List String :=
  service.library.warnings

/-- The profiles in ascending order of their names. -/
def profiles (service : Service) : List Profile :=
  service.library.ordered

/-- The device of a profile that is bound to no host. -/
def describe (profile : Profile) : Building Device :=
  Device.build profile.properties none Refresh.defaultTimeout

inductive Refusal where
  | noProfile (host : String)
  /-- A server without a device; the ids of those with one, if they have an order. -/
  | unknownServer (server : Scalar) (available : Option (List Scalar))
deriving Repr

def idText? : Scalar → Option String
  | .text text => some text
  | _ => none

/-- The ids of servers in one line, if all of them are texts; a line without text says so. -/
def idsText? (ids : List Scalar) : Option String :=
  (ids.mapM idText?).map fun texts =>
    let line := ", ".intercalate texts
    if line = "" then "<none>" else line

/-- What is said about a refusal, if it can be put into words. -/
def Refusal.message? : Refusal → Option String
  | noProfile host => some ("No profile matched host '" ++ host ++ "'.")
  | unknownServer server available => (available.bind idsText?).map fun ids =>
      "Server '" ++ server.toText ++ "' has no bound profile. Available: " ++ ids

/-- The first profile that fits a host, or a refusal. -/
def discover (service : Service) (host : String) : Attempt (Except Refusal Profile) := do
  match ← Matching.discover service.registry.library host service.registry.preferStrong
      Refresh.defaultTimeout with
  | some profile => pure (.ok profile)
  | none => pure (.error (.noProfile host))

def probeAll (service : Service) (host : String) (timeout : Int) :
    Attempt (Keyed String (Option Strength)) :=
  Matching.probeAll service.registry.library host timeout

def strengthWord : Option Strength → String
  | some strength => strength.name
  | none => "unknown"

/-- The service with another configuration in force. -/
def configure (service : Service) (config : Config) : Attempt Service := do
  pure { service with registry := ← service.registry.configure config, config := some config }

/-- The current value of a channel of a server that has a device. -/
def reading (service : Service) (server : Scalar) (channel : String) (kind : Kind) :
    Online (Service × Except Refusal (Option Reading)) := do
  if (service.registry.device? server).isNone then
    pure (service, .error (.unknownServer server service.registry.serverIds?))
  else
    let (registry, reading) ← service.registry.reading server channel kind
    pure ({ service with registry }, .ok reading)

def bindings (service : Service) : List Binding :=
  (service.config.map (·.bindings)).getD []

def poller (service : Service) : Poller :=
  Poller.ofBindings service.bindings

/-- The time between two ticks in milliseconds. -/
def granularity (service : Service) : Int :=
  (service.config.map (·.granularity)).getD Config.defaultGranularity

/-- Ticks and waits in turn, with a new poller. -/
def run (service : Service) (ticks : Nat) : Online (Service × Poller.Run) := do
  let run ← Poller.run service.granularity ticks
    { poller := service.poller, registry := service.registry }
  pure ({ service with registry := run.registry }, run)

end Service

end Telemetry
